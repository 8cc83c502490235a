import Prosopography.Proofs.Person.Appearances

/-!
# The persons of a census

A census has one person for each cluster, in the order of the clusters, and counts every
appearance in a trial that is not in the table.
-/

namespace Prosopography

/-- An appearance counts where no row of the table has its trial. -/
theorem Person.unresolvedTrials_eq (trials : TrialTable) (p : Person) :
    p.unresolvedTrials trials =
      p.appearances.countP fun a => a.trial ∉ trials.toList.map (·.id) := by
  apply List.countP_congr
  intro a _
  simp [← Bool.not_eq_true, IndexedTable.contains_iff]

namespace Census

/-- A census has persons that appear as the mentions of their clusters tell, and a true count of
appearances in unknown trials. -/
structure Collects (census : Census) (mentions : MentionTable) (trials : TrialTable)
    (cs : List Cluster) : Prop where
  persons : List.Forall₂ (fun p c => p.Collects mentions trials c) census.persons cs
  unresolved : census.unresolved =
    (census.persons.flatMap (·.appearances)).countP fun a => a.trial ∉ trials.toList.map (·.id)

variable (mentions : MentionTable) (trials : TrialTable) (format : IdFormat) (cs : List Cluster)

/-- Persons stand in the order of the clusters that they are made of. -/
theorem forall₂_persons :
    List.Forall₂ (fun p c => ∃ id, p = Person.ofCluster mentions trials id c)
      (ofClusters mentions trials format cs).persons cs := by
  have h : List.Forall₂
      (fun e c => ∃ id, Person.ofCluster mentions trials
        (.sequential format.stem format.width (e.2 + 1)) e.1 =
          Person.ofCluster mentions trials id c)
      cs.zipIdx (cs.zipIdx.map (·.1)) := by
    rw [List.forall₂_map_right_iff, List.forall₂_same]
    intro e _
    exact ⟨_, rfl⟩
  rw [List.zipIdx_map_fst] at h
  exact List.forall₂_map_left_iff.mpr h

/-- Unresolved trials are counted over the appearances of all persons together. -/
theorem unresolved_eq (persons : List Person) :
    persons.foldl (fun n p => n + p.unresolvedTrials trials) 0 =
      (persons.flatMap (·.appearances)).countP fun a => a.trial ∉ trials.toList.map (·.id) := by
  have hfold : ∀ n, persons.foldl (fun n p => n + p.unresolvedTrials trials) n =
      n + (persons.flatMap (·.appearances)).countP
        fun a => a.trial ∉ trials.toList.map (·.id) := by
    induction persons with
    | nil => simp
    | cons p rest ih =>
        intro n
        rw [List.foldl_cons, ih, List.flatMap_cons, List.countP_append, Nat.add_assoc,
          Person.unresolvedTrials_eq]
  rw [hfold, Nat.zero_add]

/-- Whatever the clusters, a census collects the appearances of their members. -/
theorem collects_ofClusters :
    (ofClusters mentions trials format cs).Collects mentions trials cs where
  persons := by
    refine (forall₂_persons mentions trials format cs).imp ?_
    rintro p c ⟨id, rfl⟩
    exact Person.collects_ofCluster
  unresolved := unresolved_eq trials _

end Census

end Prosopography
