import Prosopography.Proofs.Collection.IndexedTable
import Prosopography.Proofs.Resolution.Clusters

/-!
# The order of trials

A run looks trials up by their identifiers, and reads their table in order only to find the
outcome of a person. Where the trials stand therefore makes no difference to anything else.
-/

namespace Prosopography

namespace Person

/-- A person with the outcome left out. -/
def withoutOutcome (p : Person) : Person := { p with outcome := none }

section Perm

variable {trials trials' : TrialTable} (h : trials.toList.Perm trials'.toList)
include h

/-- Appearances do not depend on the order of the trials. -/
theorem appearances_of_perm (m : Mention) : m.appearances trials = m.appearances trials' := by
  simp only [Mention.appearances, TrialTable.yearOf, IndexedTable.get?_of_perm h]

/-- Apart from the outcome, a person does not depend on the order of the trials. -/
theorem withoutOutcome_ofCluster (mentions : MentionTable) (id : PersonId) (c : Cluster) :
    (ofCluster mentions trials id c).withoutOutcome =
      (ofCluster mentions trials' id c).withoutOutcome := by
  simp only [withoutOutcome, ofCluster, appearances_of_perm h]

theorem unresolvedTrials_of_perm (p : Person) :
    p.unresolvedTrials trials = p.unresolvedTrials trials' := by
  simp only [unresolvedTrials, IndexedTable.contains_of_perm h]

end Perm

end Person

open Person

theorem Census.attributionOf_withoutOutcome (persons : List Person) :
    attributionOf (persons.map withoutOutcome) = attributionOf persons := by
  rw [attributionOf, attributionOf, List.flatMap_map]
  rfl

namespace Transition

/-- A transition with the outcome left out. -/
def withoutOutcome (t : Transition) : Transition := { t with outcome := none }

theorem ofPerson_withoutOutcome (p : Person) :
    ofPerson p.withoutOutcome = (ofPerson p).map withoutOutcome := by
  have hseen : ∀ role, p.withoutOutcome.appearancesAs role = p.appearancesAs role := fun _ => rfl
  simp only [ofPerson, hseen]
  cases hflag : p.witnessToAccused with
  | false => simp [Person.withoutOutcome, hflag]
  | true =>
      cases earliest (dated (p.appearancesAs .witness)) with
      | none => simp
      | some w =>
          cases earliest (dated (p.appearancesAs .accused)) with
          | none => simp
          | some a => simp [Person.withoutOutcome, withoutOutcome, hflag]

theorem ofPersons_withoutOutcome (persons : List Person) :
    ofPersons (persons.map Person.withoutOutcome) = (ofPersons persons).map withoutOutcome := by
  rw [ofPersons, ofPersons, List.filterMap_map, List.map_filterMap]
  exact List.filterMap_congr fun p _ => ofPerson_withoutOutcome p

end Transition

theorem SuperWitness.ofPersons_withoutOutcome (least : Nat) (persons : List Person) :
    ofPersons least (persons.map withoutOutcome) = ofPersons least persons := by
  rw [ofPersons, ofPersons, List.filter_map, List.map_map]
  rfl

theorem Statistics.of_withoutOutcome (persons : List Person) (attribution : Attribution) :
    Statistics.of (persons.map withoutOutcome) attribution = .of persons attribution := by
  simp only [Statistics.of, List.length_map, List.isEmpty_map, List.map_map, List.countP_map]
  rfl

namespace Resolution

/-- A resolution with all outcomes left out. -/
def withoutOutcomes (r : Resolution) : Resolution :=
  { r with
    persons := r.persons.map Person.withoutOutcome
    transitions := r.transitions.map Transition.withoutOutcome }

section Perm

variable (settings : Settings) (mentions : MentionTable) {trials trials' : TrialTable}
  (h : trials.toList.Perm trials'.toList)
include h

/-- Apart from outcomes, persons do not depend on the order of the trials. -/
theorem persons_of_perm :
    (run settings mentions trials).persons.map Person.withoutOutcome =
      (run settings mentions trials').persons.map Person.withoutOutcome := by
  rw [persons_run, persons_run, List.map_map, List.map_map]
  exact List.map_congr_left fun e _ => withoutOutcome_ofCluster h mentions _ e.1

/-- What is made of persons without a look at their outcomes does not depend on the order of
trials. -/
theorem eq_of_persons_of_perm {α : Type} {f : List Person → α}
    (hf : ∀ persons, f (persons.map Person.withoutOutcome) = f persons) :
    f (run settings mentions trials).persons = f (run settings mentions trials').persons := by
  rw [← hf, persons_of_perm settings mentions h, hf]

theorem unresolvedTrials_run_of_perm :
    (run settings mentions trials).summary.unresolvedTrials =
      (run settings mentions trials').summary.unresolvedTrials := by
  -- The count reads the persons and the table, which are exchanged one after the other.
  calc
    (run settings mentions trials).persons.foldl (fun n p => n + p.unresolvedTrials trials) 0 =
        (run settings mentions trials').persons.foldl
          (fun n p => n + p.unresolvedTrials trials) 0 := by
      apply eq_of_persons_of_perm settings mentions h
        (f := fun persons => persons.foldl (fun n p => n + p.unresolvedTrials trials) 0)
      intro persons
      rw [List.foldl_map]
      rfl
    _ = (run settings mentions trials').persons.foldl
          (fun n p => n + p.unresolvedTrials trials') 0 := by
      simp only [unresolvedTrials_of_perm h]

theorem summary_of_perm :
    (run settings mentions trials).summary = (run settings mentions trials').summary :=
  congrArg (fun n => { (run settings mentions trials).summary with unresolvedTrials := n })
    (unresolvedTrials_run_of_perm settings mentions h)

/-- Apart from outcomes, a run does not depend on the order of the trials. -/
theorem withoutOutcomes_run :
    (run settings mentions trials).withoutOutcomes =
      (run settings mentions trials').withoutOutcomes := by
  have hattribution : (run settings mentions trials).attribution =
      (run settings mentions trials').attribution :=
    eq_of_persons_of_perm settings mentions h Census.attributionOf_withoutOutcome
  have htransitions : (run settings mentions trials).transitions.map Transition.withoutOutcome =
      (run settings mentions trials').transitions.map Transition.withoutOutcome := by
    apply eq_of_persons_of_perm settings mentions h
      (f := fun persons => (Transition.ofPersons persons).map Transition.withoutOutcome)
    intro persons
    simp only [Transition.ofPersons_withoutOutcome, List.map_map]
    rfl
  have hsuperWitnesses : (run settings mentions trials).superWitnesses =
      (run settings mentions trials').superWitnesses :=
    eq_of_persons_of_perm settings mentions h (SuperWitness.ofPersons_withoutOutcome _)
  have hstatistics : (run settings mentions trials).statistics =
      (run settings mentions trials').statistics := by
    apply eq_of_persons_of_perm settings mentions h
      (f := fun persons => Statistics.of persons (Census.attributionOf persons))
    intro persons
    simp only [Census.attributionOf_withoutOutcome, Statistics.of_withoutOutcome]
  simp only [withoutOutcomes, Resolution.mk.injEq]
  exact ⟨persons_of_perm settings mentions h, hattribution, rfl, htransitions, hsuperWitnesses,
    hstatistics, summary_of_perm settings mentions h, rfl⟩

/-- The order of trials changes nothing but outcomes. -/
theorem withoutOutcomes_of_perm :
    (run? settings mentions trials).map withoutOutcomes =
      (run? settings mentions trials').map withoutOutcomes := by
  rw [run?, run?]
  split
  · exact congrArg some (withoutOutcomes_run settings mentions h)
  · rfl

end Perm

/-- Two trials of one accused person, with different sentences. -/
def sentenced : TrialTable := .ofAdds [.of "T1" (some "1590") (some "exile"),
  .of "T2" none (some "death")]

/-- The same two trials, the other way round. -/
def sentencedReversed : TrialTable := .ofAdds sentenced.toList.reverse

/-- A person accused in two trials. -/
def twiceAccused : MentionTable := .ofPuts [
  ((Mention.of "Anne Petit" .accused).withTrial "T1" .accused).withTrial "T2" .accused]

/-- A person accused twice, whose outcome does depend on the order. -/
theorem withoutOutcomes_twiceAccused :
    sentenced.toList.Perm sentencedReversed.toList ∧
      (run .standard twiceAccused sentenced).persons.map (·.outcome) = [some "exile"] ∧
      (run .standard twiceAccused sentencedReversed).persons.map (·.outcome) = [some "death"] ∧
      (run? .standard twiceAccused sentenced).map withoutOutcomes =
        (run? .standard twiceAccused sentencedReversed).map withoutOutcomes := by
  have hperm : sentenced.toList.Perm sentencedReversed.toList := by decide +kernel
  exact ⟨hperm, by decide +kernel, by decide +kernel,
    withoutOutcomes_of_perm .standard twiceAccused hperm⟩

end Resolution

end Prosopography
