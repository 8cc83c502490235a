import Prosopography.Proofs.Cluster.Apart
import Prosopography.Proofs.Cluster.Refinement
import Prosopography.Proofs.Cluster.Symmetry
import Prosopography.Proofs.Decimal.Nearest
import Prosopography.Proofs.Decimal.Order

/-!
# Merges obey the policy

Whichever strategy merges a list, each decision it logs is one that the policy permits for two
clusters of the list, and these end in one cluster. Clusters that the policy pairs with no other
come out as they went in.
-/

namespace Prosopography

open Cluster

/-- A score is a number, so that it can be compared. -/
theorem Similarity.isNaN_toFloat (score : Rat) : (toFloat score).isNaN = false :=
  Decimal.isNaN_nearestQuotient _ _

/-- How similar the given names in both keys of a decision are. -/
def Decision.givenNameScore (d : Decision) : Float :=
  Similarity.toFloat
    (Similarity.ratio (Name.givenName d.kept.toList) (Name.givenName d.other.toList))

/-- A decision to merge the clusters at two positions of a list, with what the policy asks of
them. -/
structure Decision.Permitted (d : Decision) (p : MergePolicy) (cs out : List Cluster)
    (i j : Fin cs.length) : Prop where
  action : d.action = .merge
  ordered : i < j
  kept : (cs.get i).key = d.kept
  other : (cs.get j).key = d.other
  similar : p.SimilarKeys d.kept d.other
  scored : Similarity.toFloat (Similarity.wordSetRatio d.kept.toList d.other.toList) = d.similarity
  /-- A score that is not below its threshold reaches it, if the threshold is a number. -/
  reached : p.mergeThreshold.isNaN = false → p.mergeThreshold ≤ d.similarity
  givenReached : p.givenNameThreshold.isNaN = false → p.givenNameThreshold ≤ d.givenNameScore
  /-- The members of both stand in one cluster in the end. -/
  together : ∃ o ∈ out, ((cs.get i).members ++ (cs.get j).members).Sublist o.members

/-- Clusters merged as a policy permits. -/
structure Outcome.Obeys (o : Outcome) (p : MergePolicy) (cs : List Cluster) : Prop where
  permitted : ∀ d ∈ o.log, ∃ i j, d.Permitted p cs o.clusters i j
  /-- Clusters that are paired with no other stand among the rest in their order. -/
  untouched : ∀ alone : List Cluster, alone.Sublist cs →
    (∀ c ∈ alone, ∀ d ∈ cs, ¬ p.SimilarKeys c.key d.key) → alone.Sublist o.clusters

namespace MergePolicy

variable {p : MergePolicy} {cs out : List Cluster}

theorem SimilarKeys.symm {a b : String} (h : p.SimilarKeys a b) : p.SimilarKeys b a := by
  rw [← isSome_nameScore?_iff, p.nameScore?_comm, isSome_nameScore?_iff]
  exact h

/-- The decision on a pair whose members come together is permitted. -/
theorem permitted_of_decision? {d : Decision} {i j : Fin cs.length} (hij : i < j)
    (hd : p.decision? (cs.get i).key (cs.get j).key = some d)
    (htogether : ∃ o ∈ out, ((cs.get i).members ++ (cs.get j).members).Sublist o.members) :
    d.Permitted p cs out i j := by
  obtain ⟨score, hscore, rfl⟩ := Option.map_eq_some_iff.mp hd
  obtain ⟨hsimilar, hvalue⟩ := nameScore?_eq_some_iff.mp hscore
  have hnumber : score.isNaN = false := hvalue ▸ Similarity.isNaN_toFloat _
  have hscored : ¬ score < p.mergeThreshold := hvalue ▸ hsimilar.wordsSimilar
  exact ⟨rfl, hij, rfl, rfl, hsimilar, hvalue,
    fun ht => Decimal.le_of_not_lt hnumber ht hscored,
    fun ht => Decimal.le_of_not_lt (Similarity.isNaN_toFloat _) ht hsimilar.givenNamesSimilar,
    htogether⟩

section Greedy

/-- A target logs those that it takes, and takes over their members after its own. -/
theorem permitted_mergeGreedy {d : Decision} (hd : d ∈ (p.mergeGreedy cs).log) :
    ∃ i j, d.Permitted p cs (p.mergeGreedy cs).clusters i j := by
  have hgreedy := p.mergeGreedy_map cs.get (List.finRange cs.length)
  rw [List.map_get_finRange] at hgreedy
  rw [hgreedy] at hd ⊢
  obtain ⟨g, hg, hd⟩ := List.mem_flatMap.mp hd
  obtain ⟨j, hj, hd⟩ := List.mem_filterMap.mp hd
  have hlt : g.1 < j :=
    List.rel_of_pairwise_cons
      ((List.pairwise_lt_finRange _).sublist (sublist_of_mem_greedyParts hg)) hj
  refine ⟨g.1, j, permitted_of_decision? hlt hd ⟨_, List.mem_map_of_mem hg, ?_⟩⟩
  rw [members_absorbing]
  apply List.Sublist.append_left
  simpa using (List.singleton_sublist.mpr hj).flatMap fun i => (cs.get i).members

theorem sublist_left_sweep {target : Cluster} {alone : List Cluster} (hsub : alone.Sublist cs)
    (h : ∀ c ∈ alone, ¬ p.SimilarKeys target.key c.key) :
    alone.Sublist (p.sweep target cs).left := by
  induction cs generalizing target alone with
  | nil => rwa [sweep]
  | cons d rest ih =>
      rw [sweep]
      cases hsub with
      | cons _ hsub =>
          split
          · exact ih hsub h
          · exact (ih hsub h).cons d
      | cons_cons _ hsub =>
          obtain ⟨hd, hrest⟩ := List.forall_mem_cons.mp h
          have hrefused : p.accepts? target d = none :=
            accepts?_eq_none_iff.mpr fun haccepted => hd haccepted.1
          rw [hrefused]
          exact (ih hsub hrest).cons_cons d

/-- Clusters similar to no other go through the greedy strategy untouched. -/
theorem untouched_mergeGreedy {alone : List Cluster} (hsub : alone.Sublist cs)
    (h : ∀ c ∈ alone, ∀ d ∈ cs, ¬ p.SimilarKeys c.key d.key) :
    alone.Sublist (p.mergeGreedy cs).clusters := by
  induction cs using mergeGreedy.induct p generalizing alone with
  | case1 => rwa [mergeGreedy]
  | case2 c rest s =>
      rename_i ih
      have hleft : ∀ d ∈ s.left, d ∈ c :: rest := fun d hd =>
        List.mem_cons_of_mem c ((p.left_sweep_sublist c rest).subset hd)
      rw [mergeGreedy]
      cases hsub with
      | cons _ hsub =>
          have hspared : alone.Sublist s.left := sublist_left_sweep hsub fun d hd hsimilar =>
            h d hd c List.mem_cons_self hsimilar.symm
          exact (ih hspared fun d hd e he => h d hd e (hleft e he)).cons s.target
      | cons_cons _ hsub =>
          -- The target itself is alone, so it takes nothing.
          obtain ⟨hc, hrest⟩ := List.forall_mem_cons.mp h
          have hsweep : s = ⟨c, rest, []⟩ := sweep_of_refused fun d hd =>
            accepts?_eq_none_iff.mpr fun haccepted =>
              hc d (List.mem_cons_of_mem c hd) haccepted.1
          change (c :: _).Sublist (s.target :: (p.mergeGreedy s.left).clusters)
          rw [hsweep] at ih hleft ⊢
          exact (ih hsub fun d hd e he => hrest d hd e (hleft e he)).cons_cons c

end Greedy

section Transitive

theorem pair_sublist_finRange {n : Nat} {q : Fin n → Bool} {i j : Fin n} (hij : i < j)
    (hi : q i = true) (hj : q j = true) : [i, j].Sublist ((List.finRange n).filter q) := by
  apply List.sublist_of_subperm_of_pairwise (r := (· < ·))
  · apply List.subperm_of_subset (by simpa using hij.ne)
    intro k hk
    rw [List.mem_filter]
    rcases List.mem_pair.mp hk with rfl | rfl
    · exact ⟨List.mem_finRange _, hi⟩
    · exact ⟨List.mem_finRange _, hj⟩
  · simpa using hij
  · exact (List.pairwise_lt_finRange n).filter q

/-- A union that is logged has joined two positions for good. -/
theorem permitted_mergeTransitive {d : Decision} (hd : d ∈ (p.mergeTransitive cs).log) :
    ∃ i j, d.Permitted p cs (p.mergeTransitive cs).clusters i j := by
  obtain ⟨i, j, hij, hdecision, hroot⟩ :=
    @exists_pair_of_mem_joinAll p _ ⟨cs.toArray, List.size_toArray⟩ d hd
  have hhome : p.home cs i = p.home cs j := home_eq_iff.mpr hroot
  refine ⟨i, j, permitted_of_decision? hij hdecision ⟨_, List.get_mem _ (p.home cs i), ?_⟩⟩
  rw [members_clusters]
  have hpair := pair_sublist_finRange (q := (p.home cs · == p.home cs i)) hij
    BEq.rfl (by rw [hhome]; exact BEq.rfl)
  simpa using hpair.flatMap fun k => (cs.get k).members

/-- A position that is in no accepted pair is a component of its own. -/
theorem eq_of_root_eq {i j : Fin cs.length}
    (h : ∀ k, ¬ p.SimilarKeys (cs.get i).key (cs.get k).key)
    (hroot : (p.sets cs).root i = (p.sets cs).root j) : i = j := by
  rcases ((p.joined_sets cs).chained i j hroot).cases_head with hij | ⟨k, ⟨hlinked, -⟩, -⟩
  · exact hij
  · rcases hlinked with hik | hki
    · exact absurd (isSome_nameScore?_iff.mp hik.2) (h k)
    · exact absurd (isSome_nameScore?_iff.mp hki.2).symm (h k)

/-- Clusters similar to no other go through the transitive strategy untouched. -/
theorem untouched_mergeTransitive {alone : List Cluster} (hsub : alone.Sublist cs)
    (h : ∀ c ∈ alone, ∀ d ∈ cs, ¬ p.SimilarKeys c.key d.key) :
    alone.Sublist (p.mergeTransitive cs).clusters := by
  rw [← List.map_get_finRange cs] at hsub
  obtain ⟨positions, hpositions, rfl⟩ := List.sublist_map_iff.mp hsub
  have halone : ∀ i ∈ positions, ∀ j ∈ List.finRange cs.length,
      (p.sets cs).root i = (p.sets cs).root j → i = j := by
    intro i hi j _
    exact eq_of_root_eq fun k => h _ (List.mem_map_of_mem hi) _ (List.get_mem cs k)
  have hgroups := (sublist_groupBy (List.nodup_finRange _) hpositions halone).filterMap
    fun g => gather (g.2.map cs.get)
  rw [clusters_mergeTransitive, parts]
  rw [List.filterMap_map] at hgroups
  exact (congrFun List.filterMap_eq_map' positions).symm ▸ hgroups

end Transitive

end MergePolicy

namespace Settings

/-- Either strategy merges as the policy permits and leaves alone what it pairs with nothing. -/
theorem obeys_merge (s : Settings) (cs : List Cluster) : (s.merge cs).Obeys s.policy cs := by
  rw [merge]
  cases s.strategy with
  | greedy =>
      exact ⟨fun _ => MergePolicy.permitted_mergeGreedy,
        fun _ => MergePolicy.untouched_mergeGreedy⟩
  | transitive =>
      exact ⟨fun _ => MergePolicy.permitted_mergeTransitive,
        fun _ => MergePolicy.untouched_mergeTransitive⟩

end Settings

end Prosopography
