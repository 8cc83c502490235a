import Prosopography.Cluster.Greedy
import Prosopography.Proofs.Cluster.Policy
import Mathlib.Data.List.Basic
import Mathlib.Data.List.Perm.Basic

/-!
# The parts of greedy merging

Greedy merging seen on the elements whose clusters it merges: each part is a first
element with those it takes from the rest of the list. The merged clusters and the
decisions are read off the parts.
-/

namespace Prosopography.MergePolicy

open scoped List

/-- The decision to merge two keys, if the policy scores them. -/
def decision? (p : MergePolicy) (a b : String) : Option Decision :=
  (p.nameScore? a b).map fun score => ⟨.merge, a, b, score⟩

/-- An accepted pair has a decision with the keys and the score of the pair. -/
theorem decision?_of_accepts? {p : MergePolicy} {c d : Cluster} {score : Float}
    (h : p.accepts? c d = some score) :
    p.decision? c.key d.key = some ⟨.merge, c.key, d.key, score⟩ := by
  rw [accepts?, Option.filter_eq_some_iff] at h
  rw [decision?, h.1, Option.map_some]

section Parts

variable {α : Type} (p : MergePolicy) (f : α → Cluster)

/-- A cluster after it has absorbed those of some elements. -/
def absorbing (target : Cluster) (l : List α) : Cluster := (l.map f).foldl Cluster.absorb target

@[simp] theorem absorbing_nil (target : Cluster) : absorbing f target [] = target := rfl

@[simp] theorem absorbing_cons (target : Cluster) (a : α) (l : List α) :
    absorbing f target (a :: l) = absorbing f (target.absorb (f a)) l := rfl

@[simp] theorem key_absorbing (target : Cluster) (l : List α) :
    (absorbing f target l).key = target.key := by
  induction l generalizing target with
  | nil => rfl
  | cons a l ih => rw [absorbing_cons, ih, Cluster.key_absorb]

/-- The elements of a list whose clusters a target absorbs. -/
def taken (target : Cluster) : List α → List α
  | [] => []
  | a :: rest =>
    if (p.accepts? target (f a)).isSome then a :: taken (target.absorb (f a)) rest
    else taken target rest

/-- The elements of a list whose clusters a target leaves. -/
def spared (target : Cluster) : List α → List α
  | [] => []
  | a :: rest =>
    if (p.accepts? target (f a)).isSome then spared (target.absorb (f a)) rest
    else a :: spared target rest

theorem taken_sublist (target : Cluster) (l : List α) : (p.taken f target l).Sublist l := by
  induction l generalizing target with
  | nil => exact .refl _
  | cons a rest ih =>
      rw [taken]
      split
      · exact (ih _).cons_cons a
      · exact (ih _).cons a

theorem spared_sublist (target : Cluster) (l : List α) : (p.spared f target l).Sublist l := by
  induction l generalizing target with
  | nil => exact .refl _
  | cons a rest ih =>
      rw [spared]
      split
      · exact (ih _).cons a
      · exact (ih _).cons_cons a

/-- A sweep takes a cluster or spares it. -/
theorem taken_append_spared_perm (target : Cluster) (l : List α) :
    p.taken f target l ++ p.spared f target l ~ l := by
  induction l generalizing target with
  | nil => exact .refl _
  | cons a rest ih =>
      rw [taken, spared]
      split
      · exact (ih _).cons a
      · exact List.perm_middle.trans ((ih _).cons a)

theorem isSome_nameScore?_of_mem_taken {target : Cluster} {l : List α} {a : α}
    (h : a ∈ p.taken f target l) : (p.nameScore? target.key (f a).key).isSome = true := by
  induction l generalizing target with
  | nil => simp [taken] at h
  | cons b rest ih =>
      rw [taken] at h
      split at h
      · rename_i haccepted
        rcases List.mem_cons.mp h with rfl | h
        · exact isSome_nameScore?_iff.mpr (isSome_accepts?_iff.mp haccepted).1
        · have hrest := ih h
          rwa [Cluster.key_absorb] at hrest
      · exact ih h

/-- A target takes what a test selects if it accepts, whenever it has absorbed the selected ones
before it, exactly the selected ones. -/
theorem taken_spared_eq_filter {q : α → Bool} {target : Cluster} {l : List α}
    (h : ∀ before a after, l = before ++ a :: after →
      (p.accepts? (absorbing f target (before.filter q)) (f a)).isSome = q a) :
    p.taken f target l = l.filter q ∧ p.spared f target l = l.filter (!q ·) := by
  induction l generalizing target with
  | nil => exact ⟨rfl, rfl⟩
  | cons a rest ih =>
      have ha : (p.accepts? target (f a)).isSome = q a := h [] a rest rfl
      rw [taken, spared, ha]
      cases hq : q a with
      | true =>
          have hrest : ∀ before b after, rest = before ++ b :: after →
              (p.accepts? (absorbing f (target.absorb (f a)) (before.filter q)) (f b)).isSome =
                q b := by
            intro before b after hsplit
            have hb := h (a :: before) b after (by rw [hsplit, List.cons_append])
            rwa [List.filter_cons_of_pos hq, absorbing_cons] at hb
          obtain ⟨htaken, hspared⟩ := ih hrest
          simp [hq, htaken, hspared]
      | false =>
          have hrest : ∀ before b after, rest = before ++ b :: after →
              (p.accepts? (absorbing f target (before.filter q)) (f b)).isSome = q b := by
            intro before b after hsplit
            have hb := h (a :: before) b after (by rw [hsplit, List.cons_append])
            rwa [List.filter_cons_of_neg (by simp [hq])] at hb
          obtain ⟨htaken, hspared⟩ := ih hrest
          simp [hq, htaken, hspared]

/-- A sweep over the images of a list is told by the elements that it takes. -/
theorem sweep_map (target : Cluster) (l : List α) :
    p.sweep target (l.map f) =
      ⟨absorbing f target (p.taken f target l), (p.spared f target l).map f,
        (p.taken f target l).filterMap fun a => p.decision? target.key (f a).key⟩ := by
  induction l generalizing target with
  | nil => rfl
  | cons a rest ih =>
      rw [List.map_cons, sweep, taken, spared]
      cases hscore : p.accepts? target (f a) with
      | none => simp [ih]
      | some score => simp [ih, decision?_of_accepts? hscore]

/-- The parts of a list: first elements, each with those that its cluster takes. -/
def greedyParts : List α → List (α × List α)
  | [] => []
  | a :: rest => (a, p.taken f (f a) rest) :: greedyParts (p.spared f (f a) rest)
termination_by l => l.length
decreasing_by exact Nat.lt_succ_of_le (p.spared_sublist f (f a) rest).length_le

/-- Greedy merging turns each part into one cluster and logs its elements one by one. -/
theorem mergeGreedy_map (l : List α) :
    p.mergeGreedy (l.map f) =
      ⟨(p.greedyParts f l).map fun g => absorbing f (f g.1) g.2,
        (p.greedyParts f l).flatMap fun g =>
          g.2.filterMap fun a => p.decision? (f g.1).key (f a).key⟩ := by
  induction l using greedyParts.induct p f with
  | case1 => rw [List.map_nil, mergeGreedy, greedyParts]; rfl
  | case2 a rest ih =>
      rw [List.map_cons, mergeGreedy, greedyParts, sweep_map, ih]
      rfl

/-- No element is lost or repeated. -/
theorem greedyParts_perm (l : List α) :
    ((p.greedyParts f l).flatMap fun g => g.1 :: g.2) ~ l := by
  induction l using greedyParts.induct p f with
  | case1 => rw [greedyParts]; exact .refl _
  | case2 a rest ih =>
      rw [greedyParts, List.flatMap_cons, List.cons_append]
      exact ((ih.append_left _).trans (p.taken_append_spared_perm f (f a) rest)).cons a

variable {p f} {l : List α} {g : α × List α}

/-- A part and its target come in the order of the list. -/
theorem sublist_of_mem_greedyParts (h : g ∈ p.greedyParts f l) : (g.1 :: g.2).Sublist l := by
  induction l using greedyParts.induct p f with
  | case1 => simp [greedyParts] at h
  | case2 a rest ih =>
      rw [greedyParts] at h
      rcases List.mem_cons.mp h with rfl | h
      · exact (p.taken_sublist f (f a) rest).cons_cons a
      · exact ((ih h).trans (p.spared_sublist f (f a) rest)).cons a

/-- The names of the first element and of any other of its part may be merged. -/
theorem isSome_nameScore?_of_mem_greedyParts (h : g ∈ p.greedyParts f l) {b : α} (hb : b ∈ g.2) :
    (p.nameScore? (f g.1).key (f b).key).isSome = true := by
  induction l using greedyParts.induct p f with
  | case1 => simp [greedyParts] at h
  | case2 a rest ih =>
      rw [greedyParts] at h
      rcases List.mem_cons.mp h with rfl | h
      · exact p.isSome_nameScore?_of_mem_taken f hb
      · exact ih h

end Parts

end Prosopography.MergePolicy
