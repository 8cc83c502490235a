import Prosopography.Proofs.Cluster.Joining
import Mathlib.Data.List.Induction
import Mathlib.Data.Set.Basic
import Mathlib.Logic.Function.Iterate
import Mathlib.Order.Bounds.Basic

/-!
# Components after any calls

Look-ups and unions may come in any order. What the sets hold after them is told by the
pairs for which a union said that it joined them: components are what these pairs put
together, each has its least position as root, and the root carries the places of the
component.
-/

namespace Prosopography.DisjointSets

variable {n : Nat}

/-- A call of one of the two operations of the forest. -/
inductive Call (n : Nat)
  | find (i : Fin n)
  | union (i j : Fin n)

/-- Makes a call and keeps account of the pairs that were joined. -/
def call (state : DisjointSets n × List (Fin n × Fin n)) :
    Call n → DisjointSets n × List (Fin n × Fin n)
  | .find i => ((state.1.find i).1, state.2)
  | .union i j =>
    let (sets, joined) := state.1.union i j
    (sets, if joined then state.2 ++ [(i, j)] else state.2)

/-- The sets after calls on single clusters, and the pairs that were joined. -/
def afterCalls (cs : Vector Cluster n) (calls : List (Call n)) :
    DisjointSets n × List (Fin n × Fin n) :=
  calls.foldl call (singletons (cs.map (·.places)), [])

/-- Pairs put positions together, directly or through others. -/
def Together (pairs : List (Fin n × Fin n)) : Fin n → Fin n → Prop :=
  Relation.EqvGen fun i j => (i, j) ∈ pairs

/-- The places of all clusters put together with one. -/
def placesTogether (cs : Vector Cluster n) (pairs : List (Fin n × Fin n)) (i : Fin n) :
    Set String :=
  {x | ∃ j, Together pairs j i ∧ x ∈ (cs.get j).places.toList}

/-- Sets whose components are what pairs put together, with the places of their clusters. -/
structure Tracks (cs : Vector Cluster n) (pairs : List (Fin n × Fin n)) (s : DisjointSets n) :
    Prop where
  up_le : ∀ i, s.up i ≤ i
  /-- A root is reached by climbing, and nothing is above it. -/
  climbs : ∀ i, (∃ k ≤ i.val, s.up^[k] i = s.root i) ∧ s.up (s.root i) = s.root i
  root_eq_iff : ∀ i j, s.root i = s.root j ↔ Together pairs i j
  find_isLeast : ∀ i, IsLeast {j | Together pairs j i} (s.find i).2.val
  find_keeps : ∀ i, (∀ j, (s.find i).1.root j = s.root j) ∧ (s.find i).1.places = s.places
  union_iff : ∀ i j, (s.union i j).2 = true ↔ ¬ Together pairs i j ∧
    (placesTogether cs pairs i = ∅ ∨ placesTogether cs pairs j = ∅ ∨
      (placesTogether cs pairs i ∩ placesTogether cs pairs j).Nonempty)
  /-- A union that joins puts together the two components and no others. -/
  union_joins : ∀ i j, (s.union i j).2 = true → ∀ k l,
    (s.union i j).1.root k = (s.union i j).1.root l ↔
      Together pairs k l ∨ (Together pairs k i ∨ Together pairs k j) ∧
        (Together pairs l i ∨ Together pairs l j)
  union_refuses : ∀ i j, (s.union i j).2 = false →
    (∀ k, (s.union i j).1.root k = s.root k) ∧ (s.union i j).1.places = s.places
  stored_root : ∀ i, {x | x ∈ (s.stored (s.root i)).toList} = placesTogether cs pairs i

section Root

variable (s : DisjointSets n)

/-- The root is reached from a position in finitely many steps upwards. -/
theorem exists_iterate_up (i : Fin n) : ∃ k ≤ i.val, s.up^[k] i = s.root i := by
  induction i using s.climb_induction with
  | top i h => exact ⟨0, Nat.zero_le _, (s.root_of_up_eq h).symm⟩
  | climb i h ih =>
      obtain ⟨k, hk, hroot⟩ := ih
      have hlt : s.up i < i := lt_of_le_of_ne (s.up_le i) h
      refine ⟨k + 1, Nat.succ_le_of_lt (lt_of_le_of_lt hk hlt), ?_⟩
      rw [Function.iterate_succ_apply, hroot, s.root_up]

/-- A root is the least position of its component. -/
theorem isLeast_root (i : Fin n) : IsLeast {j | s.root j = s.root i} (s.root i) := by
  refine ⟨s.root_root i, ?_⟩
  intro j hj
  exact le_of_eq_of_le (Eq.symm hj) (s.root_le j)

/-- A refused union leaves all places as they are. -/
theorem union_refused_places {i j : Fin n} (h : (s.union i j).2 = false) :
    (s.union i j).1.places = s.places := by
  obtain ⟨t, -, hplaces, ht⟩ := s.exists_union_eq i j
  rw [ht] at h ⊢
  split at h
  · rename_i hrefused
    rw [if_pos hrefused]
    exact hplaces
  · simp at h

end Root

namespace Together

variable {pairs : List (Fin n × Fin n)} {i j k l : Fin n}

theorem of_mem (h : (i, j) ∈ pairs) : Together pairs i j := .rel _ _ h

theorem symm (h : Together pairs i j) : Together pairs j i := Relation.EqvGen.symm _ _ h

theorem trans (hij : Together pairs i j) (hjk : Together pairs j k) : Together pairs i k :=
  Relation.EqvGen.trans _ _ _ hij hjk

theorem mono {more : List (Fin n × Fin n)} (hsub : pairs ⊆ more) (h : Together pairs i j) :
    Together more i j :=
  Relation.EqvGen.mono (fun _ _ hmem => hsub hmem) _ _ h

theorem nil_iff : Together [] i j ↔ i = j := by
  constructor
  · intro h
    induction h with
    | rel i j h => exact absurd h List.not_mem_nil
    | refl i => rfl
    | symm i j _ ih => exact ih.symm
    | trans i j k _ _ ihij ihjk => exact ihij.trans ihjk
  · rintro rfl
    exact .refl i

end Together

/-- What every call keeps: joined positions have one root, which carries their places. -/
structure Follows (cs : Vector Cluster n) (pairs : List (Fin n × Fin n)) (s : DisjointSets n) :
    Prop where
  root_eq_iff : ∀ i j, s.root i = s.root j ↔ Together pairs i j
  carries : s.Carries fun j => (cs.get j).places

namespace Follows

variable {cs : Vector Cluster n} {pairs : List (Fin n × Fin n)} {s : DisjointSets n}

theorem singletons (cs : Vector Cluster n) :
    Follows cs [] (.singletons (cs.map (·.places))) where
  root_eq_iff i j := by
    rw [root_singletons, root_singletons, Together.nil_iff]
  carries := by
    simpa only [Carries, MergePolicy.get_map_places] using
      carries_singletons (cs.map (·.places))

section Kept

variable (h : Follows cs pairs s)
include h

theorem of_eq {t : DisjointSets n} (hroot : ∀ k, t.root k = s.root k)
    (hplaces : t.places = s.places) : Follows cs pairs t where
  root_eq_iff i j := by
    rw [hroot, hroot, h.root_eq_iff]
  carries := h.carries.of_eq hroot (s.placesOf_of_root_eq hroot hplaces)

/-- Looking up a root joins nothing. -/
theorem find (i : Fin n) : Follows cs pairs (s.find i).1 :=
  h.of_eq (s.find_spec i).2.1 (s.find_spec i).2.2

/-- A position meets two others if it is together with one of them. -/
theorem meets_iff {i j k : Fin n} :
    s.Meets i j k ↔ Together pairs k i ∨ Together pairs k j := by
  rw [Meets, h.root_eq_iff, h.root_eq_iff]

/-- A refused union joins nothing. -/
theorem union_refused {i j : Fin n} (hres : (s.union i j).2 = false) :
    Follows cs pairs (s.union i j).1 :=
  h.of_eq (s.union_refused hres).1 (s.union_refused_places hres)

/-- A union that is not refused joins its pair. -/
theorem union_joined {i j : Fin n} (hres : (s.union i j).2 = true) :
    Follows cs (pairs ++ [(i, j)]) (s.union i j).1 where
  root_eq_iff k l := by
    have hold : ∀ {a b}, Together pairs a b → Together (pairs ++ [(i, j)]) a b :=
      Together.mono (List.subset_append_left _ _)
    have hij : Together (pairs ++ [(i, j)]) i j := .of_mem (by simp)
    have hmeets : ∀ {a}, s.Meets i j a → Together (pairs ++ [(i, j)]) a i := by
      intro a ha
      rcases h.meets_iff.mp ha with ha | ha
      · exact hold ha
      · exact (hold ha).trans hij.symm
    constructor
    · intro e
      rcases (s.root_union_eq_iff hres k l).mp e with e | ⟨hk, hl⟩
      · exact hold ((h.root_eq_iff k l).mp e)
      · exact (hmeets hk).trans (hmeets hl).symm
    · intro hkl
      induction hkl with
      | rel a b hab =>
          rcases List.mem_append.mp hab with hab | hab
          · exact s.root_union_of_root_eq hres ((h.root_eq_iff a b).mpr (.of_mem hab))
          · obtain ⟨rfl, rfl⟩ : a = i ∧ b = j := by simpa using hab
            exact s.root_union_eq_root_union hres
      | refl a => rfl
      | symm a b _ ih => exact ih.symm
      | trans a b c _ _ ihab ihbc => exact ihab.trans ihbc
  carries := h.carries.union hres

end Kept

/-- One call keeps the forest in step with the pairs joined so far. -/
theorem call {state : DisjointSets n × List (Fin n × Fin n)} (h : Follows cs state.2 state.1)
    (c : Call n) : Follows cs (call state c).2 (call state c).1 := by
  cases c with
  | find i => exact h.find i
  | union i j =>
      simp only [DisjointSets.call]
      split
      · rename_i hres
        exact h.union_joined hres
      · rename_i hres
        exact h.union_refused (Bool.eq_false_iff.mpr hres)

/-- Any calls keep the forest in step with the pairs joined. -/
theorem afterCalls (cs : Vector Cluster n) (calls : List (Call n)) :
    Follows cs (afterCalls cs calls).2 (afterCalls cs calls).1 := by
  induction calls using List.reverseRecOn with
  | nil => exact .singletons cs
  | append_singleton calls c ih =>
      rw [DisjointSets.afterCalls, List.foldl_concat]
      exact ih.call c

variable (h : Follows cs pairs s)
include h

theorem mem_placesOf_iff {i : Fin n} {x : String} :
    x ∈ (s.placesOf i).toList ↔ x ∈ placesTogether cs pairs i := by
  rw [h.carries i x]
  simp only [h.root_eq_iff]
  rfl

/-- The places of two components agree when one has none or both have one in common. -/
theorem placesAgree_iff {i j : Fin n} :
    Cluster.placesAgree (s.placesOf i) (s.placesOf j) = true ↔
      placesTogether cs pairs i = ∅ ∨ placesTogether cs pairs j = ∅ ∨
        (placesTogether cs pairs i ∩ placesTogether cs pairs j).Nonempty := by
  simp only [Cluster.placesAgree_iff, List.eq_nil_iff_forall_not_mem, h.mem_placesOf_iff,
    Set.eq_empty_iff_forall_notMem]
  rfl

end Follows

/-- Whatever calls are made, the sets hold what the joined pairs put together. -/
theorem tracks_afterCalls (cs : Vector Cluster n) (calls : List (Call n)) :
    Tracks cs (afterCalls cs calls).2 (afterCalls cs calls).1 := by
  have h := Follows.afterCalls cs calls
  generalize (afterCalls cs calls).1 = s, (afterCalls cs calls).2 = pairs at h ⊢
  constructor
  · exact s.up_le
  · intro i
    exact ⟨s.exists_iterate_up i, s.up_root i⟩
  · exact h.root_eq_iff
  · intro i
    rw [(s.find_spec i).1]
    simpa only [h.root_eq_iff] using s.isLeast_root i
  · intro i
    exact (s.find_spec i).2
  · intro i j
    rw [s.union_snd, Ne, h.root_eq_iff, h.placesAgree_iff]
  · intro i j hres k l
    rw [s.root_union_eq_iff hres, h.root_eq_iff, h.meets_iff, h.meets_iff]
  · intro i j hres
    exact ⟨(s.union_refused hres).1, s.union_refused_places hres⟩
  · intro i
    exact Set.ext fun _ => h.mem_placesOf_iff

end Prosopography.DisjointSets
