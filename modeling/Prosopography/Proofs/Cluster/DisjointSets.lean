import Prosopography.Cluster.DisjointSets
import Mathlib.Order.Fin.Basic
import Mathlib.Order.MinMax

/-!
# Roots and places of components

A look-up changes no root. A union either changes nothing or makes one component
of two, which then has the places of both. Proofs about merging see a forest only
through its roots and through `placesOf`, never through its parents.
-/

namespace Prosopography.DisjointSets

variable {n : Nat} (s : DisjointSets n)

/-- The parent table as a function. -/
def up (i : Fin n) : Fin n := s.parent.get i

theorem up_le (i : Fin n) : s.up i ≤ i := s.parent_le i

/-- A position that is its own parent is a root; any other has the root of its parent. -/
theorem root_eq (i : Fin n) : s.root i = if s.up i = i then i else s.root (s.up i) := by
  rw [root]
  rfl

/-- The search for a root hangs every position on its way to the root. -/
theorem find_eq (i : Fin n) :
    s.find i =
      if s.up i = i then (s, ⟨i, le_rfl⟩)
      else
        let t := s.find (s.up i)
        let h : t.2.val ≤ i := le_trans t.2.property (s.up_le i)
        (t.1.hang i t.2.val h, ⟨t.2.val, h⟩) := by
  rw [find]
  rfl

theorem root_of_up_eq {i : Fin n} (h : s.up i = i) : s.root i = i := by
  rw [root_eq, if_pos h]

theorem root_up (i : Fin n) : s.root (s.up i) = s.root i := by
  by_cases h : s.up i = i
  · rw [h]
  · rw [s.root_eq i, if_neg h]

/-- Climbing ends at a root, since a parent never comes after its child. -/
theorem climb_induction {motive : Fin n → Prop} (top : ∀ i, s.up i = i → motive i)
    (climb : ∀ i, s.up i ≠ i → motive (s.up i) → motive i) (i : Fin n) : motive i := by
  by_cases h : s.up i = i
  · exact top i h
  · exact climb i h (climb_induction top climb (s.up i))
termination_by i.val
decreasing_by
  have := s.up_le i
  omega

/-- A labelling that is constant along parents and names every top by itself is the root. -/
theorem root_eq_of {f : Fin n → Fin n} (top : ∀ i, s.up i = i → f i = i)
    (climb : ∀ i, f (s.up i) = f i) (i : Fin n) : s.root i = f i := by
  induction i using s.climb_induction with
  | top i h => rw [s.root_of_up_eq h, top i h]
  | climb i h ih => rw [← s.root_up, ih, climb]

theorem up_root (i : Fin n) : s.up (s.root i) = s.root i := by
  induction i using s.climb_induction with
  | top i h => rw [s.root_of_up_eq h, h]
  | climb i h ih => rwa [s.root_up] at ih

@[simp] theorem root_root (i : Fin n) : s.root (s.root i) = s.root i :=
  s.root_of_up_eq (s.up_root i)

/-- No root lies behind its position. -/
theorem root_le (i : Fin n) : s.root i ≤ i := by
  induction i using s.climb_induction with
  | top i h => exact le_of_eq (s.root_of_up_eq h)
  | climb i h ih =>
      rw [s.root_up] at ih
      exact le_trans ih (s.up_le i)

@[simp] theorem root_singletons (places : Vector (SortedSet String) n) (i : Fin n) :
    (singletons places).root i = i :=
  root_of_up_eq _ (show (Vector.ofFn id)[i] = i by simp)

theorem up_hang (i r : Fin n) (h : r ≤ i) (j : Fin n) :
    (s.hang i r h).up j = if j = i then r else s.up j := by
  change (s.parent.set i r)[j] = if j = i then r else s.parent[j]
  by_cases hij : j = i
  · subst hij
    simp
  · have hne : (i : Nat) ≠ j := fun e => hij (Fin.ext e.symm)
    simp [hij, hne]

/-- Hanging a position under its own root moves nobody. -/
theorem root_hang (i r : Fin n) (h : r ≤ i) (hr : r = s.root i) (j : Fin n) :
    (s.hang i r h).root j = s.root j := by
  subst hr
  apply root_eq_of
  · intro k hk
    rw [up_hang] at hk
    by_cases hki : k = i
    · rw [if_pos hki] at hk
      rw [← hk, root_root]
    · rw [if_neg hki] at hk
      exact s.root_of_up_eq hk
  · intro k
    rw [up_hang]
    by_cases hki : k = i
    · rw [if_pos hki, hki, root_root]
    · rw [if_neg hki, root_up]

/-- A look-up finds the root and leaves every root and all places as they were. -/
theorem find_spec (i : Fin n) :
    (s.find i).2.val = s.root i ∧ (∀ j, (s.find i).1.root j = s.root j) ∧
      (s.find i).1.places = s.places := by
  induction i using s.climb_induction with
  | top i h =>
      rw [find_eq, if_pos h]
      exact ⟨(s.root_of_up_eq h).symm, fun _ => rfl, rfl⟩
  | climb i h ih =>
      obtain ⟨hroot, hsame, hplaces⟩ := ih
      rw [find_eq, if_neg h]
      refine ⟨hroot.trans (s.root_up i), ?_, hplaces⟩
      intro j
      have hi : (s.find (s.up i)).2.val = (s.find (s.up i)).1.root i := by
        rw [hroot, hsame, root_up]
      have hle : (s.find (s.up i)).2.val ≤ i := hi ▸ root_le _ i
      exact (root_hang _ i _ hle hi j).trans (hsame j)

/-- The table of places as a function. -/
def stored (i : Fin n) : SortedSet String := s.places.get i

/-- The places of the component of a position. -/
def placesOf (i : Fin n) : SortedSet String := s.stored (s.root i)

theorem placesOf_congr {i j : Fin n} (h : s.root i = s.root j) : s.placesOf i = s.placesOf j := by
  simp only [placesOf, h]

theorem placesOf_of_root_eq {t : DisjointSets n} (hroot : ∀ k, t.root k = s.root k)
    (hplaces : t.places = s.places) (i : Fin n) : t.placesOf i = s.placesOf i := by
  simp only [placesOf, stored, hroot, hplaces]

section Link

variable {a b : Fin n} (ha : s.root a = a) (hb : s.root b = b) (hab : a ≠ b)
include ha hb hab

/-- A root that is adopted takes its component along. -/
theorem root_adopt (h : a ≤ b) (k : Fin n) :
    (s.adopt b a h).root k = if s.root k = b then a else s.root k := by
  have hup : ∀ j, (s.adopt b a h).up j = if j = b then a else s.up j := s.up_hang b a h
  apply root_eq_of
  · intro j hj
    rw [hup] at hj
    by_cases hjb : j = b
    · exact absurd (by rw [← hj, if_pos hjb]) (hjb ▸ hab)
    · rw [if_neg hjb] at hj
      rw [s.root_of_up_eq hj, if_neg hjb]
  · intro j
    rw [hup]
    by_cases hjb : j = b
    · rw [if_pos hjb, ha, if_neg hab, hjb, hb, if_pos rfl]
    · rw [if_neg hjb, root_up]

/-- The component that comes about has the places of both. -/
theorem placesOf_adopt (h : a ≤ b) (k : Fin n) :
    (s.adopt b a h).placesOf k =
      if s.root k = a ∨ s.root k = b then (s.stored a).union (s.stored b)
      else s.placesOf k := by
  have hstored : ∀ j : Fin n, (s.adopt b a h).stored j =
      if b = j then .empty else if a = j then (s.stored a).union (s.stored b)
      else s.stored j := by
    intro j
    change ((s.places.set a ((s.stored a).union (s.stored b))).set b .empty)[j] =
      if b = j then .empty else if a = j then (s.stored a).union (s.stored b) else s.places[j]
    simp only [Fin.getElem_fin, Vector.getElem_set, Fin.ext_iff]
  rw [placesOf, s.root_adopt ha hb hab h k]
  by_cases hkb : s.root k = b
  · rw [if_pos hkb, if_pos (.inr hkb), hstored, if_neg hab.symm, if_pos rfl]
  · rw [if_neg hkb, hstored, if_neg (Ne.symm hkb)]
    by_cases hka : s.root k = a
    · rw [if_pos hka.symm, if_pos (.inl hka)]
    · rw [if_neg (Ne.symm hka), if_neg (by simp [hka, hkb]), placesOf]

/-- Of two components linked at their roots the earlier root stays. -/
theorem root_link (k : Fin n) :
    (s.link a b).root k = if s.root k = a ∨ s.root k = b then min a b else s.root k := by
  by_cases h : a ≤ b
  · rw [link, dif_pos h, s.root_adopt ha hb hab h, min_eq_left h]
    by_cases hkb : s.root k = b
    · simp [hkb]
    · by_cases hka : s.root k = a <;> simp [hka, hkb]
  · have h' : b ≤ a := le_of_not_ge h
    rw [link, dif_neg h, s.root_adopt hb ha hab.symm h', min_eq_right h']
    by_cases hka : s.root k = a
    · simp [hka]
    · by_cases hkb : s.root k = b <;> simp [hka, hkb]

/-- Linking two roots unites their places and leaves all others. -/
theorem mem_placesOf_link (k : Fin n) (x : String) :
    x ∈ ((s.link a b).placesOf k).toList ↔
      if s.root k = a ∨ s.root k = b then x ∈ (s.stored a).toList ∨ x ∈ (s.stored b).toList
      else x ∈ (s.placesOf k).toList := by
  by_cases h : a ≤ b
  · rw [link, dif_pos h, s.placesOf_adopt ha hb hab h]
    split
    · exact SortedSet.mem_union
    · rfl
  · rw [link, dif_neg h, s.placesOf_adopt hb ha hab.symm (le_of_not_ge h)]
    by_cases hk : s.root k = a ∨ s.root k = b
    · rw [if_pos hk, if_pos hk.symm, SortedSet.mem_union, or_comm]
    · rw [if_neg hk, if_neg (fun e => hk e.symm)]

end Link

/-- A union looks up both roots and then links them, unless it refuses. -/
theorem exists_union_eq (i j : Fin n) :
    ∃ t : DisjointSets n, (∀ k, t.root k = s.root k) ∧ t.places = s.places ∧
      s.union i j =
        if s.root i = s.root j ∨ Cluster.placesAgree (s.placesOf i) (s.placesOf j) = false then
          (t, false)
        else (t.link (s.root i) (s.root j), true) := by
  obtain ⟨hi, hsame, hplaces⟩ := s.find_spec i
  obtain ⟨hj, hsame', hplaces'⟩ := (s.find i).1.find_spec j
  refine ⟨((s.find i).1.find j).1, fun k => (hsame' k).trans (hsame k),
    hplaces'.trans hplaces, ?_⟩
  have hj : ((s.find i).1.find j).2.val = s.root j := hj.trans (hsame j)
  have hp : ((s.find i).1.find j).1.places = s.places := hplaces'.trans hplaces
  simp only [union, hi, hj, hp, placesOf, stored, Bool.or_eq_true, decide_eq_true_eq,
    Bool.not_eq_true']
  congr

/-- A union refuses components that are one already or whose places do not agree. -/
theorem union_snd (i j : Fin n) :
    (s.union i j).2 = true ↔
      s.root i ≠ s.root j ∧ Cluster.placesAgree (s.placesOf i) (s.placesOf j) = true := by
  obtain ⟨t, -, -, h⟩ := s.exists_union_eq i j
  rw [h]
  split
  · rename_i hrefused
    rcases hrefused with hr | hp
    · simp [hr]
    · simp [hp]
  · rename_i hjoined
    obtain ⟨hr, hp⟩ := not_or.mp hjoined
    simp [hr, hp]

/-- A refused union changes no root and no places. -/
theorem union_refused {i j : Fin n} (h : (s.union i j).2 = false) :
    (∀ k, (s.union i j).1.root k = s.root k) ∧
      ∀ k, (s.union i j).1.placesOf k = s.placesOf k := by
  obtain ⟨t, hroot, hplaces, ht⟩ := s.exists_union_eq i j
  rw [ht] at h ⊢
  split at h
  · rename_i hrefused
    rw [if_pos hrefused]
    exact ⟨hroot, s.placesOf_of_root_eq hroot hplaces⟩
  · simp at h

/-- Two components that a union leaves apart do not agree on places. -/
theorem placesAgree_of_refused {i j : Fin n} (h : (s.union i j).2 = false)
    (hne : s.root i ≠ s.root j) :
    Cluster.placesAgree (s.placesOf i) (s.placesOf j) = false := by
  apply Bool.eq_false_iff.mpr
  intro hagree
  have hjoined := (s.union_snd i j).mpr ⟨hne, hagree⟩
  simp [h] at hjoined

/-- A position lies in the component of one of two others. -/
def Meets (i j k : Fin n) : Prop := s.root k = s.root i ∨ s.root k = s.root j

instance (i j k : Fin n) : Decidable (s.Meets i j k) :=
  inferInstanceAs (Decidable (_ ∨ _))

/-- A union that joins makes one component of two, under the earlier root. -/
theorem root_union {i j : Fin n} (h : (s.union i j).2 = true) (k : Fin n) :
    (s.union i j).1.root k =
      if s.Meets i j k then min (s.root i) (s.root j) else s.root k := by
  obtain ⟨hne, hagree⟩ := (s.union_snd i j).mp h
  obtain ⟨t, hroot, hplaces, ht⟩ := s.exists_union_eq i j
  rw [if_neg (by simp [hne, hagree])] at ht
  rw [ht, t.root_link (by simp [hroot]) (by simp [hroot]) hne, hroot]
  rfl

theorem root_of_eq_or {i j k : Fin n} (h : k = s.root i ∨ k = s.root j) : s.root k = k := by
  rcases h with rfl | rfl
  · exact s.root_root i
  · exact s.root_root j

/-- A union makes no new roots. -/
theorem root_of_root_union {i j k : Fin n} (h : (s.union i j).1.root k = k) : s.root k = k := by
  cases hres : (s.union i j).2 with
  | false => rwa [(s.union_refused hres).1] at h
  | true =>
      rw [s.root_union hres] at h
      split at h
      · exact s.root_of_eq_or (h ▸ min_choice _ _)
      · exact h

/-- The joined component has the places of both. -/
theorem mem_placesOf_union {i j : Fin n} (h : (s.union i j).2 = true) (k : Fin n) (x : String) :
    x ∈ ((s.union i j).1.placesOf k).toList ↔
      if s.Meets i j k then x ∈ (s.placesOf i).toList ∨ x ∈ (s.placesOf j).toList
      else x ∈ (s.placesOf k).toList := by
  obtain ⟨hne, hagree⟩ := (s.union_snd i j).mp h
  obtain ⟨t, hroot, hplaces, ht⟩ := s.exists_union_eq i j
  rw [if_neg (by simp [hne, hagree])] at ht
  rw [ht, t.mem_placesOf_link (by simp [hroot]) (by simp [hroot]) hne, hroot,
    s.placesOf_of_root_eq hroot hplaces]
  have hstored : ∀ m, t.stored m = s.stored m := by
    intro m
    simp only [stored, hplaces]
  simp only [hstored]
  exact Iff.rfl

/-- A union takes no place from anybody. -/
theorem mem_placesOf_union_of_mem {i j : Fin n} (h : (s.union i j).2 = true) {k : Fin n}
    {x : String} (hx : x ∈ (s.placesOf k).toList) :
    x ∈ ((s.union i j).1.placesOf k).toList := by
  rw [s.mem_placesOf_union h]
  split
  · rename_i hk
    rcases hk with e | e
    · exact .inl (by rwa [← s.placesOf_congr e])
    · exact .inr (by rwa [← s.placesOf_congr e])
  · exact hx

/-- After a union that joins, two positions share a root if they did or if both met it. -/
theorem root_union_eq_iff {i j : Fin n} (h : (s.union i j).2 = true) (k l : Fin n) :
    (s.union i j).1.root k = (s.union i j).1.root l ↔
      s.root k = s.root l ∨ s.Meets i j k ∧ s.Meets i j l := by
  have hmin : min (s.root i) (s.root j) = s.root i ∨ min (s.root i) (s.root j) = s.root j :=
    min_choice _ _
  have hmeets : ∀ m, s.root m = min (s.root i) (s.root j) → s.Meets i j m := by
    intro m hm
    rw [Meets, hm]
    exact hmin
  rw [s.root_union h, s.root_union h]
  by_cases hk : s.Meets i j k <;> by_cases hl : s.Meets i j l
  · simp [hk, hl]
  · rw [if_pos hk, if_neg hl]
    constructor
    · intro e
      exact absurd (hmeets l e.symm) hl
    · rintro (e | ⟨-, hl'⟩)
      · exact absurd (by rwa [Meets, ← e]) hl
      · exact absurd hl' hl
  · rw [if_neg hk, if_pos hl]
    constructor
    · intro e
      exact absurd (hmeets k e) hk
    · rintro (e | ⟨hk', -⟩)
      · exact absurd (by rwa [Meets, e]) hk
      · exact absurd hk' hk
  · simp [hk, hl]

/-- A union keeps together what was together. -/
theorem root_union_of_root_eq {i j : Fin n} (h : (s.union i j).2 = true) {k l : Fin n}
    (e : s.root k = s.root l) : (s.union i j).1.root k = (s.union i j).1.root l :=
  (s.root_union_eq_iff h k l).mpr (.inl e)

/-- A union, whether it joins or refuses, parts nobody. -/
theorem root_union_congr {i j k l : Fin n} (e : s.root k = s.root l) :
    (s.union i j).1.root k = (s.union i j).1.root l := by
  cases hres : (s.union i j).2 with
  | true => exact s.root_union_of_root_eq hres e
  | false => rw [(s.union_refused hres).1, (s.union_refused hres).1, e]

/-- A union that joins leaves its two positions with one root. -/
theorem root_union_eq_root_union {i j : Fin n} (h : (s.union i j).2 = true) :
    (s.union i j).1.root i = (s.union i j).1.root j :=
  (s.root_union_eq_iff h i j).mpr (.inr ⟨.inl rfl, .inr rfl⟩)

/-- Every component carries the places given for its positions and no others. -/
def Carries (given : Fin n → SortedSet String) : Prop :=
  ∀ i x, x ∈ (s.placesOf i).toList ↔ ∃ j, s.root j = s.root i ∧ x ∈ (given j).toList

variable {s}

/-- At first every position carries its own places. -/
theorem carries_singletons (places : Vector (SortedSet String) n) :
    (singletons places).Carries places.get := by
  intro i x
  have hi : (singletons places).placesOf i = places.get i := by
    rw [placesOf, root_singletons]
    rfl
  simp [hi]

namespace Carries

variable {given : Fin n → SortedSet String} (h : s.Carries given)
include h

theorem of_eq {t : DisjointSets n} (hroot : ∀ k, t.root k = s.root k)
    (hplaces : ∀ k, t.placesOf k = s.placesOf k) : t.Carries given := by
  intro i x
  simp only [hplaces, hroot]
  exact h i x

/-- A union that is not refused carries the places of both components. -/
theorem union {i j : Fin n} (hres : (s.union i j).2 = true) : (s.union i j).1.Carries given := by
  intro k x
  constructor
  · intro hx
    have hsource : ∀ m, (s.root m = s.root k ∨ s.Meets i j m ∧ s.Meets i j k) →
        x ∈ (s.placesOf m).toList →
        ∃ l, (s.union i j).1.root l = (s.union i j).1.root k ∧ x ∈ (given l).toList := by
      intro m hm hxm
      obtain ⟨l, hl, hxl⟩ := (h m x).mp hxm
      exact ⟨l, (s.root_union_of_root_eq hres hl).trans
        ((s.root_union_eq_iff hres m k).mpr hm), hxl⟩
    rw [s.mem_placesOf_union hres] at hx
    split at hx
    · rename_i hk
      rcases hx with hx | hx
      · exact hsource i (.inr ⟨.inl rfl, hk⟩) hx
      · exact hsource j (.inr ⟨.inr rfl, hk⟩) hx
    · exact hsource k (.inl rfl) hx
  · rintro ⟨l, hl, hxl⟩
    have hxl := s.mem_placesOf_union_of_mem hres ((h l x).mpr ⟨l, rfl, hxl⟩)
    rwa [(s.union i j).1.placesOf_congr hl] at hxl

end Carries

end Prosopography.DisjointSets
