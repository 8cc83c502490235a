import Prosopography.Cluster.Initial
import Prosopography.Proofs.Collection.GroupBy

/-!
# Clusters at one place

Places in conflict are never brought together, so a cluster that starts with one
place at most keeps one place at most. Exact clustering starts with such clusters.
-/

namespace Prosopography

namespace SortedSet

variable {α : Type} [Ord α] [Std.LawfulEqOrd α]

theorem nodup (s : SortedSet α) : s.toList.Nodup := by
  apply s.sorted.imp
  intro a b hab e
  subst e
  simp at hab

/-- A set has at most one element exactly if any two of its elements are equal. -/
theorem size_le_one_iff {s : SortedSet α} :
    s.size ≤ 1 ↔ ∀ x ∈ s.toList, ∀ y ∈ s.toList, x = y := by
  have hnodup := s.nodup
  unfold size
  generalize s.toList = l at hnodup ⊢
  rcases l with _ | ⟨a, _ | ⟨b, l⟩⟩
  · simp
  · simp
  · refine ⟨fun h => by simp at h, fun h => ?_⟩
    have hab : a = b := h a (by simp) b (by simp)
    exact absurd (List.mem_cons.mpr (.inl hab)) (List.nodup_cons.mp hnodup).1

omit [Std.LawfulEqOrd α] in
theorem toList_eq_singleton {s : SortedSet α} {x : α} (h : s.size ≤ 1) (hx : x ∈ s.toList) :
    s.toList = [x] := by
  have hlength : s.toList.length = 1 :=
    Nat.le_antisymm h (List.length_pos_of_mem hx)
  obtain ⟨y, hy⟩ := List.length_eq_one_iff.mp hlength
  rw [hy, List.mem_singleton] at hx
  rw [hy, hx]

end SortedSet

namespace Cluster

/-- One side has a place that differs from one of the other side. -/
def InConflict (a b : SortedSet String) : Prop := ∃ x ∈ a.toList, ∃ y ∈ b.toList, x ≠ y

/-- Places that do not agree are in conflict. -/
theorem inConflict_of_placesAgree_eq_false {a b : SortedSet String}
    (h : placesAgree a b = false) : InConflict a b := by
  have hno : ¬ (a.toList = [] ∨ b.toList = [] ∨ ∃ x ∈ a.toList, x ∈ b.toList) :=
    mt placesAgree_iff.mpr (by simp [h])
  obtain ⟨ha, hb⟩ := not_or.mp hno
  obtain ⟨hb, hdisjoint⟩ := not_or.mp hb
  obtain ⟨x, hx⟩ := List.exists_mem_of_ne_nil _ ha
  obtain ⟨y, hy⟩ := List.exists_mem_of_ne_nil _ hb
  refine ⟨x, hx, y, hy, ?_⟩
  rintro rfl
  exact hdisjoint ⟨x, hx, hy⟩

theorem placesAgree_congr {a a' b b' : SortedSet String} (ha : ∀ x, x ∈ a.toList ↔ x ∈ a'.toList)
    (hb : ∀ x, x ∈ b.toList ↔ x ∈ b'.toList) : placesAgree a b = placesAgree a' b' := by
  rw [Bool.eq_iff_iff, placesAgree_iff, placesAgree_iff]
  simp only [List.eq_nil_iff_forall_not_mem, ha, hb]

/-- Agreement of places does not depend on the side. -/
theorem placesAgree_comm (a b : SortedSet String) : placesAgree a b = placesAgree b a := by
  rw [Bool.eq_iff_iff, placesAgree_iff, placesAgree_iff]
  constructor
  · rintro (h | h | ⟨x, hxa, hxb⟩)
    · exact .inr (.inl h)
    · exact .inl h
    · exact .inr (.inr ⟨x, hxb, hxa⟩)
  · rintro (h | h | ⟨x, hxb, hxa⟩)
    · exact .inr (.inl h)
    · exact .inl h
    · exact .inr (.inr ⟨x, hxa, hxb⟩)

/-- Every cluster agrees with itself. -/
theorem compatible_self (c : Cluster) : c.compatible c = true := by
  rw [compatible, placesAgree_iff]
  by_cases h : c.places.toList = []
  · exact .inl h
  · obtain ⟨x, hx⟩ := List.exists_mem_of_ne_nil _ h
    exact .inr (.inr ⟨x, hx, hx⟩)

theorem compatible_comm (c d : Cluster) : c.compatible d = d.compatible c :=
  placesAgree_comm ..

/-- At most one place is recorded for the members. -/
def AtOnePlace (c : Cluster) : Prop := c.places.size ≤ 1

instance : DecidablePred AtOnePlace := fun c => inferInstanceAs (Decidable (c.places.size ≤ 1))

theorem atOnePlace_iff {c : Cluster} :
    c.AtOnePlace ↔ ∀ x ∈ c.places.toList, ∀ y ∈ c.places.toList, x = y :=
  SortedSet.size_le_one_iff

/-- Two sets of one place at most that agree have one place at most together. -/
theorem eq_of_placesAgree {a b : SortedSet String} (ha : a.size ≤ 1) (hb : b.size ≤ 1)
    (h : placesAgree a b = true) {x y : String} (hx : x ∈ a.toList) (hy : y ∈ b.toList) :
    x = y := by
  rcases placesAgree_iff.mp h with h | h | ⟨z, hza, hzb⟩
  · simp [h] at hx
  · simp [h] at hy
  · rw [SortedSet.size_le_one_iff.mp ha x hx z hza, SortedSet.size_le_one_iff.mp hb y hy z hzb]

/-- Two sets that agree, each of one place at most, have one place at most together. -/
theorem size_le_one_of_placesAgree {a b c : SortedSet String} (ha : a.size ≤ 1)
    (hb : b.size ≤ 1) (h : placesAgree a b = true)
    (hc : ∀ x, x ∈ c.toList ↔ x ∈ a.toList ∨ x ∈ b.toList) : c.size ≤ 1 := by
  rw [SortedSet.size_le_one_iff]
  intro x hx y hy
  rcases (hc x).mp hx with hx | hx <;> rcases (hc y).mp hy with hy | hy
  · exact SortedSet.size_le_one_iff.mp ha x hx y hy
  · exact eq_of_placesAgree ha hb h hx hy
  · exact (eq_of_placesAgree ha hb h hy hx).symm
  · exact SortedSet.size_le_one_iff.mp hb x hx y hy

/-- Compatible clusters of one place each are a cluster of one place. -/
theorem AtOnePlace.absorb {c d : Cluster} (hc : c.AtOnePlace) (hd : d.AtOnePlace)
    (h : c.compatible d = true) : (c.absorb d).AtOnePlace :=
  size_le_one_of_placesAgree hc hd h fun _ => mem_places_absorb

section OfMembers

variable {key : String}

theorem mem_places_push {c : Cluster} {name : String} {location : Option String} {x : String} :
    x ∈ (c.push name location).places.toList ↔
      placeKey? location = some x ∨ x ∈ c.places.toList := by
  unfold push
  cases placeKey? location with
  | none => simp
  | some y => simp [SortedSet.mem_insert, eq_comm]

/-- A cluster after several members: its key, its members and its places. -/
private theorem foldl_push (members : List (String × Option String)) (c : Cluster) :
    let d := members.foldl (fun c m => c.push m.1 m.2) c
    d.key = c.key ∧ d.members = c.members ++ members.map (·.1) ∧
      ∀ x, x ∈ d.places.toList ↔
        x ∈ c.places.toList ∨ ∃ m ∈ members, placeKey? m.2 = some x := by
  induction members generalizing c with
  | nil => simp
  | cons m rest ih =>
      obtain ⟨hkey, hmembers, hplaces⟩ := ih (c.push m.1 m.2)
      refine ⟨hkey, by simp [hmembers], ?_⟩
      intro x
      rw [List.foldl_cons, hplaces, mem_places_push]
      simp only [List.mem_cons, exists_eq_or_imp, or_assoc, or_left_comm]

@[simp] theorem key_ofMembers (members : List (String × Option String)) :
    (ofMembers key members).key = key :=
  (foldl_push members (empty key)).1

@[simp] theorem members_ofMembers (members : List (String × Option String)) :
    (ofMembers key members).members = members.map (·.1) :=
  (foldl_push members (empty key)).2.1

@[simp] theorem mem_places_ofMembers {members : List (String × Option String)} {x : String} :
    x ∈ (ofMembers key members).places.toList ↔ ∃ m ∈ members, placeKey? m.2 = some x := by
  rw [ofMembers, (foldl_push members (empty key)).2.2 x]
  simp [empty]

end OfMembers

/-- A key that is not split has one place at most. -/
theorem eq_of_isSplit_eq_false {entries : List Entry} {k : String}
    (h : isSplit entries k = false) {e d : Entry} (he : e ∈ entries) (hd : d ∈ entries)
    (hek : e.key = k) (hdk : d.key = k) {x y : String} (hx : e.place? = some x)
    (hy : d.place? = some y) : x = y := by
  have hmem : ∀ {c : Entry} {z : String}, c ∈ entries → c.key = k → c.place? = some z →
      z ∈ (entries.filter (·.key == k)).filterMap (·.place?) := by
    intro c z hc hck hz
    exact List.mem_filterMap.mpr ⟨c, List.mem_filter.mpr ⟨hc, by simpa using hck⟩, hz⟩
  have hxs := hmem he hek hx
  have hys := hmem hd hdk hy
  unfold isSplit at h
  split at h
  · rename_i hnil
    simp [hnil] at hxs
  · rename_i z zs hcons
    rw [hcons] at hxs hys
    have hall : ∀ w ∈ z :: zs, w = z := by simpa using h
    rw [hall x hxs, hall y hys]

/-- A cluster of entries has one place at most, since keys of several places are split. -/
theorem atOnePlace_of_mem_ofEntries {entries : List Entry} {c : Cluster}
    (h : c ∈ ofEntries entries) : c.AtOnePlace := by
  obtain ⟨g, hg, rfl⟩ := List.mem_map.mp h
  rw [atOnePlace_iff]
  intro x hx y hy
  have hplaced : ∀ {z : String},
      z ∈ (ofMembers g.1.1 (g.2.map fun e => (e.name, e.location))).places.toList →
        ∃ e ∈ entries, home entries e = g.1 ∧ e.place? = some z := by
    intro z hz
    obtain ⟨m, hm, hz⟩ := mem_places_ofMembers.mp hz
    obtain ⟨e, he, rfl⟩ := List.mem_map.mp hm
    rw [group_eq_filter hg] at he
    obtain ⟨he, hhome⟩ := List.mem_filter.mp he
    exact ⟨e, he, by simpa using hhome, hz⟩
  obtain ⟨e, he, hehome, hex⟩ := hplaced hx
  obtain ⟨d, hd, hdhome, hdy⟩ := hplaced hy
  have hsame : home entries e = home entries d := hehome.trans hdhome.symm
  simp only [home, Prod.mk.injEq] at hsame
  obtain ⟨hkey, hplace⟩ := hsame
  by_cases hsplit : isSplit entries d.key = true
  · rw [hkey, if_pos hsplit, if_pos hsplit, hex, hdy] at hplace
    exact Option.some.inj hplace
  · exact eq_of_isSplit_eq_false (by simpa using hsplit) he hd hkey rfl hex hdy

/-- Exact clustering brings no two places together. -/
theorem atOnePlace_initial {mentions : MentionTable} {c : Cluster}
    (h : c ∈ (initial mentions).clusters) : c.AtOnePlace :=
  atOnePlace_of_mem_ofEntries h

end Cluster

end Prosopography
