import Prosopography.Collection.SortedMap
import Mathlib.Algebra.GroupWithZero.Nat
import Mathlib.Data.List.Nodup

/-!
# Entries of sorted maps

A key below all others is not found, a key above all others comes to the end, and a new
number under a key takes the place of the old one in the sum of all values. A map is put
together again from its own entries, and of several values that are put under one key the last
one stays.
-/

namespace Prosopography

/-- Where no two elements share a key, the element with a key is found. -/
theorem find?_key_eq_some_iff {α β : Type} [BEq β] [LawfulBEq β] {key : α → β} {l : List α}
    (h : (l.map key).Nodup) {k : β} {a : α} :
    l.find? (key · == k) = some a ↔ a ∈ l ∧ key a = k := by
  constructor
  · intro hfound
    exact ⟨List.mem_of_find?_eq_some hfound, by simpa using List.find?_some hfound⟩
  · rintro ⟨ha, rfl⟩
    have hsome : (l.find? (key · == key a)).isSome = true :=
      List.find?_isSome.mpr ⟨a, ha, beq_self_eq_true _⟩
    obtain ⟨b, hb⟩ := Option.isSome_iff_exists.mp hsome
    have hkey : key b = key a := by simpa using List.find?_some hb
    rw [hb, List.inj_on_of_nodup_map h (List.mem_of_find?_eq_some hb) ha hkey]

namespace SortedMap

theorem find?_eq_none_of_lt {β : Type} {k : String} {l : List (String × β)}
    (h : ∀ x ∈ l, k < x.1) : l.find? (·.1 == k) = none := by
  rw [List.find?_eq_none]
  intro x hx
  simpa using (String.ne_of_lt (h x hx)).symm

/-- In a sorted list a new number stands for the one that was found under its key. -/
theorem sum_place (k : String) (v : Nat) {l : List (String × Nat)} (h : l.Pairwise (·.1 < ·.1)) :
    ((place k v l).map (·.2)).sum + ((l.find? (·.1 == k)).map (·.2)).getD 0 =
      (l.map (·.2)).sum + v := by
  induction l with
  | nil => simp [place]
  | cons e l ih =>
      obtain ⟨he, hl⟩ := List.pairwise_cons.mp h
      rw [place]
      split
      · rename_i hlt
        have hbelow : ∀ x ∈ e :: l, k < x.1 :=
          List.forall_mem_cons.mpr ⟨hlt, fun x hx => String.lt_trans hlt (he x hx)⟩
        rw [find?_eq_none_of_lt hbelow]
        simp [Nat.add_comm]
      · split
        · rename_i heq
          simp [heq]
          omega
        · rename_i hne
          have hek : e.1 ≠ k := fun h => hne h.symm
          have hrest := ih hl
          simp [hek]
          omega

/-- An insertion changes the sum of the values by the difference at its key. -/
theorem sum_values_insert (m : SortedMap Nat) (k : String) (v : Nat) :
    (m.insert k v).values.sum + (m.find? k).getD 0 = m.values.sum + v :=
  sum_place k v m.sorted

section Entries

variable {β : Type}

theorem mem_of_mem_place {k : String} {v : β} {l : List (String × β)} {x : String × β}
    (h : x ∈ place k v l) : x = (k, v) ∨ x ∈ l := by
  induction l with
  | nil => exact .inl (List.mem_singleton.mp h)
  | cons e l ih =>
      rw [place] at h
      split at h
      · exact List.mem_cons.mp h
      · split at h
        · exact (List.mem_cons.mp h).imp_right (List.mem_cons_of_mem e)
        · rcases List.mem_cons.mp h with rfl | h
          · exact .inr List.mem_cons_self
          · exact (ih h).imp_right (List.mem_cons_of_mem e)

theorem mem_of_mem_insert {m : SortedMap β} {k : String} {v : β} {x : String × β}
    (h : x ∈ (m.insert k v).toList) : x = (k, v) ∨ x ∈ m.toList :=
  mem_of_mem_place h

theorem mem_of_mem_foldl_insert {γ : Type} {key : γ → String} {value : γ → β} {l : List γ}
    {m : SortedMap β} {x : String × β}
    (h : x ∈ (l.foldl (fun m c => m.insert (key c) (value c)) m).toList) :
    (∃ c ∈ l, x = (key c, value c)) ∨ x ∈ m.toList := by
  induction l generalizing m with
  | nil => exact .inr h
  | cons c l ih =>
      rcases ih h with ⟨d, hd, hx⟩ | h
      · exact .inl ⟨d, List.mem_cons_of_mem c hd, hx⟩
      · exact (mem_of_mem_insert h).imp_left fun hx => ⟨c, List.mem_cons_self, hx⟩

theorem place_of_forall_lt {k : String} {v : β} {l : List (String × β)} (h : ∀ x ∈ l, x.1 < k) :
    place k v l = l ++ [(k, v)] := by
  induction l with
  | nil => rfl
  | cons e l ih =>
      obtain ⟨he, hl⟩ := List.forall_mem_cons.mp h
      rw [place, if_neg (String.lt_asymm he), if_neg (String.ne_of_lt he).symm, ih hl,
        List.cons_append]

/-- Entries that come in ascending order come behind each other. -/
theorem toList_foldl_insert {l : List (String × β)} {m : SortedMap β}
    (h : (m.toList ++ l).Pairwise (·.1 < ·.1)) :
    (l.foldl (fun m e => m.insert e.1 e.2) m).toList = m.toList ++ l := by
  induction l generalizing m with
  | nil => exact (List.append_nil _).symm
  | cons e l ih =>
      have hinsert : (m.insert e.1 e.2).toList = m.toList ++ [e] :=
        place_of_forall_lt fun x hx => (List.pairwise_append.mp h).2.2 x hx e List.mem_cons_self
      rw [List.foldl_cons, ih (by rwa [hinsert, ← List.append_cons]), hinsert, ← List.append_cons]

/-- The entries of a map are in the order in which a map keeps them. -/
theorem ofList_toList (m : SortedMap β) : ofList m.toList = m := by
  have hsame : (ofList m.toList).toList = m.toList := toList_foldl_insert (m := empty) m.sorted
  rw [mk.injEq]
  exact hsame

/-- The entries of a map are what it answers to its keys. -/
theorem find?_eq_some_iff {m : SortedMap β} {k : String} {v : β} :
    m.find? k = some v ↔ (k, v) ∈ m.toList := by
  have hkeys : (m.entries.map (·.1)).Nodup := by
    rw [List.nodup_iff_pairwise_ne, List.pairwise_map]
    exact m.sorted.imp String.ne_of_lt
  rw [find?, Option.map_eq_some_iff]
  constructor
  · rintro ⟨e, he, rfl⟩
    obtain ⟨hmem, rfl⟩ := (find?_key_eq_some_iff hkeys).mp he
    exact hmem
  · intro h
    exact ⟨(k, v), (find?_key_eq_some_iff hkeys).mpr ⟨h, rfl⟩, rfl⟩

theorem mem_keys_iff {m : SortedMap β} {k : String} : k ∈ m.keys ↔ ∃ v, (k, v) ∈ m.toList := by
  simp [keys, toList]

/-- A key has no value exactly if it is not among the keys. -/
theorem find?_eq_none_iff {m : SortedMap β} {k : String} : m.find? k = none ↔ k ∉ m.keys := by
  simp only [Option.eq_none_iff_forall_ne_some, Ne, find?_eq_some_iff, mem_keys_iff, not_exists]

/-- Of the values that are put under one key the last one stays. -/
theorem find?_foldl_insert {γ : Type} {key : γ → String} {value : γ → β} (l : List γ)
    (m : SortedMap β) (k : String) :
    (l.foldl (fun m c => m.insert (key c) (value c)) m).find? k =
      ((l.reverse.find? (key · == k)).map value).or (m.find? k) := by
  induction l generalizing m with
  | nil => rfl
  | cons c l ih =>
      rw [List.foldl_cons, ih, find?_insert, List.reverse_cons, List.find?_append, Option.map_or,
        Option.or_assoc]
      by_cases hk : key c = k
      · simp [hk]
      · simp [hk]

end Entries

end SortedMap

end Prosopography
