import Prosopography.Person.OfCluster
import Prosopography.Proofs.Collection.IndexedTable
import Prosopography.Proofs.Collection.SortedMap
import Mathlib.Data.List.Basic

/-!
# The attributes of a person

Of the values that the mentions of a person give to an attribute, the last affirmed one is
kept, and what is affirmed is all that is not void. The flag of witnesses who were accused is
one attribute among the others, so that a mention may affirm it as well.
-/

namespace Prosopography

/-- Null, false, zero and whatever is empty. -/
inductive Json.IsVoid : Json → Prop
  | null : IsVoid null
  | false : IsVoid (bool false)
  | zero : IsVoid (int 0)
  | floatZero (x : Float) (h : (x == 0.0) = true) : IsVoid (float x)
  | emptyText : IsVoid (str "")
  | emptyArray : IsVoid (arr [])
  | emptyObject : IsVoid (obj [])

/-- A mention has a value for an attribute, and it is not void. -/
def Mention.Holds (m : Mention) (k : String) (v : Json) : Prop :=
  (k, v) ∈ m.attributes.toList ∧ ¬ v.IsVoid

/-- Of the mentions of some names the last one that has a value for an attribute has this one.
Void values do not count. -/
def MentionTable.LastHolds (mentions : MentionTable) (names : List String) (k : String)
    (v : Json) : Prop :=
  ∃ before name after, names = before ++ name :: after ∧
    (∃ m ∈ mentions.toList, m.name = name ∧ m.Holds k v) ∧
    ∀ m ∈ mentions.toList, m.name ∈ after → ∀ w, (k, w) ∈ m.attributes.toList → w.IsVoid

/-- A person has the attributes for which one of its mentions has a value that is not void, each
with the last such value. Whoever is flagged has the flag as an attribute. -/
structure Person.Merges (p : Person) (mentions : MentionTable) (c : Cluster) : Prop where
  keys : ∀ k, (k = witnessToAccusedFlag → p.witnessToAccused = false) →
    (k ∈ p.attributes.keys ↔ ∃ m ∈ mentions.toList, m.name ∈ c.members ∧ ∃ v, m.Holds k v)
  values : ∀ k, (k = witnessToAccusedFlag → p.witnessToAccused = false) →
    ∀ v, (k, v) ∈ p.attributes.toList ↔ mentions.LastHolds c.members k v
  flag : p.witnessToAccused = true →
    ∀ v, (witnessToAccusedFlag, v) ∈ p.attributes.toList ↔ v = .bool true
  notVoid : ∀ e ∈ p.attributes.toList, ¬ e.2.IsVoid

/-- The void values are those that do not count as true. -/
theorem Json.isVoid_iff {v : Json} : v.IsVoid ↔ v.isTruthy = false := by
  constructor
  · intro h
    cases h with
    | floatZero x hx => simp [isTruthy, bne, hx]
    | _ => rfl
  · intro h
    cases v with
    | null => exact .null
    | bool b =>
        obtain rfl : b = false := h
        exact .false
    | int n =>
        obtain rfl : n = 0 := by simpa [isTruthy] using h
        exact .zero
    | float x => exact .floatZero x (by simpa [isTruthy, bne] using h)
    | str s =>
        obtain rfl : s = "" := by simpa [isTruthy] using h
        exact .emptyText
    | arr items =>
        obtain rfl : items = [] := by simpa [isTruthy] using h
        exact .emptyArray
    | obj fields =>
        obtain rfl : fields = [] := by simpa [isTruthy] using h
        exact .emptyObject

theorem Json.isTruthy_iff {v : Json} : v.isTruthy = true ↔ ¬ v.IsVoid := by
  rw [isVoid_iff, Bool.not_eq_false]

/-- A mention gives an attribute a value that is affirmed. -/
def Mention.Affirms (m : Mention) (k : String) : Prop :=
  ∃ v, m.attributes.find? k = some v ∧ v.isTruthy = true

/-- The affirmed value of an attribute. -/
def affirmed? (attributes : SortedMap Json) (k : String) : Option Json :=
  (attributes.find? k).filter Json.isTruthy

theorem affirmed?_isSome_iff {m : Mention} {k : String} :
    (affirmed? m.attributes k).isSome = true ↔ m.Affirms k := by
  simp only [affirmed?, Mention.Affirms, Option.isSome_iff_exists, Option.filter_eq_some_iff]

/-- Merging takes over what is affirmed and keeps the rest. -/
theorem find?_mergeAttributes (merged incoming : SortedMap Json) (k : String) :
    (mergeAttributes merged incoming).find? k =
      (affirmed? incoming k).or (merged.find? k) := by
  have hfold : ∀ (l : List (String × Json)) (m : SortedMap Json), l.Pairwise (·.1 < ·.1) →
      (l.foldl (fun m e => if e.2.isTruthy then m.insert e.1 e.2 else m) m).find? k =
        (((l.find? (·.1 == k)).map (·.2)).filter Json.isTruthy).or (m.find? k) := by
    intro l
    induction l with
    | nil => simp
    | cons e l ih =>
        intro m h
        obtain ⟨he, hl⟩ := List.pairwise_cons.mp h
        rw [List.foldl_cons, ih _ hl]
        by_cases hk : e.1 = k
        · -- Keys are sorted, so the key is not seen again.
          have hnone : l.find? (·.1 == k) = none := SortedMap.find?_eq_none_of_lt (hk ▸ he)
          rw [hnone, List.find?_cons_of_pos (by simpa using hk), Option.map_some,
            Option.filter_some]
          split <;> simp [SortedMap.find?_insert, hk]
        · rw [List.find?_cons_of_neg (by simpa using hk)]
          split <;> simp [SortedMap.find?_insert, hk]
  exact hfold incoming.entries merged incoming.sorted

-- An empty text is void, so the trade that was known before stays.
example :
    (mergeAttributes (.ofList [("trade", "miller")])
      (.ofList [("trade", ""), ("age", .int 40)])).toList =
        [("age", Json.int 40), ("trade", Json.str "miller")] := rfl

/-- Of several mentions the last one that affirms an attribute decides. -/
theorem find?_foldl_mergeAttributes (ms : List Mention) (merged : SortedMap Json) (k : String) :
    (ms.foldl (fun m a => mergeAttributes m a.attributes) merged).find? k =
      (ms.reverse.findSome? fun a => affirmed? a.attributes k).or (merged.find? k) := by
  induction ms generalizing merged with
  | nil => rfl
  | cons a ms ih =>
      rw [List.foldl_cons, ih, find?_mergeAttributes, List.reverse_cons, List.findSome?_append,
        List.findSome?_singleton, Option.or_assoc]

section Last

variable {k : String} {v : Json}

/-- The value that a mention affirms is its last one under the key that is not void. -/
theorem affirmed?_eq_some_iff {m : Mention} : affirmed? m.attributes k = some v ↔ m.Holds k v := by
  rw [affirmed?, Option.filter_eq_some_iff, SortedMap.find?_eq_some_iff, Json.isTruthy_iff]
  rfl

theorem affirmed?_eq_none_iff {m : Mention} :
    affirmed? m.attributes k = none ↔ ∀ w, (k, w) ∈ m.attributes.toList → w.IsVoid := by
  simp only [Option.eq_none_iff_forall_ne_some, Ne, affirmed?_eq_some_iff, Mention.Holds, not_and,
    not_not]

namespace MentionTable

/-- The affirmed value that the mention of a name gives to an attribute. -/
def affirmedOf? (mentions : MentionTable) (k name : String) : Option Json :=
  (mentions.get? name).bind fun m => affirmed? m.attributes k

variable {mentions : MentionTable} {name : String}

theorem affirmedOf?_eq_some_iff :
    mentions.affirmedOf? k name = some v ↔ ∃ m ∈ mentions.toList, m.name = name ∧ m.Holds k v := by
  simp only [affirmedOf?, Option.bind_eq_some_iff, IndexedTable.get?_eq_some_iff,
    affirmed?_eq_some_iff, and_assoc]

theorem affirmedOf?_eq_none_iff :
    mentions.affirmedOf? k name = none ↔
      ∀ m ∈ mentions.toList, m.name = name → ∀ w, (k, w) ∈ m.attributes.toList → w.IsVoid := by
  simp only [affirmedOf?, Option.bind_eq_none_iff, IndexedTable.get?_eq_some_iff,
    affirmed?_eq_none_iff, and_imp]

variable {names : List String}

/-- The last value that counts is the first one from behind. -/
theorem lastHolds_iff :
    mentions.LastHolds names k v ↔ names.reverse.findSome? (mentions.affirmedOf? k) = some v := by
  rw [List.findSome?_eq_some_iff]
  constructor
  · rintro ⟨before, name, after, rfl, hname, hafter⟩
    refine ⟨after.reverse, name, before.reverse, by simp, affirmedOf?_eq_some_iff.mpr hname, ?_⟩
    intro other hother
    apply affirmedOf?_eq_none_iff.mpr
    rintro m hm rfl
    exact hafter m hm (List.mem_reverse.mp hother)
  · rintro ⟨after, name, before, hsplit, hname, hafter⟩
    refine ⟨before.reverse, name, after.reverse, ?_, affirmedOf?_eq_some_iff.mp hname, ?_⟩
    · simpa using List.reverse_eq_iff.mp hsplit
    · intro m hm hmafter
      exact affirmedOf?_eq_none_iff.mp (hafter _ (List.mem_reverse.mp hmafter)) m hm rfl

theorem exists_lastHolds_iff :
    (∃ v, mentions.LastHolds names k v) ↔
      ∃ m ∈ mentions.toList, m.name ∈ names ∧ ∃ v, m.Holds k v := by
  simp only [lastHolds_iff, ← Option.isSome_iff_exists, List.findSome?_isSome_iff,
    List.mem_reverse]
  simp only [Option.isSome_iff_exists, affirmedOf?_eq_some_iff]
  constructor
  · rintro ⟨-, hname, v, m, hm, rfl, hv⟩
    exact ⟨m, hm, hname, v, hv⟩
  · rintro ⟨m, hm, hname, v, hv⟩
    exact ⟨m.name, hname, v, m, hm, rfl, hv⟩

end MentionTable

end Last

namespace Person

variable {mentions : MentionTable} {trials : TrialTable} {id : PersonId} {c : Cluster}

/-- An attribute is the last value of the members that is not void, and the flag where it is set.
-/
theorem find?_attributes_ofCluster (k : String) :
    (ofCluster mentions trials id c).attributes.find? k =
      if k = witnessToAccusedFlag ∧ (ofCluster mentions trials id c).witnessToAccused = true then
        some (.bool true)
      else (mentionsOf mentions c).reverse.findSome? fun m => affirmed? m.attributes k := by
  have hmerged := find?_foldl_mergeAttributes (mentionsOf mentions c) .empty k
  rw [SortedMap.find?_empty, Option.or_none] at hmerged
  have hattributes : (ofCluster mentions trials id c).attributes =
      let merged := (mentionsOf mentions c).foldl (fun m a => mergeAttributes m a.attributes) .empty
      if (ofCluster mentions trials id c).witnessToAccused then
        merged.insert witnessToAccusedFlag (.bool true)
      else merged := rfl
  rw [hattributes, ← hmerged]
  by_cases hflag : (ofCluster mentions trials id c).witnessToAccused = true
  · simp [hflag, SortedMap.find?_insert, eq_comm]
  · simp [hflag]

/-- A person has the attributes that a mention affirms. The flag is one of them, and stands for
itself. -/
theorem hasFlag_ofCluster_iff {k : String} :
    (ofCluster mentions trials id c).hasFlag k = true ↔
      (k = witnessToAccusedFlag ∧ (ofCluster mentions trials id c).witnessToAccused = true) ∨
        ∃ m ∈ mentionsOf mentions c, m.Affirms k := by
  have haffirms : (∃ m ∈ mentionsOf mentions c, m.Affirms k) ↔
      ((mentionsOf mentions c).reverse.findSome?
        fun m => affirmed? m.attributes k).isSome = true := by
    simp only [List.findSome?_isSome_iff, List.mem_reverse, affirmed?_isSome_iff]
  rw [hasFlag, find?_attributes_ofCluster, haffirms]
  split
  · rename_i hflag
    simp [hflag, Json.isTruthy]
  · rename_i hflag
    rw [or_iff_right hflag]
    cases hfound : (mentionsOf mentions c).reverse.findSome? fun m => affirmed? m.attributes k with
    | none => simp
    | some v =>
        obtain ⟨m, -, hm⟩ := List.exists_of_findSome?_eq_some hfound
        have htruthy : v.isTruthy = true := (Option.filter_eq_some_iff.mp hm).2
        simp [htruthy]

/-- Names that the table does not hold say nothing of an attribute. -/
theorem findSome?_mentionsOf (mentions : MentionTable) (c : Cluster) (k : String) :
    ((mentionsOf mentions c).reverse.findSome? fun m => affirmed? m.attributes k) =
      c.members.reverse.findSome? (mentions.affirmedOf? k) := by
  rw [mentionsOf, ← List.filterMap_reverse, ← List.head?_filterMap, List.filterMap_filterMap,
    List.head?_filterMap]
  rfl

/-- Apart from the flag, attributes are the last values of the members that are not void. -/
theorem mem_attributes_ofCluster_iff {k : String}
    (h : k = witnessToAccusedFlag → (ofCluster mentions trials id c).witnessToAccused = false)
    (v : Json) :
    (k, v) ∈ (ofCluster mentions trials id c).attributes.toList ↔
      mentions.LastHolds c.members k v := by
  have hfree : ¬ (k = witnessToAccusedFlag ∧
      (ofCluster mentions trials id c).witnessToAccused = true) := by
    rintro ⟨hk, hflagged⟩
    simp [h hk] at hflagged
  rw [← SortedMap.find?_eq_some_iff, find?_attributes_ofCluster, if_neg hfree,
    findSome?_mentionsOf, MentionTable.lastHolds_iff]

/-- The flag, where it is set, takes the place of what is recorded under its name. -/
theorem mem_attributes_of_flagged
    (h : (ofCluster mentions trials id c).witnessToAccused = true) (v : Json) :
    (witnessToAccusedFlag, v) ∈ (ofCluster mentions trials id c).attributes.toList ↔
      v = .bool true := by
  rw [← SortedMap.find?_eq_some_iff, find?_attributes_ofCluster, if_pos ⟨rfl, h⟩,
    Option.some_inj, eq_comm]

/-- Whatever the cluster, its mentions' attributes are merged by the last value that counts. -/
theorem merges_ofCluster : (ofCluster mentions trials id c).Merges mentions c where
  keys k h := by
    simp only [SortedMap.mem_keys_iff, mem_attributes_ofCluster_iff h,
      MentionTable.exists_lastHolds_iff]
  values k h := mem_attributes_ofCluster_iff h
  flag := mem_attributes_of_flagged
  notVoid := by
    rintro ⟨k, v⟩ hv
    by_cases hfree : k = witnessToAccusedFlag →
        (ofCluster mentions trials id c).witnessToAccused = false
    · obtain ⟨-, name, -, -, ⟨m, -, -, hholds⟩, -⟩ :=
        (mem_attributes_ofCluster_iff hfree v).mp hv
      exact hholds.2
    · obtain ⟨rfl, hflagged⟩ := Classical.not_imp.mp hfree
      obtain rfl := (mem_attributes_of_flagged (by simpa using hflagged) v).mp hv
      exact Json.isTruthy_iff.mp rfl

end Person

end Prosopography
