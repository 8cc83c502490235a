import Prosopography.Json.Shape
import Prosopography.Proofs.Collection.SortedMap
import Mathlib.Data.List.Forall2

/-!
# Reading what a shape describes

A reader of a value gives a reader of what the value may be part of: of an optional value,
of the items of a list, of the entries of a map. Whatever every field of a record keeps
true of a draft is true of the draft from which the record is built. A field that no other
one touches may be put in anywhere.
-/

namespace Prosopography.Json.Shape

section Outcome

variable {ε α β : Type} {x : Except ε α}

@[simp] theorem ok_bind {a : α} {f : α → Except ε β} : Except.ok a >>= f = f a := rfl

@[simp] theorem map_ok {a : α} {f : α → β} : (Except.ok a : Except ε α).map f = .ok (f a) := rfl

@[simp] theorem pure_eq_ok {a : α} : (pure a : Except ε α) = .ok a := rfl

theorem bind_eq_ok_iff {f : α → Except ε β} {b : β} :
    x >>= f = .ok b ↔ ∃ a, x = .ok a ∧ f a = .ok b := by
  cases x with
  | error e => simp [bind, Except.bind]
  | ok a => simp [bind, Except.bind]

theorem map_eq_ok_iff {f : α → β} {b : β} : x.map f = .ok b ↔ ∃ a, x = .ok a ∧ f a = b := by
  cases x with
  | error e => simp [Except.map]
  | ok a => simp [Except.map]

theorem mapError_eq_ok_iff {ε' : Type} {f : ε → ε'} {a : α} :
    x.mapError f = .ok a ↔ x = .ok a := by
  cases x with
  | error e => simp [Except.mapError]
  | ok a => simp [Except.mapError]

end Outcome

variable {α σ : Type}

@[simp] theorem string_str (s : String) : string (str s) = .ok s := rfl

@[simp] theorem boolean_bool (b : Bool) : boolean (bool b) = .ok b := rfl

@[simp] theorem present_some {name : String} {a : α} : present name (some a) = .ok a := rfl

/-- A value that is not written as null is read back where it may be absent. -/
theorem optional_ofOption {shape : Shape α} {write : α → Json} {o : Option α}
    (hnull : ∀ a, write a ≠ null) (h : ∀ a, o = some a → shape (write a) = .ok a) :
    optional shape (ofOption write o) = .ok o := by
  cases o with
  | none => rfl
  | some a =>
      have hread : optional shape (write a) = (shape (write a)).map some := by
        rw [optional.eq_def]
        split
        · rename_i hw
          exact absurd hw (hnull a)
        · rfl
      rw [ofOption, hread, h a rfl]
      rfl

@[simp] theorem optional_string (o : Option String) :
    optional string (ofOption str o) = .ok o :=
  optional_ofOption (fun _ => Json.noConfusion) fun s _ => string_str s

theorem list_arr {shape : Shape α} {write : α → Json} {l : List α}
    (h : ∀ a ∈ l, shape (write a) = .ok a) : list shape (arr (l.map write)) = .ok l := by
  rw [list]
  induction l with
  | nil => rfl
  | cons a l ih =>
      obtain ⟨ha, hl⟩ := List.forall_mem_cons.mp h
      rw [List.map_cons, List.mapM_cons, ha, ih hl]
      rfl

@[simp] theorem list_strs (l : List String) : list string (strs l) = .ok l :=
  list_arr fun s _ => string_str s

/-- The entries of a map are read back one after the other. -/
theorem map_obj (shape : Shape α) (write : α → Json) {m : SortedMap α}
    (h : ∀ e ∈ m.toList, shape (write e.2) = .ok e.2) :
    map shape (obj (m.toList.map fun (k, a) => (k, write a))) = .ok m := by
  -- Reading inserts the entries in order, which makes the map that they come from.
  have hfold : ∀ (l : List (String × α)) (start : SortedMap α),
      (∀ e ∈ l, shape (write e.2) = .ok e.2) →
        (l.map fun e => (e.1, write e.2)).foldlM
            (fun m (e : String × Json) => (shape e.2).map (m.insert e.1)) start =
          .ok (l.foldl (fun m e => m.insert e.1 e.2) start) := by
    intro l
    induction l with
    | nil => exact fun _ _ => rfl
    | cons e l ih =>
        intro start h
        obtain ⟨he, hl⟩ := List.forall_mem_cons.mp h
        rw [List.map_cons, List.foldlM_cons, he, List.foldl_cons, ← ih _ hl]
        rfl
  exact (hfold m.toList .empty h).trans (congrArg Except.ok m.ofList_toList)

@[simp] theorem map_any (m : SortedMap Json) : map any (obj m.toList) = .ok m := by
  simpa using map_obj any id fun (_ : String × Json) _ => rfl

/-- The values of a map were read by the reader of its values. -/
theorem exists_of_mem_map {shape : Shape α} {v : Json} {m : SortedMap α} (h : map shape v = .ok m)
    {e : String × α} (he : e ∈ m.toList) : ∃ w, shape w = .ok e.2 := by
  have hfold : ∀ (fields : List (String × Json)) (start : SortedMap α),
      (∀ e ∈ start.toList, ∃ w, shape w = .ok e.2) →
        fields.foldlM (fun m (f : String × Json) => (shape f.2).map (m.insert f.1)) start = .ok m →
          ∃ w, shape w = .ok e.2 := by
    intro fields
    induction fields with
    | nil =>
        rintro start hstart h
        obtain rfl := Except.ok.inj h
        exact hstart e he
    | cons f fields ih =>
        intro start hstart h
        rw [List.foldlM_cons] at h
        obtain ⟨next, hnext, h⟩ := bind_eq_ok_iff.mp h
        obtain ⟨a, ha, rfl⟩ := map_eq_ok_iff.mp hnext
        refine ih _ ?_ h
        intro x hx
        rcases SortedMap.mem_of_mem_insert hx with rfl | hx
        · exact ⟨f.2, ha⟩
        · exact hstart x hx
  cases v with
  | obj fields => exact hfold fields .empty (fun _ h => absurd h List.not_mem_nil) h
  | _ => simp [map] at h

namespace RecordKind

variable {kind : RecordKind σ α} {P : σ → Prop}

/-- Storing a field keeps a property of drafts. -/
def Keeps (P : σ → Prop) (f : Field σ) : Prop := ∀ d v d', P d → f.store d v = .ok d' → P d'

theorem keeps_required {β : Type} (name : String) {shape : Shape β} {set : σ → Option β → σ}
    (h : ∀ d v a, P d → shape v = .ok a → P (set d (some a))) :
    Keeps P (required name shape set) := by
  intro d v d' hd hstore
  obtain ⟨a, ha, rfl⟩ := map_eq_ok_iff.mp hstore
  exact h d v a hd ha

theorem keeps_defaulted {β : Type} (name : String) {shape : Shape β} {set : σ → Option β → σ}
    (h : ∀ d v a, P d → shape v = .ok a → P (set d (some a))) :
    Keeps P (defaulted name shape set) :=
  keeps_required name h

/-- What every field keeps, an object keeps. -/
theorem storeFields_keeps (h : ∀ f ∈ kind.fields, Keeps P f) {d d' : σ} {seen : List String}
    {fields : List (String × Json)} (hd : P d) (hread : kind.storeFields d seen fields = .ok d') :
    P d' := by
  fun_induction storeFields kind d seen fields with
  | case1 d => exact Except.ok.inj hread ▸ hd
  | case2 => exact nomatch hread
  | case3 d seen k v rest f hf _ ih =>
      obtain ⟨next, hnext, hread⟩ := bind_eq_ok_iff.mp hread
      exact ih next (h f (List.mem_of_find?_eq_some hf) d v next hd hnext) hread
  | case4 => exact nomatch hread
  | case5 d seen k v rest _ _ ih => exact ih hd hread

/-- What every field keeps, an array keeps. -/
theorem storeItems_keeps {total i : Nat} {fields : List (Field σ)} (h : ∀ f ∈ fields, Keeps P f)
    {d d' : σ} {items : List Json} (hd : P d)
    (hread : kind.storeItems total d i fields items = .ok d') : P d' := by
  fun_induction storeItems kind total d i fields items with
  | case1 d => exact Except.ok.inj hread ▸ hd
  | case2 => exact nomatch hread
  | case3 => exact nomatch hread
  | case4 d i f fields _ ih => exact ih (fun f hf => h f (List.mem_cons_of_mem _ hf)) hd hread
  | case5 d i f fields v items ih =>
      obtain ⟨hf, hfields⟩ := List.forall_mem_cons.mp h
      obtain ⟨next, hnext, hread⟩ := bind_eq_ok_iff.mp hread
      exact ih next hfields (hf d v next hd hnext) hread

/-- A record is built from a draft with every property that holds at the start and that all
fields keep. -/
theorem exists_draft (hstart : P kind.start) (h : ∀ f ∈ kind.fields, Keeps P f) {v : Json} {a : α}
    (hread : kind.shape v = .ok a) : ∃ d, P d ∧ kind.build d = .ok a := by
  cases v with
  | obj fields =>
      obtain ⟨d, hd, hbuild⟩ := bind_eq_ok_iff.mp hread
      exact ⟨d, storeFields_keeps h hstart hd, hbuild⟩
  | arr items =>
      obtain ⟨d, hd, hbuild⟩ := bind_eq_ok_iff.mp hread
      exact ⟨d, storeItems_keeps h hstart hd, hbuild⟩
  | _ => simp [shape] at hread

section Insertion

variable {put : σ → σ} {name : String}

/-- A change of drafts that storing a field does not notice. -/
def Commutes (put : σ → σ) (f : Field σ) : Prop :=
  ∀ d v, f.store (put d) v = (f.store d v).map put

theorem commutes_required {β : Type} (name : String) {shape : Shape β} {set : σ → Option β → σ}
    (h : ∀ d a, set (put d) a = put (set d a)) : Commutes put (required name shape set) := by
  intro d v
  change (shape v).map (fun a => set (put d) (some a)) =
    ((shape v).map fun a => set d (some a)).map put
  cases shape v with
  | error e => rfl
  | ok a => exact congrArg Except.ok (h d (some a))

theorem commutes_defaulted {β : Type} (name : String) {shape : Shape β} {set : σ → Option β → σ}
    (h : ∀ d a, set (put d) a = put (set d a)) : Commutes put (defaulted name shape set) :=
  commutes_required name h

/-- A key that is not one of the field `name`. -/
def Misses (kind : RecordKind σ α) (name k : String) : Prop :=
  ∀ f, kind.fields.find? (·.answersTo k) = some f → f.name ≠ name

variable (hput : ∀ f ∈ kind.fields, f.name ≠ name → Commutes put f)
include hput

/-- Fields that do not notice a change of the draft are stored after it as they are before it. -/
theorem storeFields_put {entries : List (String × Json)} (h : ∀ e ∈ entries, kind.Misses name e.1)
    (d : σ) {seen seen' : List String}
    (hseen : ∀ n, n ≠ name → seen'.contains n = seen.contains n) :
    kind.storeFields (put d) seen' entries = (kind.storeFields d seen entries).map put := by
  induction entries generalizing d seen seen' with
  | nil => rfl
  | cons e entries ih =>
      obtain ⟨k, v⟩ := e
      obtain ⟨hk, hrest⟩ := List.forall_mem_cons.mp h
      rw [storeFields, storeFields]
      cases hfind : kind.fields.find? (·.answersTo k) with
      | none =>
          dsimp only
          split
          · rfl
          · exact ih hrest d hseen
      | some f =>
          have hname := hk f hfind
          dsimp only
          rw [hseen f.name hname]
          split
          · rfl
          · rw [hput f (List.mem_of_find?_eq_some hfind) hname]
            cases f.store d v with
            | error e => rfl
            | ok next =>
                apply ih hrest next
                intro n hn
                rw [List.contains_cons, List.contains_cons, hseen n hn]

/-- A field that no other entry is for may stand anywhere in an object. -/
theorem storeFields_insert {g : Field σ} {key : String} {v : Json}
    (hfind : kind.fields.find? (·.answersTo key) = some g) (hg : g.name = name)
    (hstore : ∀ d, g.store d v = .ok (put d)) {before after : List (String × Json)}
    (h : ∀ e ∈ before ++ after, kind.Misses name e.1) (d : σ) {seen : List String}
    (hseen : seen.contains name = false) :
    kind.storeFields d seen (before ++ (key, v) :: after) =
      (kind.storeFields d seen (before ++ after)).map put := by
  induction before generalizing d seen with
  | nil =>
      rw [List.nil_append, storeFields, hfind]
      dsimp only
      rw [hg, hseen, if_neg Bool.false_ne_true, hstore]
      apply storeFields_put hput h d
      intro n hn
      rw [List.contains_cons, beq_eq_false_iff_ne.mpr hn, Bool.false_or]
  | cons e before ih =>
      obtain ⟨k, w⟩ := e
      obtain ⟨hk, hrest⟩ := List.forall_mem_cons.mp h
      rw [List.cons_append, List.cons_append, storeFields, storeFields]
      cases hfield : kind.fields.find? (·.answersTo k) with
      | none =>
          dsimp only
          split
          · rfl
          · exact ih hrest d hseen
      | some f =>
          dsimp only
          split
          · rfl
          · cases f.store d w with
            | error e => rfl
            | ok next =>
                apply ih hrest next
                rw [List.contains_cons, hseen, Bool.or_false]
                exact beq_eq_false_iff_ne.mpr (hk f hfield).symm

end Insertion

end RecordKind

end Prosopography.Json.Shape
