import Prosopography.Toml.Basic

/-!
# Shapes of TOML values

Readers that turn a TOML value into a value of some type. A record is given as a
table, whose keys must all be known, or as the array of its fields in order, of
which the last ones may be absent and further elements do not count.
-/

namespace Prosopography.Toml

/-- A reader of values of one type. -/
abbrev Shape (α : Type) := Toml → Option α

namespace Shape

variable {α σ : Type}

/-- Reads a string. -/
def string : Shape String
  | str s => some s
  | _ => none

/-- Reads a flag. -/
def boolean : Shape Bool
  | bool b => some b
  | _ => none

/-- Reads an integer that is not negative. -/
def count : Shape Nat
  | int n => if n < 0 then none else some n.toNat
  | _ => none

/-- Reads a float, or an integer as one. -/
def double : Shape Float
  | int n => some (Float.ofInt n)
  | float x => some x
  | _ => none

/-- One of several names, given as a string or as the only key of a table that holds an empty
table or array. -/
def variant (named : List (String × α)) : Shape α
  | str s => lookup s
  | table [(k, table [])] => lookup k
  | table [(k, arr [])] => lookup k
  | _ => none
where
  lookup (s : String) : Option α := (named.find? (·.1 == s)).map (·.2)

/-- A field of a record `σ`. -/
structure Field (σ : Type) where
  name : String
  store : σ → Toml → Option σ

/-- A field whose value is stored as it is read. -/
def field (name : String) (shape : Shape α) (set : σ → α → σ) : Field σ where
  name
  store := fun d v => (shape v).map (set d)

/-- A record; fields that are not given stay as they are in `start`. -/
def record (start : σ) (fields : List (Field σ)) : Shape σ
  | table given => given.foldlM (fun d (k, v) => do
      let f ← fields.find? (·.name == k)
      f.store d v) start
  | arr items => (fields.zip items).foldlM (fun d (f, v) => f.store d v) start
  | _ => none

end Shape

end Prosopography.Toml
