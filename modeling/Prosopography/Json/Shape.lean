import Prosopography.Collection.SortedMap
import Prosopography.Json.Printer
import Prosopography.Text.Quoted

/-!
# Shapes of JSON values

Readers that turn a JSON value into a value of some type, or say why it does not
have the right shape. A record is given as an object, with its fields in any
order, or as the list of its fields in their own order.
-/

namespace Prosopography.Json

/-- Why a value does not have the shape that is asked for. -/
inductive ShapeError where
  | missingField (name : String)
  | duplicateField (name : String)
  | unknownField (name : String) (known : List String)
  | unknownVariant (name : String) (known : List String)
  | wrongType (found : Json) (expected : String)
  | wrongValue (found : Json) (expected : String)
  | wrongLength (length : Nat) (expected : String)
  /-- A label that stands for nothing; `reason` says why. -/
  | wrongLabel (reason : String)

/-- What a value is, in the words of a message. -/
def described : Json → String
  | null => "null"
  | bool b => "boolean `" ++ (if b then "true" else "false") ++ "`"
  | int n => "integer `" ++ toString n ++ "`"
  | float x => "floating point `" ++ floatText x ++ "`"
  | str s => "string " ++ Text.quoted s
  | arr _ => "sequence"
  | obj _ => "map"

/-- A name in a message. -/
def ticked (s : String) : String := "`" ++ s ++ "`"

/-- The names one of which is expected. -/
def oneOf : List String → String
  | [a] => ticked a
  | [a, b] => ticked a ++ " or " ++ ticked b
  | names => "one of " ++ String.intercalate ", " (names.map ticked)

/-- The words for a value of the wrong shape. -/
def ShapeError.message : ShapeError → String
  | missingField name => "missing field " ++ ticked name
  | duplicateField name => "duplicate field " ++ ticked name
  | unknownField name known => "unknown field " ++ ticked name ++ ", expected " ++ oneOf known
  | unknownVariant name known => "unknown variant " ++ ticked name ++ ", expected " ++ oneOf known
  | wrongType found expected => "invalid type: " ++ found.described ++ ", expected " ++ expected
  | wrongValue found expected => "invalid value: " ++ found.described ++ ", expected " ++ expected
  | wrongLength n expected => "invalid length " ++ toString n ++ ", expected " ++ expected
  | wrongLabel reason => reason

/-- A reader of values of one type. -/
abbrev Shape (α : Type) := Json → Except ShapeError α

namespace Shape

variable {α β σ : Type}

/-- A text. -/
def string : Shape String
  | str s => .ok s
  | v => .error (.wrongType v "a string")

/-- A truth value. -/
def boolean : Shape Bool
  | bool b => .ok b
  | v => .error (.wrongType v "a boolean")

/-- A count of at most 64 bits. -/
def count : Shape Nat
  | int n => if n < 0 then .error (.wrongValue (int n) "usize") else .ok n.toNat
  | v => .error (.wrongType v "usize")

/-- A signed number of 32 bits. -/
def year : Shape Int
  | int n => if -0x80000000 ≤ n ∧ n < 0x80000000 then .ok n else .error (.wrongValue (int n) "i32")
  | v => .error (.wrongType v "i32")

/-- A number as a double. -/
def double : Shape Float
  | int n => .ok (Float.ofInt n)
  | float x => .ok x
  | v => .error (.wrongType v "f64")

/-- Any value, as it is. -/
def any : Shape Json := .ok

/-- Null stands for an absent value. -/
def optional (shape : Shape α) : Shape (Option α)
  | null => .ok none
  | v => (shape v).map some

/-- An array with elements of one shape. -/
def list (shape : Shape α) : Shape (List α)
  | arr items => items.mapM shape
  | v => .error (.wrongType v "a sequence")

/-- An object with values of one shape, whatever its keys. -/
def map (shape : Shape α) : Shape (SortedMap α)
  | obj fields => fields.foldlM (fun m (k, v) => (shape v).map (m.insert k)) .empty
  | v => .error (.wrongType v "a map")

/-- One of several names, given as a string or as the only key of an object with a null value. -/
def variant (named : List (String × α)) : Shape α
  | str s => lookup s
  | obj [(k, v)] => do
    let a ← lookup k
    match v with
    | null => return a
    | v => .error (.wrongType v "unit")
  | obj fields => .error (.wrongValue (obj fields) "map with a single key")
  | v => .error (.wrongType v "string or map")
where
  lookup (s : String) : Except ShapeError α :=
    match named.find? (·.1 == s) with
    | some (_, a) => .ok a
    | none => .error (.unknownVariant s (named.map (·.1)))

/-- A field of a record that is being read into a draft `σ`. -/
structure Field (σ : Type) where
  name : String
  aliases : List String
  /-- Whether a record given as a list must be long enough to hold the field. -/
  needed : Bool
  store : σ → Json → Except ShapeError σ

/-- Whether a field goes by a name. -/
def Field.answersTo (f : Field σ) (k : String) : Bool := f.name == k || f.aliases.contains k

/-- A field that must be there. -/
def required (name : String) (shape : Shape α) (set : σ → Option α → σ) : Field σ where
  name
  aliases := []
  needed := true
  store := fun d v => (shape v).map fun a => set d (some a)

/-- A field that may be absent. -/
def defaulted (name : String) (shape : Shape α) (set : σ → Option α → σ) : Field σ :=
  { required name shape set with needed := false }

/-- A kind of record: its name, its fields in order, whether other fields are refused, the
draft without any field, and the record a draft stands for. -/
structure RecordKind (σ α : Type) where
  title : String
  fields : List (Field σ)
  strict : Bool
  start : σ
  build : σ → Except ShapeError α

namespace RecordKind

/-- Stores the fields of an object one after the other; `seen` holds the names stored so far. -/
def storeFields (kind : RecordKind σ α) :
    σ → List String → List (String × Json) → Except ShapeError σ
  | d, _, [] => .ok d
  | d, seen, (k, v) :: rest =>
    match kind.fields.find? (·.answersTo k) with
    | some f =>
      if seen.contains f.name then .error (.duplicateField f.name)
      else do kind.storeFields (← f.store d v) (f.name :: seen) rest
    | none =>
      if kind.strict then .error (.unknownField k (kind.fields.map (·.name)))
      else kind.storeFields d seen rest

/-- The record and how many elements it has. -/
def described (kind : RecordKind σ α) : String :=
  let n := kind.fields.length
  "struct " ++ kind.title ++ " with " ++ toString n ++ (if n = 1 then " element" else " elements")

/-- Stores the elements of a list; `i` counts the fields so far. -/
def storeItems (kind : RecordKind σ α) (total : Nat) :
    σ → Nat → List (Field σ) → List Json → Except ShapeError σ
  | d, _, [], [] => .ok d
  | _, _, [], _ :: _ => .error (.wrongLength total "fewer elements in array")
  | d, i, f :: fields, [] =>
    if f.needed then .error (.wrongLength i kind.described)
    else kind.storeItems total d (i + 1) fields []
  | d, i, f :: fields, v :: items => do
    kind.storeItems total (← f.store d v) (i + 1) fields items

/-- A record, given by the names of its fields or as an array in their order. -/
def shape (kind : RecordKind σ α) : Shape α
  | obj fields => do kind.build (← kind.storeFields kind.start [] fields)
  | arr items => do
    kind.build (← kind.storeItems items.length kind.start 0 kind.fields items)
  | v => .error (.wrongType v ("struct " ++ kind.title))

end RecordKind

/-- The value of a field that every record has. -/
def present (name : String) : Option α → Except ShapeError α
  | some a => .ok a
  | none => .error (.missingField name)

end Shape

end Prosopography.Json
