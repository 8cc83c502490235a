/-!
# JSON values

The fields of an object keep the order in which they were given. Whole numbers
of 64 bits, signed or unsigned, are kept exactly; every other number is a double.
-/

namespace Prosopography

/-- A JSON value. -/
inductive Json where
  | null
  | bool (b : Bool)
  | int (n : Int)
  | float (x : Float)
  | str (s : String)
  | arr (items : List Json)
  | obj (fields : List (String × Json))

namespace Json

instance : Inhabited Json := ⟨null⟩

instance : Coe String Json := ⟨str⟩

instance : Coe Bool Json := ⟨bool⟩

/-- A natural number as a value. -/
def ofNat (n : Nat) : Json := int n

/-- An absent value is written as null. -/
def ofOption {α : Type} (f : α → Json) : Option α → Json
  | none => null
  | some a => f a

/-- Texts as an array. -/
def strs (l : List String) : Json := arr (l.map str)

/-- The value of a field. -/
def field? (k : String) : Json → Option Json
  | obj fields => (fields.find? (·.1 == k)).map (·.2)
  | _ => none

end Json

end Prosopography
