/-!
# TOML values

The fields of a table have distinct keys and keep the order in which they were
given. Whole numbers have 64 bits with a sign; dates and times are kept as text.
-/

namespace Prosopography

/-- A value of a file of settings. -/
inductive Toml where
  | str (s : String)
  | int (n : Int)
  | float (x : Float)
  | bool (b : Bool)
  | moment (text : String)
  | arr (items : List Toml)
  | table (fields : List (String × Toml))

namespace Toml

instance : Inhabited Toml := ⟨table []⟩

/-- A reader takes characters from the front and gives back the others. -/
abbrev Reader (α : Type) := List Char → Option (α × List Char)

end Toml

end Prosopography
