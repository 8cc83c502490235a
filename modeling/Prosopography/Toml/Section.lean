import Prosopography.Toml.Basic

/-!
# Tables built from keys and headers

A table is opened by a header of its own, in passing by the header of a table
inside it, or by a dotted key. A header may still claim a table opened in
passing; dotted keys may go on in tables that dotted keys opened. Nothing else is
given twice.
-/

namespace Prosopography.Toml

/-- A dotted key: the keys of the tables on the way, and the last one. -/
structure Key where
  path : List String
  last : String
deriving Repr, DecidableEq

/-- What opened a table. -/
inductive Origin where
  | header
  | passing
  | dotted
deriving Repr, DecidableEq

/-- What a key holds while a document is being read. -/
inductive Item where
  | value (v : Toml)
  | table (origin : Origin) (fields : List (String × Item))
  /-- An array of tables, of which only the last can still grow. -/
  | tables (done : List (List (String × Item))) (last : List (String × Item))

/-- The entries of a table that is still open, by their keys. -/
abbrev Fields := List (String × Item)

namespace Fields

/-- Changes what a key holds. A key that holds nothing comes last. -/
def alter (k : String) (f : Option Item → Option Item) : Fields → Option Fields
  | [] => (f none).map fun item => [(k, item)]
  | (k', item) :: rest =>
    if k' = k then (f (some item)).map fun item => (k, item) :: rest
    else (alter k f rest).map ((k', item) :: ·)

/-- Stores a value under a dotted key that holds nothing yet. -/
def store (last : String) (v : Toml) : List String → Fields → Option Fields
  | [], fields => fields.alter last fun
    | none => some (.value v)
    | some _ => none
  | k :: path, fields => fields.alter k fun
    | none => (store last v path []).map (.table .dotted)
    | some (.value _) => none
    | some (.table .header _) => none
    | some (.table .passing fields) =>
      if path.isEmpty then none else (store last v path fields).map (.table .passing)
    | some (.table .dotted fields) => (store last v path fields).map (.table .dotted)
    | some (.tables done fields) =>
      if path.isEmpty then none else (store last v path fields).map (.tables done)

/-- Changes what the key of a header holds. -/
def alterAt (last : String) (f : Option Item → Option Item) : List String → Fields → Option Fields
  | [], fields => fields.alter last f
  | k :: path, fields => fields.alter k fun
    | none => (alterAt last f path []).map (.table .passing)
    | some (.value _) => none
    | some (.table origin fields) => (alterAt last f path fields).map (.table origin)
    | some (.tables done fields) => (alterAt last f path fields).map (.tables done)

/-- Stores values one after the other. -/
def storeAll (pairs : List (Key × Toml)) (fields : Fields) : Option Fields :=
  pairs.foldlM (fun fields (k, v) => fields.store k.last v k.path) fields

end Fields

mutual

/-- The finished value of an open entry. -/
def Item.close : Item → Toml
  | .value v => v
  | .table _ fields => .table (closeFields fields)
  | .tables done last => .arr (closeTables done ++ [.table (closeFields last)])

/-- The finished entries of an open table. -/
def closeFields : List (String × Item) → List (String × Toml)
  | [] => []
  | (k, item) :: rest => (k, item.close) :: closeFields rest

/-- The finished tables of an open array. -/
def closeTables : List (List (String × Item)) → List Toml
  | [] => []
  | fields :: rest => .table (closeFields fields) :: closeTables rest

end

/-- The table of some keys with their values. -/
def ofPairs? (pairs : List (Key × Toml)) : Option Toml :=
  (Fields.storeAll pairs []).map fun fields => .table (closeFields fields)

/-- A header with the pairs below it. -/
structure Section where
  key : Key
  /-- Whether the header adds a table to an array. -/
  isElement : Bool
  pairs : List (Key × Toml)

/-- What the key of a section holds after it, given what it held before. -/
def Section.fill (s : Section) : Option Item → Option Item
  | none =>
    (Fields.storeAll s.pairs []).map (if s.isElement then .tables [] else .table .header)
  | some (.table .passing fields) =>
    if s.isElement then none else (Fields.storeAll s.pairs fields).map (.table .header)
  | some (.tables done last) =>
    if s.isElement then (Fields.storeAll s.pairs []).map (.tables (done ++ [last])) else none
  | some _ => none

/-- The table of a document: pairs before the first header, then sections. -/
def ofSections? (pairs : List (Key × Toml)) (sections : List Section) : Option Toml := do
  let fields ← Fields.storeAll pairs []
  let fields ← sections.foldlM
    (fun fields s => Fields.alterAt s.key.last s.fill s.key.path fields) fields
  return .table (closeFields fields)

end Prosopography.Toml
