import Prosopography.Store.FileSystem

/-!
# Disks held in memory

A disk is a file system as a value. Its files and directories lie at locations,
which are lists of names from the root; paths that are texts lead to locations from
the root or from the working directory, name by name.
-/

namespace Prosopography

/-- What lies at a location. -/
inductive Entry where
  | file (bytes : ByteArray)
  | directory

/-- The names that lead to an entry, from the root. -/
abbrev Location := List String

/-- Files and directories, and where paths start that do not start at the root. -/
structure Disk where
  entries : List (Location × Entry)
  /-- The working directory. -/
  home : Location

namespace Disk

/-- A disk with nothing but an empty working directory, whose name no path can give. -/
def empty : Disk := ⟨[([""], .directory)], [""]⟩

/-- What lies at a location; the root is a directory. -/
def entry? (d : Disk) (l : Location) : Option Entry :=
  if l.isEmpty then some .directory else (d.entries.find? (·.1 == l)).map (·.2)

/-- The disk with an entry in place of what lay at its location. -/
def put (d : Disk) (l : Location) (e : Entry) : Disk :=
  { d with entries := d.entries.filter (·.1 != l) ++ [(l, e)] }

/-- The disk with nothing at a location. -/
def erase (d : Disk) (l : Location) : Disk := { d with entries := d.entries.filter (·.1 != l) }

/-- The names in a path. -/
def names (path : String) : List String := (path.splitOn "/").filter (!·.isEmpty)

/-- Where a path starts. -/
def start (d : Disk) (path : String) : Location := if path.startsWith "/" then [] else d.home

/-- No name is longer, in bytes. -/
def maxName : Nat := 255

/-- Where some names lead. All but the last are names of directories that are there. -/
def walk (d : Disk) : Location → List String → Except FileError Location
  | l, [] => .ok l
  | l, name :: rest =>
    match d.entry? l with
    | none => .error .notFound
    | some (.file _) => .error (.other "Not a directory")
    | some .directory =>
      if name = "." then d.walk l rest
      else if name = ".." then d.walk l.dropLast rest
      else if maxName < name.utf8ByteSize then .error (.other "File name too long")
      else d.walk (l ++ [name]) rest

/-- No path is longer, in bytes. -/
def maxPath : Nat := 4095

/-- The text of a path, unless it is none or too long. -/
def checkedText (path : Path) : Except FileError String := do
  let s ← textOfPath path
  if maxPath < s.utf8ByteSize then throw (.other "File name too long")
  return s

/-- Where a path leads. A slash at the end asks for a directory. -/
def locate (d : Disk) (path : Path) : Except FileError Location := do
  let s ← checkedText path
  d.walk (d.start s) (names s ++ (if s.endsWith "/" then ["."] else []))

/-- The bytes of the file that a path leads to. -/
def read (d : Disk) (path : Path) : Except FileError ByteArray := do
  match d.entry? (← d.locate path) with
  | none => .error .notFound
  | some .directory => .error (.other "Is a directory")
  | some (.file bytes) => return bytes

/-- The disk with a file of some text where a path leads. -/
def write (d : Disk) (path : Path) (text : String) : Except FileError Disk := do
  let l ← d.locate path
  match d.entry? l with
  | some .directory => .error (.other "Is a directory")
  | _ => return d.put l (.file text.toUTF8)

/-- The disk with an entry moved to where another path leads. -/
def move (d : Disk) (source target : Path) : Except FileError Disk := do
  let l ← d.locate source
  let l' ← d.locate target
  match d.entry? l, d.entry? l' with
  | none, _ => .error .notFound
  | some _, some .directory => .error (.other "Is a directory")
  | some e, _ => return (d.erase l).put l' e

/-- The disk without the file that a path leads to; a directory stays. -/
def remove (d : Disk) (path : Path) : Disk :=
  match d.locate path with
  | .error _ => d
  | .ok l =>
    match d.entry? l with
    | some (.file _) => d.erase l
    | _ => d

/-- Makes one directory, unless it is there. -/
def makeDir (d : Disk) (base : Location) (path : List String) : Except FileError Disk := do
  let l ← d.walk base path
  match d.entry? l with
  | some .directory => return d
  | some (.file _) => .error (.other "File exists")
  | none => return d.put l .directory

/-- Makes a directory, and those it lies in where they are missing; the names come last first. -/
def makeParents (base : Location) : List String → Disk → Except FileError Unit × Disk
  | [], d => (.ok (), d)
  | name :: up, d =>
    match d.makeDir base (name :: up).reverse with
    | .ok d => (.ok (), d)
    | .error .notFound =>
      match makeParents base up d with
      | (.error e, d) => (.error e, d)
      | (.ok _, d) =>
        match d.makeDir base (name :: up).reverse with
        | .ok d => (.ok (), d)
        | .error e => (.error e, d)
    | .error e => (.error e, d)

/-- Makes the directory of a path. The empty path asks for none. -/
def makeDirs (path : Path) (d : Disk) : Except FileError Unit × Disk :=
  if path.bytes.isEmpty then (.ok (), d)
  else
    match checkedText path with
    | .error e => (.error e, d)
    | .ok s =>
      let base := d.start s
      let all := names s
      match d.makeDir base all with
      | .ok d => (.ok (), d)
      | .error .notFound =>
        match makeParents base ((all.filter (· != ".")).dropLast.reverse) d with
        | (.error e, d) => (.error e, d)
        | (.ok _, d) =>
          match d.makeDir base all with
          | .ok d => (.ok (), d)
          | .error e => (.error e, d)
      | .error e => (.error e, d)

/-- Keeps the disk as it was when an operation fails. -/
def orSame (d : Disk) : Except FileError Disk → Except FileError Unit × Disk
  | .ok d => (.ok (), d)
  | .error e => (.error e, d)

/-- The operations on a disk, as they change it. -/
def fileSystem : FileSystem (StateM Disk) where
  read path := fun d => (d.read path, d)
  makeDirs path := fun d => makeDirs path d
  write path text := fun d => d.orSame (d.write path text)
  move source target := fun d => d.orSame (d.move source target)
  remove path := fun d => ((), d.remove path)

/-- A disk with one more file, and the directories it lies in. -/
def withFile (d : Disk) (path : String) (bytes : ByteArray) : Disk :=
  let all := names path
  let (_, d) := makeParents d.home all.dropLast.reverse d
  d.put (d.home ++ all) (.file bytes)

/-- The files in the working directory and below, with their paths from there. -/
def files (d : Disk) : List (String × ByteArray) :=
  d.entries.filterMap fun (l, e) =>
    match e with
    | .directory => none
    | .file bytes =>
      if d.home.isPrefixOf l then
        some (String.intercalate "/" (l.drop d.home.length), bytes)
      else none

end Disk

end Prosopography
