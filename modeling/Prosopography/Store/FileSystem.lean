import Prosopography.Store.Path

/-!
# File systems

What a run needs of a file system. Each operation but the last can fail, and its
result says so; a file that is removed without being there is no failure.
-/

namespace Prosopography

/-- Why an operation on a file failed. -/
inductive FileError where
  | notFound
  /-- The path holds the character that ends paths, so that no system can be asked. -/
  | nulInPath
  | other (reason : String)
deriving Repr, DecidableEq

namespace FileError

/-- The system's words for what went wrong with a file. -/
def reason : FileError → String
  | notFound => "No such file or directory"
  | nulInPath => "file name contained an unexpected NUL byte"
  | other reason => reason

/-- Whether the operation was refused by the system, and not by its caller. -/
def fromSystem : FileError → Bool
  | nulInPath => false
  | _ => true

end FileError

/-- Refuses what is no path on any system. -/
def checkPath (path : Path) : Except FileError Unit :=
  if path.bytes.isEmpty then .error .notFound
  else if path.bytes.contains 0 then .error .nulInPath
  else .ok ()

/-- The text of a path, for a file system whose names are texts. -/
def textOfPath (path : Path) : Except FileError String := do
  checkPath path
  match path.text? with
  | some s => return s
  | none => throw (.other "Invalid or incomplete multibyte or wide character")

/-- The operations of a file system, as effects of any kind. -/
structure FileSystem (m : Type → Type) where
  read : Path → m (Except FileError ByteArray)
  /-- Makes a directory and those it lies in, as far as they are missing. -/
  makeDirs : Path → m (Except FileError Unit)
  /-- Writes a whole file in place of what was there. -/
  write : Path → String → m (Except FileError Unit)
  /-- Moves a file to another name in place of the file that was there. -/
  move : Path → Path → m (Except FileError Unit)
  remove : Path → m Unit

end Prosopography
