import Prosopography.Json.Basic
import Prosopography.Text.Utf8

/-!
# Paths

A path is made of bytes, as systems have it. Most paths are texts; one that is none
leads to files as well, but it cannot be put into a JSON text.
-/

namespace Prosopography

/-- The way to a file or directory. -/
structure Path where
  bytes : List UInt8
deriving Repr, DecidableEq

/-- Why a value cannot be written as JSON. -/
inductive Json.WriteError where
  | pathNotText
deriving Repr, DecidableEq

/-- The message about a value that cannot be written. -/
def Json.WriteError.message : Json.WriteError → String
  | pathNotText => "path contains invalid UTF-8 characters"

namespace Path

/-- The path that a text spells. -/
def ofText (s : String) : Path := ⟨Text.bytes s⟩

/-- The text that a path is, if it is one. -/
def text? (p : Path) : Option String := Text.ofBytes? p.bytes

/-- A path in a message. -/
def shown (p : Path) : String := Text.mended p.bytes

/-- A path as the text it has to be. -/
def toJson (p : Path) : Except Json.WriteError Json :=
  match p.text? with
  | some s => .ok (.str s)
  | none => .error .pathNotText

/-- The path of a name in a directory. -/
def child (dir : Path) (name : String) : Path :=
  if dir.bytes.isEmpty || dir.bytes.getLast? == some 0x2F then ⟨dir.bytes ++ Text.bytes name⟩
  else ⟨dir.bytes ++ 0x2F :: Text.bytes name⟩

end Path

end Prosopography
