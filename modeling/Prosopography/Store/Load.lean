import Prosopography.Digest.Blake3
import Prosopography.Json.Reader
import Prosopography.Settings.File
import Prosopography.Store.Error
import Prosopography.Store.FileSystem

/-!
# Loading tables

A table is loaded from a file of JSON text. The hash of the file's bytes is kept
with it, so that a run can say what it has read.
-/

namespace Prosopography

open Json

/-- Which file a table was loaded from. -/
structure Source where
  path : Path
  digest : String
deriving Repr, DecidableEq

/-- What a run says of a file it has read, unless the file's path is no text. -/
def Source.toJson (s : Source) : Except WriteError Json := do
  return obj [("path", ← s.path.toJson), ("blake3", str s.digest)]

/-- What was read from a file. -/
structure Loaded (τ ε : Type) where
  rows : Rows τ ε
  source : Source

/-- Both tables of a run. -/
structure Inputs where
  mentions : Loaded MentionTable Mention.Malformed
  trials : Loaded TrialTable Trial.Malformed

namespace Loaded

variable {τ ε : Type}

/-- The table in the bytes of a file. -/
def ofBytes (readTable : Json → Except LayoutError (Rows τ ε)) (path : Path)
    (bytes : ByteArray) : Except InputError (Loaded τ ε) := do
  let v ← (Json.ofBytes bytes).mapError (.notJson path)
  let rows ← (readTable v).mapError (.layout path)
  return ⟨rows, path, Blake3.hex (Blake3.hash bytes.toList)⟩

/-- The table in what was read from a path. -/
def ofRead (readTable : Json → Except LayoutError (Rows τ ε)) (path : Path) :
    Except FileError ByteArray → Except InputError (Loaded τ ε)
  | .ok bytes => ofBytes readTable path bytes
  | .error .notFound => .error (.missing path)
  | .error e => .error (.unreadable path e)

end Loaded

namespace FileSystem

variable {m : Type → Type} [Monad m]

/-- Reads the table of mentions from a file. -/
def loadMentions (fs : FileSystem m) (path : Path) :
    m (Except InputError (Loaded MentionTable Mention.Malformed)) := do
  return Loaded.ofRead readMentions path (← fs.read path)

/-- Reads the table of trials from a file. -/
def loadTrials (fs : FileSystem m) (path : Path) :
    m (Except InputError (Loaded TrialTable Trial.Malformed)) := do
  return Loaded.ofRead readTrials path (← fs.read path)

/-- Loads the mentions and then the trials; the first failure ends it. -/
def loadInputs (fs : FileSystem m) (paths : Paths) : m (Except InputError Inputs) := do
  match ← fs.loadMentions paths.entities with
  | .error e => return .error e
  | .ok mentions =>
    match ← fs.loadTrials paths.trials with
    | .error e => return .error e
    | .ok trials => return .ok ⟨mentions, trials⟩

end FileSystem

end Prosopography
