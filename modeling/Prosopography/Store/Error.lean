import Prosopography.Csv.Printer
import Prosopography.Json.ReadError
import Prosopography.Settings.Basic
import Prosopography.Store.FileSystem
import Prosopography.Store.Tables

/-!
# What can stop a run

A run stops when its settings are out of range, when a table cannot be loaded or
when the results cannot be saved. Each error has one message; an error that rests
on another has that one as its cause.
-/

namespace Prosopography

/-- Why a table could not be loaded from a path. -/
inductive InputError where
  | missing (path : Path)
  /-- The path may lead to a file, but it cannot be read. -/
  | unreadable (path : Path) (e : FileError)
  | notJson (path : Path) (e : Json.ReadError)
  | layout (path : Path) (e : LayoutError)
deriving Repr, DecidableEq

/-- The message about a table that could not be loaded. -/
def InputError.message : InputError → String
  | missing path => "Required input file is missing: " ++ path.shown
  | unreadable path e => "Failed to read " ++ path.shown ++ ": " ++ e.reason
  | notJson path e => "Failed to parse " ++ path.shown ++ ": " ++ e.message
  | layout path e => "Unsupported layout in " ++ path.shown ++ ": " ++ e.message

/-- The message and those of its causes. -/
def InputError.chain : InputError → List String
  | missing path => [(missing path).message]
  | unreadable path e => [(unreadable path e).message, e.reason]
  | notJson path e => [(notJson path e).message, e.message]
  | layout path e => [(layout path e).message]

/-- Why the results of a run could not be saved. -/
inductive OutputError where
  /-- A file or directory that could not be written. -/
  | unwritable (path : Path) (e : FileError)
  /-- An artifact whose value cannot be written as JSON. -/
  | notJson (artifact : String) (e : Json.WriteError)
  /-- An artifact whose rows make no table. -/
  | notTable (artifact : String) (e : Csv.WriteError)
deriving Repr, DecidableEq

namespace OutputError

/-- What was wrong, apart from where. -/
def cause : OutputError → String
  | unwritable _ e => e.reason
  | notJson _ e => e.message
  | notTable _ e => e.message

/-- The message about results that could not be saved. -/
def message : OutputError → String
  | unwritable path e => "Failed to write " ++ path.shown ++ ": " ++ e.reason
  | notJson artifact e => "Failed to serialize " ++ artifact ++ ": " ++ e.message
  | notTable artifact e => "Failed to encode " ++ artifact ++ " as CSV: " ++ e.message

end OutputError

/-- Why a run has stopped. -/
inductive RunError where
  | settings (e : Settings.Error)
  | input (e : InputError)
  | output (e : OutputError)
  /-- A settings file that cannot be read or is not one. -/
  | settingsFile (path : Path) (reason : String)

namespace RunError

/-- What has ended the run, after the name of the stage in which it happened. -/
def message : RunError → String
  | settings e => "Validation error: " ++ e.message
  | input e => "Input error: " ++ e.message
  | output e => "Output error: " ++ e.message
  | settingsFile path reason => "Configuration error in " ++ path.shown ++ ": " ++ reason

/-- Whether the settings are at fault. -/
def isSettings : RunError → Bool
  | settings _ => true
  | _ => false

/-- Whether the input is at fault. -/
def isInput : RunError → Bool
  | input _ => true
  | _ => false

/-- Whether the output is at fault. -/
def isOutput : RunError → Bool
  | output _ => true
  | _ => false

/-- Whether a required file was not there. -/
def isMissingInput : RunError → Bool
  | input (.missing _) => true
  | _ => false

end RunError

end Prosopography
