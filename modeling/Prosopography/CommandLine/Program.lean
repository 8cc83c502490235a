import Prosopography.CommandLine.Options
import Prosopography.Store.Save

/-!
# The program

A run reads the settings file, checks the settings, loads both tables, resolves
them and saves the results. The first of these that fails ends it; the message
says what was being done, and then what caused the failure. A run whose persons
cannot be numbered is given up without one.
-/

namespace Prosopography

/-- What has failed. -/
inductive Failure where
  | settingsFile (path : Path) (reason : String)
  | settings (e : Settings.Error)
  | input (e : InputError)
  | output (dir : Path) (e : OutputError)

namespace Failure

/-- What was being done. -/
def context : Failure → String
  | settingsFile .. => "Failed to load configuration"
  | settings _ => "Invalid resolver configuration"
  | input _ => "Failed to load input tables"
  | output dir _ => "Failed to write outputs to " ++ dir.shown

/-- The causes, each the cause of the one before. -/
def causes : Failure → List String
  | settingsFile path reason => [(RunError.settingsFile path reason).message]
  | settings e => [(RunError.settings e).message, e.message]
  | input e => e.chain
  | output _ e => [e.message, e.cause]

/-- A message whose lines after the first are indented. -/
def hanging (indent : Nat) (s : String) : String :=
  String.intercalate ("\n" ++ String.ofList (List.replicate indent ' ')) (s.splitOn "\n")

/-- The causes as lines; several of them are numbered. -/
def causeLines (causes : List String) : List String :=
  match causes with
  | [cause] => ["    " ++ hanging 4 cause]
  | causes => causes.zipIdx.map fun (cause, i) =>
      let number := toString i
      String.ofList (List.replicate (5 - number.length) ' ') ++ number ++ ": " ++ hanging 7 cause

/-- The whole message. -/
def text (f : Failure) : String :=
  "Error: " ++ f.context ++ "\n\nCaused by:\n" ++
    String.join ((causeLines f.causes).map (· ++ "\n"))

end Failure

/-- How a call of the program ends. -/
inductive Exit where
  | noRun (why : NoRun)
  | failed (f : Failure)
  /-- There are no identifiers of the width asked for. -/
  | givenUp
  | finished

namespace Exit

/-- The exit code. -/
def status : Exit → Nat
  | noRun .misuse => 2
  | noRun .information => 0
  | failed _ => 1
  | givenUp => 101
  | finished => 0

end Exit

namespace FileSystem

variable {m : Type → Type} [Monad m]

/-- The settings in what was read from a path. -/
def settingsOfRead (path : Path) : Except FileError ByteArray → Except Failure FileSettings
  | .error e => .error (.settingsFile path ("failed to read config file: " ++ e.reason))
  | .ok bytes =>
    match (String.fromUTF8? bytes).bind FileSettings.ofToml? with
    | some s => .ok s
    | none => .error (.settingsFile path "not a settings file")

/-- The settings of a run: those of its file, or the standard ones, with the overrides. -/
def loadSettings (fs : FileSystem m) (o : Options) : m (Except Failure FileSettings) := do
  match o.config with
  | none => return .ok (FileSettings.standard.override o.overrides)
  | some path => return (settingsOfRead path (← fs.read path)).map (·.override o.overrides)

/-- Loads, resolves and saves. -/
def runWith (fs : FileSystem m) (s : FileSettings) : m Exit := do
  match s.resolver.validate with
  | .error e => return .failed (.settings e)
  | .ok settings =>
    match ← fs.loadInputs s.paths with
    | .error e => return .failed (.input e)
    | .ok inputs =>
      match Resolution.run? settings inputs.mentions.rows.table inputs.trials.rows.table with
      | none => return .givenUp
      | some r =>
        match ← fs.saveRun s.paths.output r inputs settings with
        | .error e => return .failed (.output s.paths.output e)
        | .ok _ => return .finished

/-- A call of the program with its arguments and its environment. -/
def runProgram (fs : FileSystem m) (args : List String) (env : List (String × String)) :
    m Exit := do
  match Options.ofCommandLine args env with
  | .error why => return .noRun why
  | .ok o =>
    match ← fs.loadSettings o with
    | .error f => return .failed f
    | .ok s => fs.runWith s

end FileSystem

end Prosopography
