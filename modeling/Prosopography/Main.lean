import Prosopography.CommandLine.Program

/-!
# The command line

The program with the real file system, its arguments and its environment.
-/

namespace Prosopography

/-- The result of an action on the file of a path, or why it failed. -/
def attempt {α : Type} (path : Path) (action : String → IO α) : IO (Except FileError α) := do
  match textOfPath path with
  | .error e => return .error e
  | .ok s =>
    try
      return .ok (← action s)
    catch
      | .noFileOrDirectory .. => return .error .notFound
      | e => return .error (.other (toString e))

/-- The files of the system. -/
def realFiles : FileSystem IO where
  read path := attempt path fun s => IO.FS.readBinFile s
  makeDirs path :=
    if path.bytes.isEmpty then return .ok () else attempt path fun s => IO.FS.createDirAll s
  write path text := attempt path fun s => IO.FS.writeFile s text
  move source target :=
    match textOfPath target with
    | .error e => return .error e
    | .ok t => attempt source fun s => IO.FS.rename s t
  remove path := do
    let _ ← attempt path fun s => IO.FS.removeFile s

/-- The variables that stand in for options, as far as they are set. -/
def readEnvironment : IO (List (String × String)) :=
  OptionName.all.filterMapM fun name => do
    return (← IO.getEnv name.environmentName).map fun v => (name.environmentName, v)

/-- One line for each option. -/
def usageText : String :=
  "Options:\n  --no-surname-attach\n  -h, --help\n  -V, --version\n" ++
    String.join (OptionName.all.map fun name => "  --" ++ name.long ++ " <value>\n")

end Prosopography

open Prosopography in
def main (args : List String) : IO UInt32 := do
  let exit ← realFiles.runProgram args (← readEnvironment)
  match exit with
  | .noRun .misuse => IO.eprint usageText
  | .noRun .information => IO.print usageText
  | .failed f => IO.eprint f.text
  | .givenUp =>
    IO.eprint ("No identifier is padded to more than " ++ toString PersonId.maxWidth ++ " digits\n")
  | .finished => pure ()
  return exit.status.toUInt32
