import Prosopography.Store.Artifact

/-!
# Saving artifacts

Every artifact is rendered before the first is written, and first written under a
temporary name. Only when all of them are there are they moved to their own names, in
order, so that a run that fails while writing changes no earlier result. After a
failure no temporary file is left.
-/

namespace Prosopography

namespace Artifact

/-- Where an artifact belongs. -/
def path (dir : Path) (a : Artifact) : Path := dir.child a.name

/-- Where an artifact lies until all are there. -/
def temporaryPath (dir : Path) (a : Artifact) : Path := dir.child ("." ++ a.name ++ ".tmp")

end Artifact

namespace FileSystem

variable {m : Type → Type} [Monad m]

/-- Removes files, one after the other. -/
def removeAll (fs : FileSystem m) : List Path → m Unit
  | [] => pure ()
  | path :: rest => do
    fs.remove path
    fs.removeAll rest

/-- Writes the artifacts under their temporary names; `staged` holds those written so far. -/
def stage (fs : FileSystem m) (dir : Path) :
    List Artifact → List Artifact → m (Except OutputError Unit)
  | _, [] => return .ok ()
  | staged, a :: rest => do
    match ← fs.write (a.temporaryPath dir) a.text with
    | .ok _ => fs.stage dir (staged ++ [a]) rest
    | .error e =>
      fs.removeAll ((staged ++ [a]).map (·.temporaryPath dir))
      return .error (.unwritable (a.temporaryPath dir) e)

/-- Moves the artifacts to their own names; those that are not reached are removed. -/
def publish (fs : FileSystem m) (dir : Path) : List Artifact → m (Except OutputError Unit)
  | [] => return .ok ()
  | a :: rest => do
    match ← fs.move (a.temporaryPath dir) (a.path dir) with
    | .ok _ => fs.publish dir rest
    | .error e =>
      fs.removeAll ((a :: rest).map (·.temporaryPath dir))
      return .error (.unwritable (a.path dir) e)

/-- Writes all artifacts or says what failed; the result holds their paths. -/
def save (fs : FileSystem m) (dir : Path) (artifacts : List Artifact) :
    m (Except OutputError (List Path)) := do
  match ← fs.makeDirs dir with
  | .error e => return .error (.unwritable dir e)
  | .ok _ =>
    match ← fs.stage dir [] artifacts with
    | .error e => return .error e
    | .ok _ =>
      match ← fs.publish dir artifacts with
      | .error e => return .error e
      | .ok _ => return .ok (artifacts.map (·.path dir))

/-- Saves the results of a run, once all of them are rendered. -/
def saveRun (fs : FileSystem m) (dir : Path) (r : Resolution) (i : Inputs) (s : Settings) :
    m (Except OutputError (List Path)) := do
  match r.render i s with
  | .error e => return .error e
  | .ok artifacts => fs.save dir artifacts

end FileSystem

end Prosopography
