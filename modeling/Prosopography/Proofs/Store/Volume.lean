import Prosopography.Store.FileSystem
import Mathlib.Logic.Function.Basic

/-!
# Volumes that may fail

A volume maps paths to the contents of files. Making a directory, writing and moving a file
may each fail at any call, for any reason; a write that fails may have put anything in place
of its file. Only removing a file succeeds always. The calls that may fail are recorded.
-/

namespace Prosopography

/-- What befalls a call. -/
structure Fault where
  error : FileError
  /-- What a failing write leaves in place of its file, if it has opened it. -/
  left : Option ByteArray

/-- A call that may fail. -/
inductive Operation where
  | makeDirs (dir : Path)
  | write (path : Path)
  | move (source target : Path)
deriving Repr, DecidableEq

/-- Files in memory, whose calls can fail as they do on a disk. -/
structure Volume where
  contents : Path → Option ByteArray
  /-- The calls so far, in order, each with whether it has succeeded. -/
  calls : List (Operation × Bool)
  /-- What befalls the calls to come; none fails beyond the end. -/
  faults : List (Option Fault)

namespace Volume

/-- A volume on which nothing has been called. -/
def fresh (contents : Path → Option ByteArray) (faults : List (Option Fault)) : Volume where
  contents
  calls := []
  faults

/-- The volume after a call. -/
def called (v : Volume) (op : Operation) (ok : Bool) (contents : Path → Option ByteArray) :
    Volume where
  contents
  calls := v.calls ++ [(op, ok)]
  faults := v.faults.tail

/-- A call that either has its effect or meets with a fault. -/
def attempt (v : Volume) (op : Operation) (effect : Except FileError (Path → Option ByteArray))
    (broken : Fault → Path → Option ByteArray) : Except FileError Unit × Volume :=
  match v.faults.head?.join, effect with
  | some f, _ => (.error f.error, v.called op false (broken f))
  | none, .error e => (.error e, v.called op false v.contents)
  | none, .ok contents => (.ok (), v.called op true contents)

/-- What a write leaves that meets with a fault. -/
def afterFault (v : Volume) (path : Path) (f : Fault) : Path → Option ByteArray :=
  match f.left with
  | some bytes => Function.update v.contents path (some bytes)
  | none => v.contents

/-- The effect of moving a file, which must be there. -/
def moved (v : Volume) (source target : Path) : Except FileError (Path → Option ByteArray) :=
  match v.contents source with
  | some bytes => .ok (Function.update (Function.update v.contents source none) target (some bytes))
  | none => .error .notFound

/-- The calls of a run as steps on a volume. -/
def fileSystem : FileSystem (StateM Volume) where
  read path := fun v => (match v.contents path with
    | some bytes => .ok bytes
    | none => .error .notFound, v)
  makeDirs dir := fun v => v.attempt (.makeDirs dir) (.ok v.contents) fun _ => v.contents
  write path text := fun v =>
    v.attempt (.write path) (.ok (Function.update v.contents path (some text.toUTF8)))
      (v.afterFault path)
  move source target := fun v =>
    v.attempt (.move source target) (v.moved source target) fun _ => v.contents
  remove path := fun v => ((), { v with contents := Function.update v.contents path none })

section Cases

variable (v : Volume)

end Cases

end Volume

end Prosopography
