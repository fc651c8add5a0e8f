import Shuffle.Pull.Fault
import Shuffle.Pull.Registry

/-!
# Where task output is kept

```text
<local dir>/usercache/<user>/appcache/<app>/output/<stage>/<task>_<attempt>/output/
    <bucket>    one hash bucket
    output      sorted output
    index       the index of sorted output
```

A task writes below one of the local directories, chosen by its number. Readers look in all of
them, in order.
-/

namespace Shuffle

/-- The directories of a worker that hold task output. -/
structure Layout where
  localDirs : List Path
deriving DecidableEq, Repr

namespace Layout

/-- The file of sorted output. -/
def dataFile : Path := ⟨"output"⟩

/-- The index of sorted output. -/
def indexFile : Path := ⟨"index"⟩

/-- The directory of an attempt's output, below a local directory. -/
def taskDir (id : AppIdentity) (stage : UInt32) (attempt : TaskAttempt) : Path :=
  [⟨id.user⟩, ⟨"appcache"⟩, ⟨id.app⟩, ⟨"output"⟩, ⟨Decimal.numeral stage.toNat⟩,
    ⟨attempt.render⟩, ⟨"output"⟩].foldl Path.join ⟨"usercache"⟩

/-- A path below each local directory. -/
def candidates (layout : Layout) (relative : Path) : List Path :=
  layout.localDirs.map (·.join relative)

/-- The first local directory's path at which something is. -/
def find? (layout : Layout) (store : FileStore) (relative : Path) : Option Path :=
  (layout.candidates relative).find? store.holds

/-- The path of something that has to be there. -/
def find (layout : Layout) (store : FileStore) (relative : Path) : Except PullFault Path :=
  match layout.find? store relative with
  | some path => .ok path
  | none => .error (.missing (layout.candidates relative))

/-- The file of a hash bucket. -/
def hashFile (layout : Layout) (store : FileStore) (id : AppIdentity) (stage : UInt32)
    (attempt : TaskAttempt) (bucket : UInt32) : Except PullFault Path :=
  layout.find store ((taskDir id stage attempt).join ⟨Decimal.numeral bucket.toNat⟩)

/-- The directory of sorted output: the first one whose data file is there. -/
def rangeDir (layout : Layout) (store : FileStore) (id : AppIdentity) (stage : UInt32)
    (attempt : TaskAttempt) : Except PullFault Path :=
  let dir := taskDir id stage attempt
  let relative := dir.join dataFile
  match layout.localDirs.find? fun d => store.holds (d.join relative) with
  | some d => .ok (d.join dir)
  | none => .error (.missing (layout.candidates relative))

/-- The directory into which an attempt writes. -/
def outputDir (layout : Layout) (id : AppIdentity) (stage : UInt32) (attempt : TaskAttempt) :
    Except PullFault Path :=
  match layout.localDirs[attempt.task.toNat % layout.localDirs.length]? with
  | some d => .ok (d.join (taskDir id stage attempt))
  | none => .error .noLocalDirs

end Layout

end Shuffle
