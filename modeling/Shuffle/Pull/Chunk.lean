import Shuffle.Index.Lookup
import Shuffle.Pull.Layout

/-!
# From requests to slices of files

A request names attempts; `resolve` finds for each the slice of a file that holds what is asked
for. Slices without octets are left out.

- `wholeFile` is the slice of a hash bucket.
- `rangeChunk` is the slice between two keys of sorted output, found through the index by `sliceOf`.
-/

namespace Shuffle

/-- A slice of a file. -/
structure FileChunk where
  path : Path
  offset : UInt64
  length : UInt64
deriving DecidableEq, Repr

namespace FileChunk

/-- A slice, unless it has no octets. -/
def make? (path : Path) (offset length : UInt64) : Option FileChunk :=
  if length = 0 then none else some ⟨path, offset, length⟩

/-- The length of a file that has to be there. -/
def fileLength (store : FileStore) (path : Path) : Except PullFault UInt64 :=
  match store.length path with
  | .ok n => .ok (UInt64.ofNat n)
  | .error fault => .error (.ofFile path fault)

/-- A file as one slice. -/
def wholeFile (store : FileStore) (path : Path) : Except PullFault (Option FileChunk) :=
  (fileLength store path).map (make? path 0)

/-- The index of a directory with sorted output. -/
def openIndex (store : FileStore) (path : Path) : Except PullFault Index :=
  match store.read path with
  | .error fault => .error (.ofFile path fault)
  | .ok bytes => (Index.ofFile bytes).mapError .index

/-- The two keys of a range request, the one that is read first in front. -/
def readKeys (schema : KeySchema) (start stop : Bytes) : Except PullFault (Tuple × Tuple) := do
  let low ← (schema.decode start).mapError PullFault.key
  let high ← (schema.decode stop).mapError PullFault.key
  return if schema.ascendsFirst then (low, high) else (high, low)

/-- The slice between the rows of two keys, the last one excluded unless the range is final. -/
def sliceBetween (index : Index) (data : Path) (length : UInt64) (first last : Tuple)
    (final : Bool) : Except PullFault (Option FileChunk) :=
  match index.lookup? first with
  | none => .error (.noOffset data)
  | some start =>
    -- Behind the last key of the index all rows follow up to the end of the file.
    let stop := if final then length else (index.lookup? last).getD length
    if length < start ∨ length < stop ∨ stop < start then .error (.outside start stop length data)
    else .ok (make? data start (stop - start))

/-- The slice of sorted output that a range request asks for. There is none if the keys lie on one
side of all keys of the index. -/
def sliceOf (index : Index) (data : Path) (length : UInt64) (start stop : Bytes) (final : Bool) :
    Except PullFault (Option FileChunk) := do
  let (first, last) ← readKeys index.schema start stop
  match index.firstKey?, index.lastKey? with
  | some lowest, some highest =>
    if index.schema.compare first last = .gt then .error (.order first last)
    -- No row lies between the keys when all keys of the index are on one side.
    else if index.schema.compare last lowest = .lt ∨ index.schema.compare highest first = .lt then
      return none
    else sliceBetween index data length first last final
  -- An index without entries has no rows to give.
  | _, _ => return none

/-- The slice that a range request asks for in a directory. -/
def rangeChunk (store : FileStore) (dir : Path) (start stop : Bytes) (final : Bool) :
    Except PullFault (Option FileChunk) := do
  let data := dir.join Layout.dataFile
  let length ← fileLength store data
  let index ← openIndex store (dir.join Layout.indexFile)
  sliceOf index data length start stop final

/-- The slice of one attempt. -/
def ofAttempt (layout : Layout) (store : FileStore) (id : AppIdentity) (request : FetchRequest)
    (attempt : TaskAttempt) : Except PullFault (Option FileChunk) :=
  match request.kind with
  | .hash => do
    wholeFile store (← layout.hashFile store id request.stage attempt request.partition)
  | .range start stop final => do
    rangeChunk store (← layout.rangeDir store id request.stage attempt) start stop final

/-- The slices of a request, attempt after attempt. The first fault decides. -/
def resolve (layout : Layout) (store : FileStore) (id : AppIdentity) (request : FetchRequest) :
    Except PullFault (List FileChunk) := do
  return (← request.attempts.mapM (ofAttempt layout store id request)).filterMap fun c => c

/-- The length of all slices together, in 64 bits. -/
def total (chunks : List FileChunk) : UInt64 := (chunks.map (·.length)).foldl (· + ·) 0

end FileChunk

end Shuffle
