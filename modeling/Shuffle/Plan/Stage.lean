import Shuffle.Plan.Split
import Shuffle.Plan.Task

/-!
# Fetch groups of a finished stage

The output of a stage is described by the entries that its attempts reported. Entries count as a
set: their order and repeats make no difference.

- `InputStage.hashGroup` gathers one hash bucket, `InputStage.rangeGroups` one sub-range of keys
  after another. Either has one piece for each host, which names all attempts there.
-/

namespace Shuffle

/-- A finished stage whose output is read next. -/
structure InputStage where
  stage : UInt32
  /-- The table under which the output is read. -/
  table : String
  output : Partitioning
  /-- The columns that are hashed; none if everything is in one bucket. -/
  partitionKeys : List String := []
  /-- The order of sorted output. -/
  sortKeys : KeySchema := ⟨[]⟩
  stats : TableStats
  entries : List OutputEntry
deriving DecidableEq, Repr

namespace InputStage

/-- Did the stage produce no rows? -/
def isEmpty (s : InputStage) : Bool := s.stats.rows == 0

/-! ## §1 Entries by host -/

/-- The hosts of entries in ascending order, each with its attempts. -/
def hosts (entries : List OutputEntry) : List (PullAddress × List TaskAttempt) :=
  (Ordered.toSet PullAddress.le (entries.map (·.address))).map fun address =>
    (address,
      Ordered.toSet TaskAttempt.le
        ((entries.filter (·.address = address)).map (·.attempt)))

/-- One piece for each host of some entries. -/
def pieces (s : InputStage) (entries : List OutputEntry)
    (request : List TaskAttempt → FetchRequest) : FetchGroup :=
  (hosts entries).map fun (address, attempts) => (s.table, ⟨address, request attempts⟩)

/-! ## §2 Hash output -/

/-- The buckets of a stage in ascending order. -/
def buckets (s : InputStage) : List UInt32 :=
  Ordered.toSet (fun a b => a ≤ b) (s.entries.map (·.partition))

/-- The pieces of one bucket. -/
def hashGroup (s : InputStage) (bucket : UInt32) : FetchGroup :=
  s.pieces (s.entries.filter (·.partition = bucket)) (FetchRequest.hash s.stage bucket)

/-- The pieces of every bucket. -/
def hashGroups (s : InputStage) : List FetchGroup := s.buckets.map s.hashGroup

/-! ## §3 Sorted output -/

/-- A sub-range with its two ends encoded. -/
def encodeEnds (s : InputStage) (range : KeyRange) :
    Except PlanError (KeyRange × Bytes × Bytes) := do
  let low ← (s.sortKeys.encode range.low).mapError PlanError.key
  let high ← (s.sortKeys.encode range.high).mapError PlanError.key
  return (range, low, high)

/-- The pieces of one sub-range. -/
def rangeGroup (s : InputStage) (low high : Bytes) (final : Bool) : FetchGroup :=
  s.pieces s.entries fun attempts => FetchRequest.range s.stage attempts low high final

/-- Does the sub-range with index `i` of `n` go on to the end of the file? -/
def isFinal (ascending : Bool) (n i : Nat) : Bool := if ascending then i + 1 == n else i == 0

/-- The pieces of at most `wanted` sub-ranges, in the order in which they are stored. -/
def rangeGroups (s : InputStage) (wanted : Nat) : Except PlanError (List FetchGroup) := do
  let range ← s.stats.keyRange s.sortKeys
  let split ← RangeSplit.make s.sortKeys range
  let parts ← split.parts (min split.cardinality wanted)
  let ends ← parts.mapM s.encodeEnds
  -- Which part is final is settled in value order, before the parts are sorted.
  let groups := ends.zipIdx.map fun ((part, low, high), i) =>
    (part, s.rangeGroup low high (isFinal part.ascending ends.length i))
  let sorted := groups.mergeSort fun a b => a.1.compare s.sortKeys b.1 != .gt
  return sorted.map (·.2)

end InputStage

end Shuffle
