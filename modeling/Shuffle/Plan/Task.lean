import Shuffle.Fetch.Descriptor
import Shuffle.Plan.Statistics

/-!
# Tasks and their fetches

A task of the next stage fetches, for each input table, a list of pieces. Pieces that have to meet
on one task form a group, and groups are dealt onto tasks in turn.

- `TaskIds.create` makes tasks with consecutive numbers.
- `Task.deal` gives group `i` to task `i mod n`.
-/

namespace Shuffle

/-! ## §1 Numbers of tasks -/

/-- The number of a task within its stage. -/
structure TaskId where
  stage : UInt32
  seq : UInt32
deriving DecidableEq, Repr

/-- The name of a task. -/
def TaskId.name (id : TaskId) : String :=
  "t_" ++ Decimal.numeral id.stage.toNat ++ "_" ++ Decimal.paddedDigits 6 id.seq.toNat

/-! ## §2 Tasks -/

/-- A piece of an input table. -/
abbrev TableFetch := String × FetchDescriptor

/-- Pieces that have to meet on one task. -/
abbrev FetchGroup := List TableFetch

/-- A task with the pieces it fetches, by table in ascending order. -/
structure Task where
  id : TaskId
  fetches : List (String × List FetchDescriptor) := []
deriving DecidableEq, Repr

namespace Task

/-- Adds a piece behind the others of its table. -/
def add (t : Task) (piece : TableFetch) : Task :=
  { t with
    fetches := Ordered.update (fun a b => a < b) piece.1 [] (· ++ [piece.2]) t.fetches }

/-- Adds a group. -/
def addGroup (t : Task) (group : FetchGroup) : Task := group.foldl add t

/-- All pieces of a task. -/
def pieces (t : Task) : List FetchDescriptor := t.fetches.flatMap (·.2)

/-- Number of pieces. -/
def count (t : Task) : Nat := t.pieces.length

/-- Does the task fetch nothing? -/
def isEmpty (t : Task) : Bool := t.count == 0

/-- Deals groups in turn, the first one to the task with index `next`. -/
def dealFrom (next : Nat) : List FetchGroup → Array Task → Array Task
  | [], tasks => tasks
  | group :: rest, tasks =>
    dealFrom ((next + 1) % tasks.size) rest (tasks.modify next (·.addGroup group))

/-- Deals groups onto tasks in turn. Without tasks there may be no groups. -/
def deal (groups : List FetchGroup) (tasks : Array Task) : Except PlanError (Array Task) :=
  if tasks.isEmpty then
    if groups.isEmpty then .ok tasks else .error (.noTasks groups.length)
  else .ok (dealFrom 0 groups tasks)

end Task

/-! ## §3 Making tasks -/

/-- The task numbers of a stage that are still free. -/
structure TaskIds where
  stage : UInt32
  next : UInt32 := 0
deriving DecidableEq, Repr

namespace TaskIds

/-- Takes the next number. -/
def take (ids : TaskIds) : TaskId × TaskIds :=
  (⟨ids.stage, ids.next⟩, { ids with next := ids.next + 1 })

/-- Makes `n` tasks without fetches. -/
def create (ids : TaskIds) (n : Nat) : List Task × TaskIds :=
  let made := (List.range n).map fun i => { id := ⟨ids.stage, ids.next + UInt32.ofNat i⟩ }
  (made, { ids with next := ids.next + UInt32.ofNat n })

end TaskIds

end Shuffle
