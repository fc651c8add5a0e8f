import Shuffle.Plan.Stage

/-!
# Planning the tasks of a stage

A plan turns the output of finished stages into the tasks of the next one.

- `Planner.hash` deals buckets onto tasks, `Planner.join` does so for several inputs at once,
  `Planner.range` makes one task for each sub-range of keys, `Planner.broadcast` gives everything
  to one task.
- A plan that fails takes no task numbers.
-/

namespace Shuffle

/-- The settings of the planner. -/
structure PlannerConfig where
  /-- How many bytes a task of sorted input should read. -/
  bytesPerRangeTask : UInt64
  /-- The number of tasks for hash output where nothing better is known. -/
  defaultMaxTasks : UInt64
deriving DecidableEq, Repr

/-- A mebibyte. -/
def PlannerConfig.mebibyte : Nat := 1024 * 1024

/-- 64 MiB a task, and eight tasks. -/
def PlannerConfig.standard : PlannerConfig := ⟨64 * 1024 * 1024, 8⟩

/-- How a stage reads its inputs. -/
inductive ReadMode where
  | hash (maxTasks : Nat)
  | range
  | broadcast
deriving DecidableEq, Repr

/-- The tasks of a plan, and the numbers that are free afterwards. -/
abbrev PlanResult := Except PlanError (List Task × TaskIds)

namespace Planner

/-- Makes `n` tasks and deals groups onto them. -/
def dealOnto (n : Nat) (groups : List FetchGroup) (ids : TaskIds) : PlanResult := do
  let (tasks, ids) := ids.create n
  let dealt ← Task.deal groups tasks.toArray
  return (dealt.toList, ids)

/-- A quotient rounded up. -/
def ceilDiv (n d : Nat) : Nat := (n + d - 1) / d

/-- How many tasks sorted output of some size should have. Both sizes count in whole mebibytes. -/
def rangeTasks (config : PlannerConfig) (bytes : Nat) : Nat :=
  let perTask := max 1 (ceilDiv config.bytesPerRangeTask.toNat PlannerConfig.mebibyte)
  max 1 (ceilDiv (ceilDiv bytes PlannerConfig.mebibyte) perTask)

/-- Plans over hash output. Without partition columns one task reads everything. -/
def hash (s : InputStage) (maxTasks : Nat) (ids : TaskIds) : PlanResult :=
  if s.isEmpty then .ok ([], ids)
  else
    let n := if s.partitionKeys.isEmpty then 1 else maxTasks
    if n = 0 then .error .zeroTasks else dealOnto n s.hashGroups ids

/-- Plans over sorted output: one task for each sub-range. -/
def range (config : PlannerConfig) (s : InputStage) (ids : TaskIds) : PlanResult :=
  if s.isEmpty then .ok ([], ids)
  else do
    let groups ← s.rangeGroups (rangeTasks config s.stats.bytes.toNat)
    dealOnto groups.length groups ids

/-- Plans over the output of one stage as it is partitioned. -/
def single (config : PlannerConfig) (s : InputStage) (maxTasks : Nat) (ids : TaskIds) :
    PlanResult :=
  match s.output with
  | .hash => hash s maxTasks ids
  | .range => range config s ids

/-- The buckets of several stages, each with the pieces of all of them. -/
def joinGroups (inputs : List InputStage) : List FetchGroup :=
  (Ordered.toSet (fun a b => a ≤ b) (inputs.flatMap InputStage.buckets)).map fun bucket =>
    inputs.flatMap (·.hashGroup bucket)

/-- Plans a join: a bucket of every input meets on one task. -/
def join (inputs : List InputStage) (maxTasks : Nat) (ids : TaskIds) : PlanResult :=
  if inputs.length < 2 then .error (.inputCount .join inputs.length)
  else if maxTasks = 0 then .error .zeroTasks
  else
    -- Inputs without rows are checked as well, and left out only afterwards.
    match inputs.find? (·.output ≠ .hash) with
    | some s => .error (.mismatch s.stage .hash)
    | none =>
      let groups := joinGroups (inputs.filter (!·.isEmpty))
      if groups.isEmpty then .ok ([], ids) else dealOnto (min groups.length maxTasks) groups ids

/-- All groups of a stage that is read whole. -/
def wholeGroups (s : InputStage) : Except PlanError (List FetchGroup) :=
  match s.output with
  | .hash => .ok s.hashGroups
  | .range => s.rangeGroups 1

/-- Plans one task that reads every input whole. -/
def broadcast (inputs : List InputStage) (ids : TaskIds) : PlanResult :=
  if inputs.isEmpty then .error (.inputCount .broadcast 0)
  else do
    let groups := (← (inputs.filter (!·.isEmpty)).mapM wholeGroups).flatten
    if groups.isEmpty then return ([], ids) else dealOnto 1 groups ids

/-- Plans a stage that reads its inputs in a given mode. -/
def plan (config : PlannerConfig) (inputs : List InputStage) (mode : ReadMode) (ids : TaskIds) :
    PlanResult :=
  match mode, inputs with
  | .hash maxTasks, [s] => hash s maxTasks ids
  -- No input at all is one too few for a join.
  | .hash maxTasks, inputs => join inputs maxTasks ids
  | .range, [s] => range config s ids
  | .range, inputs => .error (.inputCount .range inputs.length)
  | .broadcast, inputs => broadcast inputs ids

end Planner

end Shuffle
