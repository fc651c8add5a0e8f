import Shuffle.Plan.Repartition

/-!
# Sessions of planning

The tasks of a stage are planned by calls that share one supply of task numbers.

- `PlanCall` is one call, and `PlanCall.answer` the planner's answer to it.
- `PlanCall.draw` is the same work step by step: numbers are drawn one at a time while tasks are
  made, and a fault gives none of them back.
- `PlanSession.run` makes calls one after another.
-/

namespace Shuffle

/-! ## §1 Calls -/

/-- A way of asking for a plan. -/
inductive PlanCall where
  /-- In a mode that the caller chooses. -/
  | plan (inputs : List InputStage) (mode : ReadMode)
  /-- In the mode that the partitioning of the only input asks for. -/
  | single (input : InputStage) (maxTasks : Nat)
  | hash (input : InputStage) (maxTasks : Nat)
  | range (input : InputStage)
  | join (inputs : List InputStage) (maxTasks : Nat)
  | broadcast (inputs : List InputStage)
deriving DecidableEq, Repr

namespace PlanCall

/-- The stages that are to be read. -/
def inputs : PlanCall → List InputStage
  | .plan inputs _ => inputs
  | .single input _ => [input]
  | .hash input _ => [input]
  | .range input => [input]
  | .join inputs _ => inputs
  | .broadcast inputs => inputs

/-- The planner's answer, given the numbers that are free. -/
def answer (config : PlannerConfig) : PlanCall → TaskIds → PlanResult
  | .plan inputs mode => Planner.plan config inputs mode
  | .single input maxTasks => Planner.single config input maxTasks
  | .hash input maxTasks => Planner.hash input maxTasks
  | .range input => Planner.range config input
  | .join inputs maxTasks => Planner.join inputs maxTasks
  | .broadcast inputs => Planner.broadcast inputs

end PlanCall

/-! ## §2 Drawing numbers -/

/-- Work that may draw task numbers. What was drawn before a fault stays drawn. -/
abbrev Drawing := ExceptT PlanError (StateM TaskIds)

namespace Drawing

/-- What some work results in, and the numbers that are free afterwards. -/
def run {α : Type} (work : Drawing α) (ids : TaskIds) : Except PlanError α × TaskIds :=
  StateT.run (ExceptT.run work) ids

/-- Makes `n` tasks, each with the next number. -/
def tasks : (n : Nat) → Drawing (List Task)
  | 0 => return []
  | n + 1 => do
    let id ← modifyGet TaskIds.take
    let rest ← tasks n
    return { id } :: rest

/-- Makes `n` tasks and deals groups onto them. -/
def dealOnto (n : Nat) (groups : List FetchGroup) : Drawing (List Task) := do
  let made ← tasks n
  let dealt ← ofExcept (Task.deal groups made.toArray)
  return dealt.toList

/-- Plans over hash output. -/
def hash (s : InputStage) (maxTasks : Nat) : Drawing (List Task) :=
  if s.isEmpty then return []
  else
    let n := if s.partitionKeys.isEmpty then 1 else maxTasks
    if n = 0 then throw .zeroTasks else dealOnto n s.hashGroups

/-- Plans over sorted output. -/
def range (config : PlannerConfig) (s : InputStage) : Drawing (List Task) :=
  if s.isEmpty then return []
  else do
    -- Groups are made before numbers are drawn, so their faults draw none.
    let groups ← ofExcept (s.rangeGroups (Planner.rangeTasks config s.stats.bytes.toNat))
    dealOnto groups.length groups

/-- Plans over one stage as it is partitioned. -/
def single (config : PlannerConfig) (s : InputStage) (maxTasks : Nat) : Drawing (List Task) :=
  match s.output with
  | .hash => hash s maxTasks
  | .range => range config s

/-- Plans a join. -/
def join (inputs : List InputStage) (maxTasks : Nat) : Drawing (List Task) :=
  if inputs.length < 2 then throw (.inputCount .join inputs.length)
  else if maxTasks = 0 then throw .zeroTasks
  else
    match inputs.find? (·.output ≠ .hash) with
    | some s => throw (.mismatch s.stage .hash)
    | none =>
      let groups := Planner.joinGroups (inputs.filter (!·.isEmpty))
      if groups.isEmpty then return [] else dealOnto (min groups.length maxTasks) groups

/-- Plans one task that reads everything. -/
def broadcast (inputs : List InputStage) : Drawing (List Task) :=
  if inputs.isEmpty then throw (.inputCount .broadcast 0)
  else do
    let read ← ofExcept ((inputs.filter (!·.isEmpty)).mapM Planner.wholeGroups)
    if read.flatten.isEmpty then return [] else dealOnto 1 read.flatten

/-- Plans in a given mode. -/
def plan (config : PlannerConfig) (inputs : List InputStage) (mode : ReadMode) :
    Drawing (List Task) :=
  match mode, inputs with
  | .hash maxTasks, [s] => hash s maxTasks
  | .hash maxTasks, inputs => join inputs maxTasks
  | .range, [s] => range config s
  | .range, inputs => throw (.inputCount .range inputs.length)
  | .broadcast, inputs => broadcast inputs

end Drawing

/-- The work that a call stands for. -/
def PlanCall.draw (config : PlannerConfig) : PlanCall → Drawing (List Task)
  | .plan inputs mode => Drawing.plan config inputs mode
  | .single input maxTasks => Drawing.single config input maxTasks
  | .hash input maxTasks => Drawing.hash input maxTasks
  | .range input => Drawing.range config input
  | .join inputs maxTasks => Drawing.join inputs maxTasks
  | .broadcast inputs => Drawing.broadcast inputs

/-! ## §3 Sessions -/

/-- What came of one call. -/
structure PlanStep where
  /-- The numbers that were free before it. -/
  before : TaskIds
  result : Except PlanError (List Task)
  /-- The numbers that were free after it. -/
  after : TaskIds

/-- The tasks that a call made, none if it failed. -/
def PlanStep.tasks (step : PlanStep) : List Task :=
  match step.result with
  | .ok tasks => tasks
  | .error _ => []

namespace PlanSession

/-- Makes calls in order, each of a planner with settings of its own. -/
def run : List (PlannerConfig × PlanCall) → TaskIds → List PlanStep
  | [], _ => []
  | (config, call) :: rest, ids =>
    let (result, free) := (call.draw config).run ids
    ⟨ids, result, free⟩ :: run rest free

/-- All tasks of a session in the order in which they were made. -/
def tasks (steps : List PlanStep) : List Task := steps.flatMap PlanStep.tasks

end PlanSession

end Shuffle
