import Mathlib
import Shuffle.Plan.Session
import Shuffle.Proofs.Fallible
import Shuffle.Proofs.Plan.Calls

/-!
# Task numbers have no gaps

However many plans are made for a stage, and whichever of them fail, its tasks are numbered from
zero on in the order in which they are made.

- `PlanCall.run_draw` says that a call draws as many numbers as its answer has tasks. Every fault
  comes before the first number is drawn.
- `TaskIds.numbers` are the next numbers, and one call takes the next ones (`PlanStep.Numbered`).
- `PlanSession.numbered_from_zero` is about all calls of a session.
-/

namespace Shuffle

/-! ## §1 Running work -/

namespace Drawing

variable {α β : Type} (ids : TaskIds)

@[simp] theorem run_pure (a : α) : (pure a : Drawing α).run ids = (.ok a, ids) := rfl

@[simp] theorem run_ofExcept (x : Except PlanError α) :
    (ofExcept x : Drawing α).run ids = (x, ids) := by
  cases x with
  | error fault => rfl
  | ok a => rfl

/-- What comes after a fault is not run. -/
theorem run_bind (work : Drawing α) (next : α → Drawing β) :
    (work >>= next).run ids =
      match work.run ids with
      | (.ok a, free) => (next a).run free
      | (.error fault, free) => (.error fault, free) := by
  cases hwork : work.run ids with
  | mk result free =>
    change StateT.run (ExceptT.run work) ids = _ at hwork
    change StateT.run (ExceptT.run (work >>= next)) ids = _
    rw [ExceptT.run_bind, StateT.run_bind, hwork]
    cases result with
    | error fault => rfl
    | ok a => rfl

end Drawing

/-! ## §2 Every fault comes before the first number -/

/-- What a caller sees of an answer: a fault leaves the numbers as they were. -/
def PlanResult.outcome (answer : PlanResult) (ids : TaskIds) :
    Except PlanError (List Task) × TaskIds :=
  match answer with
  | .ok (tasks, free) => (.ok tasks, free)
  | .error fault => (.error fault, ids)

namespace TaskIds

/-- No task takes no number. -/
theorem create_zero (ids : TaskIds) : ids.create 0 = ([], ids) := by
  simp [create]

/-- To make several tasks is to make one after another. -/
theorem create_succ (ids : TaskIds) (n : Nat) :
    ids.create (n + 1)
      = ({ id := ids.take.1 } :: (ids.take.2.create n).1, (ids.take.2.create n).2) := by
  simp [create, take, List.range_succ_eq_map, UInt32.ofNat_add, add_assoc, add_comm]

end TaskIds

namespace Drawing

variable (ids : TaskIds)

/-- Drawing tasks is creating them at the numbers that the counter stands at. -/
theorem run_tasks (n : Nat) : (tasks n).run ids = (.ok (ids.create n).1, (ids.create n).2) := by
  induction n generalizing ids with
  | zero => rw [tasks, run_pure, TaskIds.create_zero]
  | succ n ih =>
    have htake : (modifyGet TaskIds.take : Drawing TaskId).run ids
        = (.ok ids.take.1, ids.take.2) := rfl
    simp only [tasks, run_bind, htake, ih, run_pure, TaskIds.create_succ]

/-- Dealing draws the numbers that it is charged with, and none when it fails. -/
theorem run_dealOnto (n : Nat) (groups : List FetchGroup) :
    (dealOnto n groups).run ids = PlanResult.outcome (Planner.dealOnto n groups ids) ids := by
  simp only [dealOnto, run_bind, run_tasks, run_ofExcept, Planner.dealOnto]
  cases n with
  | zero =>
    -- Without tasks dealing may fail, but then no number was drawn.
    rw [TaskIds.create_zero]
    cases groups with
    | nil => rfl
    | cons group rest => rfl
  | succ n =>
    rw [TaskIds.create_succ]
    rfl

/-- The plan of a hash stage, drawn id by id, is that of the closed form. -/
theorem run_hash (s : InputStage) (maxTasks : Nat) :
    (hash s maxTasks).run ids = PlanResult.outcome (Planner.hash s maxTasks ids) ids := by
  have hwork : hash s maxTasks = if s.isEmpty then pure []
      else if Planner.hashTasks s maxTasks = 0 then throw .zeroTasks
      else dealOnto (Planner.hashTasks s maxTasks) s.hashGroups := rfl
  rw [hwork, Planner.hash_eq]
  split_ifs
  · rfl
  · rfl
  · exact run_dealOnto ids _ _

/-- The plan of a range stage, drawn id by id, is that of the closed form. -/
theorem run_range (config : PlannerConfig) (s : InputStage) :
    (range config s).run ids = PlanResult.outcome (Planner.range config s ids) ids := by
  unfold range Planner.range
  split_ifs
  · rfl
  · rw [run_bind, run_ofExcept]
    cases s.rangeGroups (Planner.rangeTasks config s.stats.bytes.toNat) with
    | error fault => rfl
    | ok groups => exact run_dealOnto ids _ groups

/-- The plan of a single stage, drawn id by id, is that of the closed form for either kind. -/
theorem run_single (config : PlannerConfig) (s : InputStage) (maxTasks : Nat) :
    (single config s maxTasks).run ids
      = PlanResult.outcome (Planner.single config s maxTasks ids) ids := by
  unfold single Planner.single
  cases s.output with
  | hash => exact run_hash ids s maxTasks
  | range => exact run_range ids config s

/-- The plan of a join, drawn id by id, is that of the closed form. -/
theorem run_join (inputs : List InputStage) (maxTasks : Nat) :
    (join inputs maxTasks).run ids = PlanResult.outcome (Planner.join inputs maxTasks ids) ids := by
  unfold join Planner.join
  split_ifs
  · rfl
  · rfl
  · cases inputs.find? (·.output ≠ .hash) with
    | some s => rfl
    | none =>
      simp only
      split_ifs
      · rfl
      · exact run_dealOnto ids _ _

/-- A broadcast draws one number, and only when there is something to read. -/
theorem run_broadcast (inputs : List InputStage) :
    (broadcast inputs).run ids = PlanResult.outcome (Planner.broadcast inputs ids) ids := by
  unfold broadcast Planner.broadcast
  split_ifs
  · rfl
  · rw [run_bind, run_ofExcept]
    -- The groups are read before a task is drawn, so a fault of theirs leaves the counter alone.
    cases (inputs.filter (!·.isEmpty)).mapM Planner.wholeGroups with
    | error fault => rfl
    | ok read =>
      change (if read.flatten.isEmpty then pure [] else dealOnto 1 read.flatten
          : Drawing (List Task)).run ids
        = PlanResult.outcome (if read.flatten.isEmpty then .ok ([], ids)
          else Planner.dealOnto 1 read.flatten ids) ids
      split_ifs
      · rfl
      · exact run_dealOnto ids _ _

/-- The plan of any mode, drawing its numbers, answers as the plan that is handed them. -/
theorem run_plan (config : PlannerConfig) (inputs : List InputStage) (mode : ReadMode) :
    (plan config inputs mode).run ids
      = PlanResult.outcome (Planner.plan config inputs mode ids) ids := by
  cases mode with
  | hash maxTasks =>
    match inputs with
    | [] => exact run_join ids [] maxTasks
    | [s] => exact run_hash ids s maxTasks
    | s :: s' :: rest => exact run_join ids (s :: s' :: rest) maxTasks
  | range =>
    match inputs with
    | [] => rfl
    | [s] => exact run_range ids config s
    | _ :: _ :: _ => rfl
  | broadcast => exact run_broadcast ids inputs

end Drawing

/-- A call that is worked off step by step gives the planner's answer. -/
theorem PlanCall.run_draw (config : PlannerConfig) (call : PlanCall) (ids : TaskIds) :
    (call.draw config).run ids = PlanResult.outcome (call.answer config ids) ids := by
  cases call with
  | plan inputs mode => exact Drawing.run_plan ids config inputs mode
  | single input maxTasks => exact Drawing.run_single ids config input maxTasks
  | hash input maxTasks => exact Drawing.run_hash ids input maxTasks
  | range input => exact Drawing.run_range ids config input
  | join inputs maxTasks => exact Drawing.run_join ids inputs maxTasks
  | broadcast inputs => exact Drawing.run_broadcast ids inputs

/-! ## §3 Numbers -/

namespace TaskIds

/-- The next `n` numbers. -/
def numbers (ids : TaskIds) (n : Nat) : List TaskId :=
  (List.range n).map fun i => ⟨ids.stage, ids.next + UInt32.ofNat i⟩

/-- The tasks carry the next numbers in turn. -/
theorem map_id_create (ids : TaskIds) (n : Nat) : (ids.create n).1.map Task.id = ids.numbers n := by
  simp [create, numbers]

theorem length_numbers (ids : TaskIds) (n : Nat) : (ids.numbers n).length = n := by
  simp [numbers]

/-- Numbers go on where those of earlier tasks end. -/
theorem numbers_add (ids : TaskIds) (m n : Nat) :
    ids.numbers (m + n) = ids.numbers m ++ (ids.create m).2.numbers n := by
  simp [numbers, create, List.range_add, UInt32.ofNat_add, add_assoc]

/-- From zero on, and below the largest number, numbers count. -/
theorem numbers_from_zero (stage : UInt32) {n : Nat} (hn : n ≤ UInt32.size) :
    (numbers ⟨stage, 0⟩ n).map (fun id => (id.stage, id.seq.toNat))
      = (List.range n).map fun i => (stage, i) := by
  rw [numbers, List.map_map]
  apply List.map_congr_left
  intro i hi
  have hlt : i < UInt32.size := (List.mem_range.mp hi).trans_le hn
  simp [UInt32.toNat_ofNat_of_lt' hlt]

end TaskIds

/-- Dealing changes what tasks fetch, not how they are numbered. -/
theorem Planner.numbers_of_dealOnto_ok {n : Nat} {groups : List FetchGroup} {ids ids' : TaskIds}
    {tasks : List Task} (h : dealOnto n groups ids = .ok (tasks, ids')) :
    tasks.map Task.id = ids.numbers n ∧ ids' = (ids.create n).2 := by
  obtain ⟨dealt, hdealt, h⟩ := Fallible.bind_eq_ok.mp h
  cases h
  rw [Task.eq_of_deal_ok hdealt, Task.map_id_dealFrom, ← TaskIds.map_id_create]
  exact ⟨rfl, rfl⟩

/-! ## §4 Sessions -/

/-- One call of a session. -/
def PlanCall.step (config : PlannerConfig) (call : PlanCall) (ids : TaskIds) : PlanStep :=
  ⟨ids, ((call.draw config).run ids).1, ((call.draw config).run ids).2⟩

namespace PlanStep

/-- The tasks of a call have the next numbers, and these are then used up. -/
structure Numbered (step : PlanStep) : Prop where
  ids_eq : step.tasks.map Task.id = step.before.numbers step.tasks.length
  after_eq : step.after = (step.before.create step.tasks.length).2

/-- A call is answered with the numbers that are free before it, and gives them back if it fails. -/
structure Answered (config : PlannerConfig) (call : PlanCall) (step : PlanStep) : Prop where
  result_eq : step.result = (call.answer config step.before).map (·.1)
  after_eq : ∀ fault, step.result = .error fault → step.after = step.before

end PlanStep

namespace PlanCall

variable (config : PlannerConfig) (call : PlanCall) (ids : TaskIds)

/-- A call takes exactly as many numbers as it answers tasks. -/
theorem step_numbered : (call.step config ids).Numbered := by
  unfold step
  rw [run_draw]
  cases hanswer : call.answer config ids with
  | error fault =>
    -- There is no task, and no number is used up.
    exact ⟨rfl, (congrArg Prod.snd (TaskIds.create_zero ids)).symm⟩
  | ok answer =>
    obtain ⟨tasks, free⟩ := answer
    obtain ⟨n, groups, -, hdealt, -⟩ := dealt_of_answer_ok hanswer
    obtain ⟨hids, hfree⟩ := Planner.numbers_of_dealOnto_ok hdealt
    have hlength : tasks.length = n := by
      rw [← List.length_map Task.id, hids, TaskIds.length_numbers]
    subst hlength
    exact ⟨hids, hfree⟩

/-- What a call answers does not depend on how it draws its numbers. -/
theorem step_answered : (call.step config ids).Answered config call := by
  unfold step
  rw [run_draw]
  cases hanswer : call.answer config ids with
  | error fault => exact ⟨by rw [hanswer]; rfl, fun _ _ => rfl⟩
  | ok answer => exact ⟨by rw [hanswer]; rfl, fun _ h => by cases h⟩

end PlanCall

namespace PlanSession

variable (calls : List (PlannerConfig × PlanCall)) (ids : TaskIds)

/-- A run is its first call, and the others from where that one left the counter. -/
theorem run_cons (config : PlannerConfig) (call : PlanCall) :
    run ((config, call) :: calls) ids
      = call.step config ids :: run calls (call.step config ids).after :=
  rfl

/-- The tasks of a session, read off the answers. -/
theorem tasks_run_cons (config : PlannerConfig) (call : PlanCall) :
    tasks (run ((config, call) :: calls) ids) =
      match call.answer config ids with
      | .ok (made, free) => made ++ tasks (run calls free)
      | .error _ => tasks (run calls ids) := by
  rw [run_cons, PlanCall.step, PlanCall.run_draw]
  cases call.answer config ids with
  | error fault => rfl
  | ok answer => rfl

/-- The tasks of a session have the next numbers. -/
theorem ids_tasks : (tasks (run calls ids)).map Task.id
    = ids.numbers (tasks (run calls ids)).length := by
  induction calls generalizing ids with
  | nil => rfl
  | cons first rest ih =>
    obtain ⟨config, call⟩ := first
    obtain ⟨hids, hafter⟩ := call.step_numbered config ids
    rw [run_cons]
    -- The first call takes the next numbers, and the others go on where it ends.
    simp only [tasks, List.flatMap_cons, List.map_append, List.length_append]
    simp only [tasks] at ih
    rw [TaskIds.numbers_add, hids, ih, hafter]
    rfl

/-- Every call of a run is answered as it would be from its own counter. -/
theorem answered :
    List.Forall₂ (fun call step => step.Answered call.1 call.2) calls (run calls ids) := by
  induction calls generalizing ids with
  | nil => exact .nil
  | cons first rest ih =>
    rw [run_cons]
    exact .cons (first.2.step_answered first.1 ids) (ih _)

/-- **Task numbers have no gaps**: calls that share the numbers of a stage, of which some may fail
and some may plan nothing, together make the tasks with the numbers from zero on. Each call is
answered with the numbers that the earlier ones left, and a call that fails leaves all of them. -/
theorem numbered_from_zero (stage : UInt32) (calls : List (PlannerConfig × PlanCall))
    (hfew : (tasks (run calls ⟨stage, 0⟩)).length < UInt32.size) :
    (tasks (run calls ⟨stage, 0⟩)).map (fun t => (t.id.stage, t.id.seq.toNat))
        = (List.range (tasks (run calls ⟨stage, 0⟩)).length).map (fun i => (stage, i)) ∧
      List.Forall₂ (fun call step => step.Answered call.1 call.2) calls (run calls ⟨stage, 0⟩) := by
  refine ⟨?_, answered calls ⟨stage, 0⟩⟩
  rw [← TaskIds.numbers_from_zero stage hfew.le, ← ids_tasks, List.map_map]
  rfl

/-- Two calls that make tasks, with a fault before each and a plan of nothing between them. -/
theorem numbered_from_zero_among_faults :
    let s : InputStage :=
      { stage := 1, table := "t", output := .hash, partitionKeys := ["k"], stats := ⟨9, 90, []⟩,
        entries := [⟨⟨0, 0⟩, 7, ⟨"a", 1⟩, 1⟩, ⟨⟨1, 0⟩, 2, ⟨"b", 1⟩, 1⟩] }
    let void : InputStage := { s with stats := ⟨0, 0, []⟩ }
    let whole : InputStage := { s with partitionKeys := [] }
    let calls := [PlanCall.hash s 0, .hash s 3, .single void 2, .join [s] 2, .hash whole 2]
    (tasks (run (calls.map (PlannerConfig.standard, ·)) ⟨4, 0⟩)).map
      (fun t => (t.id.stage, t.id.seq.toNat)) = [(4, 0), (4, 1), (4, 2), (4, 3)] := by
  intro s void whole calls
  obtain ⟨three, hthree, hlengthThree, -⟩ :=
    Planner.dealOnto_spec (Nat.succ_pos 2) s.hashGroups ⟨4, 0⟩
  obtain ⟨one, hone, hlengthOne, -⟩ := Planner.dealOnto_spec Nat.one_pos whole.hashGroups ⟨4, 3⟩
  -- The five calls in turn: two fail, one has nothing to read, two answer tasks.
  have hzero : (PlanCall.hash s 0).answer .standard ⟨4, 0⟩ = .error .zeroTasks := rfl
  have hfirst : (PlanCall.hash s 3).answer .standard ⟨4, 0⟩ = .ok (three, ⟨4, 3⟩) := hthree
  have hnothing : (PlanCall.single void 2).answer .standard ⟨4, 3⟩ = .ok ([], ⟨4, 3⟩) := rfl
  have hcount : (PlanCall.join [s] 2).answer .standard ⟨4, 3⟩ = .error (.inputCount .join 1) := rfl
  have hlast : (PlanCall.hash whole 2).answer .standard ⟨4, 3⟩ = .ok (one, ⟨4, 4⟩) := hone
  have hall : tasks (run (calls.map (PlannerConfig.standard, ·)) ⟨4, 0⟩) = three ++ one := by
    simp only [calls, List.map_cons, List.map_nil, tasks_run_cons, hzero, hfirst, hnothing, hcount,
      hlast]
    simp [run, tasks]
  have hlength : (tasks (run (calls.map (PlannerConfig.standard, ·)) ⟨4, 0⟩)).length = 4 := by
    rw [hall, List.length_append, hlengthThree, hlengthOne]
  obtain ⟨hnumbers, -⟩ :=
    numbered_from_zero 4 (calls.map (PlannerConfig.standard, ·)) (by rw [hlength]; decide)
  rw [hnumbers, hlength]
  rfl

end PlanSession

end Shuffle
