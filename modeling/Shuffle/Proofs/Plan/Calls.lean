import Mathlib
import Shuffle.Plan.Session
import Shuffle.Proofs.Fallible
import Shuffle.Proofs.Plan.Join
import Shuffle.Proofs.Plan.Serving

/-!
# What a call of the planner fetches

Every way of planning ends with dealing groups of pieces onto new tasks. The pieces are those that
the stages have when each is read as one kind of output, stage by stage.

- `InputStage.read` is what is fetched of one stage, and `PlanCall.fetch` that of a call.
- `PlanCall.dealt_of_answer_ok` takes apart any answer with tasks.
-/

namespace Shuffle

/-! ## §1 Reading one stage -/

namespace InputStage

variable {s : InputStage} {kind : Partitioning} {wanted : Nat}

/-- The groups of a stage that is read as one kind of output, sorted output in at most `wanted`
parts. -/
def groups (s : InputStage) (wanted : Nat) : Partitioning → Except PlanError (List FetchGroup)
  | .hash => .ok s.hashGroups
  | .range => s.rangeGroups wanted

/-- The groups of a whole read are those of one task. -/
theorem wholeGroups_eq (s : InputStage) : Planner.wholeGroups s = s.groups 1 s.output := by
  unfold Planner.wholeGroups groups
  cases s.output <;> rfl

/-- What is fetched of a stage: nothing if it is without rows. -/
def read (s : InputStage) (wanted : Nat) (kind : Partitioning) : Except PlanError FetchGroup :=
  if s.isEmpty then .ok [] else (s.groups wanted kind).map List.flatten

/-- Nothing is fetched of an input without rows. -/
theorem read_of_isEmpty (h : s.isEmpty = true) : s.read wanted kind = .ok [] := if_pos h

/-- An input with rows is fetched as its groups say. -/
theorem read_of_groups {gs : List FetchGroup} (hrows : s.isEmpty = false)
    (h : s.groups wanted kind = .ok gs) : s.read wanted kind = .ok gs.flatten := by
  rw [read, hrows, if_neg Bool.false_ne_true, h]
  rfl

end InputStage

/-! ## §2 Calls that read one stage -/

namespace Planner

variable {config : PlannerConfig} {s : InputStage} {inputs : List InputStage} {maxTasks : Nat}
  {ids ids' : TaskIds} {tasks : List Task}

/-- A hash plan deals the groups of its input, and these hold just what the input has to fetch. -/
theorem dealt_of_hash_ok (h : hash s maxTasks ids = .ok (tasks, ids')) (wanted : Nat) :
    ∃ n groups, dealOnto n groups ids = .ok (tasks, ids') ∧
      s.read wanted .hash = .ok groups.flatten := by
  rw [hash_eq] at h
  split_ifs at h with hempty hzero
  · exact ⟨0, [], (dealOnto_nil ids).trans h, InputStage.read_of_isEmpty hempty⟩
  · exact ⟨_, _, h, InputStage.read_of_groups (eq_false_of_ne_true hempty) rfl⟩

/-- A range plan deals the groups of its parts. -/
theorem dealt_of_range_ok (h : range config s ids = .ok (tasks, ids')) :
    ∃ n groups, dealOnto n groups ids = .ok (tasks, ids') ∧
      s.read (rangeTasks config s.stats.bytes.toNat) .range = .ok groups.flatten := by
  unfold range at h
  split_ifs at h with hempty
  · exact ⟨0, [], (dealOnto_nil ids).trans h, InputStage.read_of_isEmpty hempty⟩
  · obtain ⟨groups, hgroups, h⟩ := Fallible.bind_eq_ok.mp h
    exact ⟨_, groups, h, InputStage.read_of_groups (eq_false_of_ne_true hempty) hgroups⟩

/-! ## §3 Calls that read several -/

/-- To leave out the stages without rows is to fetch nothing of them. -/
private theorem exists_reads {wanted : InputStage → Nat} {kind : InputStage → Partitioning}
    {gss : List (List FetchGroup)} :
    List.Forall₂ (fun s gs => s.groups (wanted s) (kind s) = .ok gs)
        (inputs.filter (!·.isEmpty)) gss →
      ∃ fetched, List.Forall₂ (fun s group => s.read (wanted s) (kind s) = .ok group)
        inputs fetched ∧ fetched.flatten = gss.flatten.flatten := by
  induction inputs generalizing gss with
  | nil =>
    intro h
    cases h
    exact ⟨[], .nil, rfl⟩
  | cons s rest ih =>
    intro h
    cases hempty : s.isEmpty with
    -- An input without rows is left out of the groups; its fetches are none.
    | true =>
      rw [List.filter_cons_of_neg (by simp [hempty])] at h
      obtain ⟨fetched, hread, hflatten⟩ := ih h
      exact ⟨[] :: fetched, .cons (InputStage.read_of_isEmpty hempty) hread, hflatten⟩
    | false =>
      rw [List.filter_cons_of_pos (by simp [hempty])] at h
      cases h with
      | cons hgs hrest =>
        obtain ⟨fetched, hread, hflatten⟩ := ih hrest
        refine ⟨_ :: fetched, .cons (InputStage.read_of_groups hempty hgs) hread, ?_⟩
        rw [List.flatten_cons, hflatten, List.flatten_cons, List.flatten_append]

/-- A join gathers groups of one bucket from all inputs, so its fetches come in another order. -/
theorem dealt_of_join_ok (h : join inputs maxTasks ids = .ok (tasks, ids'))
    (wanted : InputStage → Nat) :
    ∃ n groups fetched, dealOnto n groups ids = .ok (tasks, ids') ∧
      List.Forall₂ (fun s group => s.read (wanted s) .hash = .ok group) inputs fetched ∧
      groups.flatten.Perm fetched.flatten := by
  let full := inputs.filter (!·.isEmpty)
  have hgroups : List.Forall₂ (fun s gs => s.groups (wanted s) .hash = .ok gs) full
      (full.map InputStage.hashGroups) :=
    List.forall₂_map_right_iff.mpr (List.forall₂_same.mpr fun _ _ => rfl)
  obtain ⟨fetched, hread, hflatten⟩ := exists_reads hgroups
  -- Grouping by partition moves pieces from one stage's groups to another's.
  have hperm : (joinGroups full).flatten.Perm fetched.flatten := by
    rw [hflatten, List.flatten_flatten, List.map_map, ← List.flatMap_def]
    exact joinGroups_perm full
  unfold join at h
  split_ifs at h
  split at h
  · cases h
  · rw [dealOnto_of_isEmpty] at h
    exact ⟨_, _, fetched, h, hread, hperm⟩

/-- A broadcast has one group, in which the fetches of all inputs stand. -/
theorem dealt_of_broadcast_ok (h : broadcast inputs ids = .ok (tasks, ids')) :
    ∃ n groups fetched, dealOnto n groups ids = .ok (tasks, ids') ∧
      List.Forall₂ (fun s group => s.read 1 s.output = .ok group) inputs fetched ∧
      groups.flatten.Perm fetched.flatten := by
  obtain ⟨-, gss, hgss, h⟩ := broadcast_eq_ok.mp h
  simp only [InputStage.wholeGroups_eq] at hgss
  obtain ⟨fetched, hread, hflatten⟩ := exists_reads hgss
  exact ⟨_, _, fetched, h, hread, List.Perm.of_eq hflatten.symm⟩

end Planner

/-! ## §4 All calls -/

namespace PlanCall

variable {config : PlannerConfig} {call : PlanCall} {ids ids' : TaskIds} {tasks : List Task}

/-- The kind of output that a stage is read as. -/
def reads : PlanCall → InputStage → Partitioning
  | .plan _ (.hash _), _ => .hash
  | .plan _ .range, _ => .range
  | .plan _ .broadcast, s => s.output
  | .single _ _, s => s.output
  | .hash _ _, _ => .hash
  | .range _, _ => .range
  | .join _ _, _ => .hash
  | .broadcast _, s => s.output

/-- The most parts that sorted output of a stage is read in. -/
def parts (config : PlannerConfig) : PlanCall → InputStage → Nat
  | .plan _ .broadcast, _ => 1
  | .broadcast _, _ => 1
  | _, s => Planner.rangeTasks config s.stats.bytes.toNat

/-- What a call fetches of one of its stages. -/
def fetch (config : PlannerConfig) (call : PlanCall) (s : InputStage) :
    Except PlanError FetchGroup :=
  s.read (call.parts config s) (call.reads s)

/-- A call of one stage fetches of this stage alone. -/
private theorem dealt_of_single {s : InputStage} (hinputs : call.inputs = [s])
    (h : ∃ n groups, Planner.dealOnto n groups ids = .ok (tasks, ids') ∧
      call.fetch config s = .ok groups.flatten) :
    ∃ n groups fetched, Planner.dealOnto n groups ids = .ok (tasks, ids') ∧
      List.Forall₂ (fun s group => call.fetch config s = .ok group) call.inputs fetched ∧
      groups.flatten.Perm fetched.flatten := by
  obtain ⟨n, groups, hdealt, hread⟩ := h
  rw [hinputs]
  exact ⟨n, groups, [groups.flatten], hdealt, .cons hread .nil, by simp⟩

/-- Tasks that are answered were dealt what the call fetches of its stages. -/
theorem dealt_of_answer_ok (h : call.answer config ids = .ok (tasks, ids')) :
    ∃ n groups fetched, Planner.dealOnto n groups ids = .ok (tasks, ids') ∧
      List.Forall₂ (fun s group => call.fetch config s = .ok group) call.inputs fetched ∧
      groups.flatten.Perm fetched.flatten := by
  cases call with
  -- The general entry point hands over to one of those below, by the mode and the number of inputs.
  | plan inputs mode =>
    cases mode with
    | hash maxTasks =>
      match inputs with
      | [] =>
        change Planner.join [] maxTasks ids = _ at h
        exact Planner.dealt_of_join_ok h _
      | [s] => exact dealt_of_single rfl (Planner.dealt_of_hash_ok h _)
      | s :: s' :: rest =>
        change Planner.join (s :: s' :: rest) maxTasks ids = _ at h
        exact Planner.dealt_of_join_ok h _
    | range =>
      match inputs with
      | [] => cases h
      | [s] => exact dealt_of_single rfl (Planner.dealt_of_range_ok h)
      | s :: s' :: rest => cases h
    | broadcast => exact Planner.dealt_of_broadcast_ok h
  -- What one input is read as is decided by its output.
  | single s maxTasks =>
    apply dealt_of_single rfl
    unfold answer Planner.single at h
    unfold fetch reads
    simp only at h ⊢
    split at h
    case h_1 houtput =>
      rw [houtput]
      exact Planner.dealt_of_hash_ok h _
    case h_2 houtput =>
      rw [houtput]
      exact Planner.dealt_of_range_ok h
  | hash s maxTasks => exact dealt_of_single rfl (Planner.dealt_of_hash_ok h _)
  | range s => exact dealt_of_single rfl (Planner.dealt_of_range_ok h)
  | join inputs maxTasks => exact Planner.dealt_of_join_ok h _
  | broadcast inputs => exact Planner.dealt_of_broadcast_ok h

end PlanCall

end Shuffle
