import Mathlib
import Shuffle.Proofs.Plan.Calls
import Shuffle.Proofs.Plan.Ranges

/-!
# Fetches and the output they ask for

A fetch asks for hash output or for sorted output, and it can be served only if the stage has
output of that kind.

- `PlanCall.unchecked` are the calls that read a stage as one kind without a look at what it has.
  Only these make fetches of the wrong kind.
- `PlanCall.refused` is the stage for which a call gives up. Only joins look.
- `PlanCall.fetches_fit_iff` puts both together.
-/

namespace Shuffle

/-! ## §1 Pieces of one stage -/

namespace InputStage

variable {s : InputStage} {kind : Partitioning} {wanted : Nat} {group : FetchGroup}

/-- A piece asks for the kind of output that the stage is read as, whatever it has. -/
theorem partitioning_of_groups {gs : List FetchGroup} (h : s.groups wanted kind = .ok gs) :
    ∀ piece ∈ gs.flatten, piece.2.request.partitioning = kind := by
  intro piece hpiece
  -- The groups of either kind are built from pieces whose request names that kind.
  cases kind with
  | hash =>
    cases h
    obtain ⟨e, -, rfl⟩ := mem_hashGroups.mp hpiece
    rfl
  | range =>
    obtain ⟨range, asks, -, -, -, rfl⟩ := rangeGroups_route h
    obtain ⟨_, hask, hpiece⟩ := List.mem_flatten.mp hpiece
    obtain ⟨ask, -, rfl⟩ := List.mem_map.mp hask
    obtain ⟨e, -, rfl⟩ := mem_askGroup.mp hpiece
    rfl

/-- There are pieces as soon as there are entries. -/
theorem flatten_groups_eq_nil_iff {gs : List FetchGroup} (h : s.groups wanted kind = .ok gs) :
    gs.flatten = [] ↔ s.entries = [] := by
  cases kind with
  | hash =>
    cases h
    simp only [List.eq_nil_iff_forall_not_mem, mem_hashGroups]
    constructor
    · intro hnone e he
      exact hnone _ ⟨e, he, rfl⟩
    · rintro hnone piece ⟨e, he, -⟩
      exact hnone e he
  | range =>
    obtain ⟨range, asks, -, hroute, -, rfl⟩ := rangeGroups_route h
    -- A route has an ask at least, and every ask has a piece for each host.
    obtain ⟨ask, rest, rfl⟩ := List.exists_cons_of_length_pos hroute.length_pos
    simp only [List.map_cons, List.flatten_cons, List.append_eq_nil_iff,
      List.flatten_eq_nil_iff, List.forall_mem_map, askGroup, rangeGroup, pieces_eq_nil_iff]
    exact ⟨And.left, fun hnone => ⟨hnone, fun _ _ => hnone⟩⟩

/-- A stage is read as the right kind unless it is read as another and has something to read. -/
theorem read_fits_iff (h : s.read wanted kind = .ok group) :
    (∀ piece ∈ group, piece.2.request.partitioning = s.output) ↔
      (s.stats.rows ≠ 0 → s.entries ≠ [] → kind = s.output) := by
  cases hempty : s.isEmpty with
  -- Nothing is fetched, and nothing can be of the wrong kind.
  | true =>
    have hrows : s.stats.rows = 0 := by simpa [isEmpty] using hempty
    rw [read_of_isEmpty hempty] at h
    cases h
    simp [hrows]
  -- All fetches are of the one kind, and there is a fetch as soon as there is an entry.
  | false =>
    have hrows : s.stats.rows ≠ 0 := by simpa [isEmpty] using hempty
    rw [read, hempty, if_neg Bool.false_ne_true] at h
    obtain ⟨gs, hgs, rfl⟩ := Fallible.map_eq_ok.mp h
    constructor
    · intro hfit _ hentries
      obtain ⟨piece, hpiece⟩ :=
        List.exists_mem_of_ne_nil _ (mt (flatten_groups_eq_nil_iff hgs).mp hentries)
      exact (partitioning_of_groups hgs piece hpiece).symm.trans (hfit piece hpiece)
    · intro hkind piece hpiece
      have hentries : s.entries ≠ [] := by
        intro hnone
        rw [(flatten_groups_eq_nil_iff hgs).mpr hnone] at hpiece
        cases hpiece
      rw [partitioning_of_groups hgs piece hpiece, hkind hrows hentries]

end InputStage

/-! ## §2 Faults that are not about the kind of output -/

/-- Work that does not give up because of how some stage's output is partitioned. -/
def Unrefusing {α : Type} (x : Except PlanError α) : Prop :=
  ∀ stage kind, x ≠ .error (.mismatch stage kind)

namespace Unrefusing

variable {α β : Type}

theorem ok (a : α) : Unrefusing (.ok a) := by
  intro stage kind h
  cases h

theorem error {fault : PlanError} (h : ∀ stage kind, fault ≠ .mismatch stage kind) :
    Unrefusing (.error fault : Except PlanError α) := by
  intro stage kind heq
  exact h stage kind (Except.error.inj heq)

theorem bind {x : Except PlanError α} {f : α → Except PlanError β} (hx : Unrefusing x)
    (hf : ∀ a, Unrefusing (f a)) : Unrefusing (x >>= f) := by
  intro stage kind h
  rcases Fallible.bind_eq_error.mp h with h | ⟨a, -, h⟩
  · exact hx stage kind h
  · exact hf a stage kind h

theorem mapM {f : α → Except PlanError β} (hf : ∀ a, Unrefusing (f a)) (items : List α) :
    Unrefusing (items.mapM f) := by
  intro stage kind h
  obtain ⟨a, -, h⟩ := Fallible.exists_of_mapM_eq_error h
  exact hf a stage kind h

theorem mapKey (x : Except KeyError α) : Unrefusing (x.mapError PlanError.key) := by
  intro stage kind h
  obtain ⟨fault, -, h⟩ := Fallible.mapError_eq_error.mp h
  cases h

variable (config : PlannerConfig) (s : InputStage) (ids : TaskIds)

theorem bounds (stats : TableStats) (key : SortKey) : Unrefusing (stats.bounds key) := by
  unfold TableStats.bounds
  split
  · split_ifs
    · exact error nofun
    · exact error nofun
    · exact ok _
  · exact error nofun

theorem trailingEnds (stats : TableStats) (leading key : SortKey) :
    Unrefusing (stats.trailingEnds leading key) := by
  intro stage kind h
  exact bounds stats key stage kind (Fallible.map_eq_error.mp h)

theorem keyRange (stats : TableStats) (schema : KeySchema) :
    Unrefusing (stats.keyRange schema) := by
  unfold TableStats.keyRange
  split
  · exact error nofun
  · refine (bounds _ _).bind fun ends => ?_
    exact (mapM (trailingEnds _ _) _).bind fun _ => ok _

theorem make (schema : KeySchema) (range : KeyRange) :
    Unrefusing (RangeSplit.make schema range) := by
  unfold RangeSplit.make
  split
  · exact error nofun
  · simp only
    split_ifs
    · exact error nofun
    · exact error nofun
    · exact error nofun
    · exact ok _

theorem parts (split : RangeSplit) (n : Nat) : Unrefusing (split.parts n) := by
  unfold RangeSplit.parts
  split_ifs
  · exact error nofun
  · exact ok _

theorem encodeEnds (range : KeyRange) : Unrefusing (s.encodeEnds range) :=
  (mapKey _).bind fun _ => (mapKey _).bind fun _ => ok _

theorem rangeGroups (wanted : Nat) : Unrefusing (s.rangeGroups wanted) := by
  refine (keyRange _ _).bind fun range => ?_
  refine (make _ _).bind fun split => ?_
  refine (parts _ _).bind fun parts => ?_
  exact (mapM (encodeEnds s) _).bind fun _ => ok _

theorem deal (groups : List FetchGroup) (tasks : Array Task) :
    Unrefusing (Task.deal groups tasks) := by
  unfold Task.deal
  split_ifs
  · exact ok _
  · exact error nofun
  · exact ok _

theorem dealOnto (n : Nat) (groups : List FetchGroup) :
    Unrefusing (Planner.dealOnto n groups ids) :=
  (deal groups _).bind fun _ => ok _

theorem hash (maxTasks : Nat) : Unrefusing (Planner.hash s maxTasks ids) := by
  rw [Planner.hash_eq]
  split_ifs
  · exact ok _
  · exact error nofun
  · exact dealOnto ids _ _

theorem range : Unrefusing (Planner.range config s ids) := by
  unfold Planner.range
  split
  · exact ok _
  · exact (rangeGroups s _).bind fun groups => dealOnto ids _ groups

theorem broadcast (inputs : List InputStage) : Unrefusing (Planner.broadcast inputs ids) := by
  have hwhole : ∀ s, Unrefusing (Planner.wholeGroups s) := by
    intro s
    unfold Planner.wholeGroups
    split
    · exact ok _
    · exact rangeGroups s 1
  unfold Planner.broadcast
  split
  · exact error nofun
  · refine (mapM hwhole _).bind fun read => ?_
    change Unrefusing (if read.flatten.isEmpty then .ok ([], ids)
      else Planner.dealOnto 1 read.flatten ids)
    rw [Planner.dealOnto_of_isEmpty]
    exact dealOnto ids _ _

end Unrefusing

namespace Planner

variable {inputs : List InputStage} {maxTasks : Nat} {ids : TaskIds}

/-- The stage for which a join gives up: the first one without hash output. Before that it wants
several stages, and tasks to join them on. -/
def refused (inputs : List InputStage) (maxTasks : Nat) : Option InputStage :=
  if 2 ≤ inputs.length ∧ maxTasks ≠ 0 then inputs.find? (·.output ≠ .hash) else none

theorem join_eq_mismatch_iff {stage : UInt32} {kind : Partitioning} :
    join inputs maxTasks ids = .error (.mismatch stage kind) ↔
      kind = .hash ∧ ∃ s, refused inputs maxTasks = some s ∧ s.stage = stage := by
  unfold join refused
  split_ifs with hlength hjoins hzero hjoins hjoins
  · omega
  · simp
  · omega
  · simp
  · cases hfind : inputs.find? (·.output ≠ .hash) with
    | some s => simp [and_comm, eq_comm]
    | none =>
      -- What is left to do is dealing.
      simp only
      rw [dealOnto_of_isEmpty]
      simpa using Unrefusing.dealOnto ids _ _ stage kind
  · omega

/-- Where a join answers, there is hash output everywhere. -/
theorem output_of_join_ok {answer : List Task × TaskIds}
    (h : join inputs maxTasks ids = .ok answer) : ∀ s ∈ inputs, s.output = .hash := by
  unfold join at h
  split_ifs at h
  cases hfind : inputs.find? (·.output ≠ .hash) with
  | some s =>
    rw [hfind] at h
    cases h
  | none => simpa using hfind

end Planner

/-! ## §3 Calls -/

namespace PlanCall

variable {config : PlannerConfig} {call : PlanCall} {ids ids' : TaskIds} {tasks : List Task}

/-- A stage that is read as one kind of output without a look at what it has. -/
def unchecked : PlanCall → Option (InputStage × Partitioning)
  | .plan [s] (.hash _) => some (s, .hash)
  | .plan [s] .range => some (s, .range)
  | .hash s _ => some (s, .hash)
  | .range s => some (s, .range)
  | _ => none

/-- The stage for which a call gives up. Calls that join have one. -/
def refused : PlanCall → Option InputStage
  | .plan stages (.hash maxTasks) => Planner.refused stages maxTasks
  | .join stages maxTasks => Planner.refused stages maxTasks
  | _ => none

/-- Where a call answers, the stages that it reads as the wrong kind are unchecked ones. -/
theorem reads_eq_output_iff (h : call.answer config ids = .ok (tasks, ids')) :
    (∀ s ∈ call.inputs, s.stats.rows ≠ 0 → s.entries ≠ [] → call.reads s = s.output) ↔
      ∀ s kind, call.unchecked = some (s, kind) → s.stats.rows ≠ 0 → s.entries ≠ [] →
        kind = s.output := by
  have hall (hnone : call.unchecked = none) (hreads : ∀ s ∈ call.inputs, call.reads s = s.output) :
      (∀ s ∈ call.inputs, s.stats.rows ≠ 0 → s.entries ≠ [] → call.reads s = s.output) ↔
        ∀ s kind, call.unchecked = some (s, kind) → s.stats.rows ≠ 0 → s.entries ≠ [] →
          kind = s.output := by
    simp only [hnone, reduceCtorEq, false_implies, implies_true, iff_true]
    exact fun s hs _ _ => hreads s hs
  cases call with
  | plan stages mode =>
    cases mode with
    | hash maxTasks =>
      match stages with
      | [] => simp [inputs, unchecked]
      | [s] => simp [inputs, reads, unchecked]
      | s :: s' :: rest =>
        -- A join has looked at every stage before it answers.
        change Planner.join (s :: s' :: rest) maxTasks ids = _ at h
        exact hall rfl fun t ht => (Planner.output_of_join_ok h t ht).symm
    | range =>
      match stages with
      | [] => cases h
      | [s] => simp [inputs, reads, unchecked]
      | s :: s' :: rest => cases h
    | broadcast => exact hall (by simp [unchecked]) fun _ _ => rfl
  | single s maxTasks => exact hall rfl fun _ _ => rfl
  | hash s maxTasks => simp [inputs, reads, unchecked]
  | range s => simp [inputs, reads, unchecked]
  | join stages maxTasks =>
    exact hall rfl fun t ht => (Planner.output_of_join_ok h t ht).symm
  | broadcast stages => exact hall rfl fun _ _ => rfl

/-- A call gives up for the stage that it refuses, and for no other reason that has to do with
how output is partitioned. -/
theorem answer_eq_mismatch_iff {stage : UInt32} {kind : Partitioning} :
    call.answer config ids = .error (.mismatch stage kind) ↔
      kind = .hash ∧ ∃ s, call.refused = some s ∧ s.stage = stage := by
  -- Only joins refuse an input for its kind. Every other entry point never does, and has no such
  -- input.
  have hnever {x : PlanResult} (hx : Unrefusing x) (hnone : call.refused = none) :
      x = .error (.mismatch stage kind) ↔
        kind = .hash ∧ ∃ s, call.refused = some s ∧ s.stage = stage := by
    simp [hnone, hx stage kind]
  cases call with
  | plan stages mode =>
    cases mode with
    | hash maxTasks =>
      match stages with
      | [] =>
        change Planner.join [] maxTasks ids = _ ↔ _
        exact Planner.join_eq_mismatch_iff
      | [s] => exact hnever (Unrefusing.hash s ids maxTasks) rfl
      | s :: s' :: rest =>
        change Planner.join (s :: s' :: rest) maxTasks ids = _ ↔ _
        exact Planner.join_eq_mismatch_iff
    | range =>
      match stages with
      | [] => simp [answer, Planner.plan, refused]
      | [s] => exact hnever (Unrefusing.range config s ids) rfl
      | s :: s' :: rest => simp [answer, Planner.plan, refused]
    | broadcast => exact hnever (Unrefusing.broadcast ids stages) rfl
  | single s maxTasks =>
    refine hnever ?_ rfl
    change Unrefusing (Planner.single config s maxTasks ids)
    unfold Planner.single
    split
    · exact Unrefusing.hash s ids maxTasks
    · exact Unrefusing.range config s ids
  | hash s maxTasks => exact hnever (Unrefusing.hash s ids maxTasks) rfl
  | range s => exact hnever (Unrefusing.range config s ids) rfl
  | join stages maxTasks => exact Planner.join_eq_mismatch_iff
  | broadcast stages => exact hnever (Unrefusing.broadcast ids stages) rfl

/-- What is fetched of stages fits them if none is read as the wrong kind. -/
theorem fits_iff {stages : List InputStage} {fetched : List FetchGroup}
    (h : List.Forall₂ (fun s group => call.fetch config s = .ok group) stages fetched) :
    List.Forall₂ (fun s group => ∀ piece ∈ group, piece.2.request.partitioning = s.output)
        stages fetched ↔
      ∀ s ∈ stages, s.stats.rows ≠ 0 → s.entries ≠ [] → call.reads s = s.output := by
  induction h with
  | nil => simp
  | cons hread hrest ih =>
    rw [List.forall₂_cons, ih, List.forall_mem_cons, InputStage.read_fits_iff hread]

/-- **Fetches of the wrong kind**: what an answer fetches of its stages, stage by stage, asks each
for the kind of output that it has, unless an unchecked stage with output of the other kind is
read. A call is refused over the kind of output exactly if it joins stages some of which have no
hash output. -/
theorem fetches_fit_iff (config : PlannerConfig) (call : PlanCall) (ids : TaskIds) :
    (∀ tasks ids', call.answer config ids = .ok (tasks, ids') →
      ∃ fetched, List.Forall₂ (fun s group => call.fetch config s = .ok group) call.inputs fetched ∧
        (tasks.flatMap Task.tableFetches).Perm fetched.flatten ∧
        (List.Forall₂ (fun s group => ∀ piece ∈ group, piece.2.request.partitioning = s.output)
            call.inputs fetched ↔
          ∀ s kind, call.unchecked = some (s, kind) → s.stats.rows ≠ 0 → s.entries ≠ [] →
            kind = s.output)) ∧
    ∀ stage kind, call.answer config ids = .error (.mismatch stage kind) ↔
      kind = .hash ∧ ∃ s, call.refused = some s ∧ s.stage = stage := by
  refine ⟨?_, fun stage kind => answer_eq_mismatch_iff⟩
  intro tasks ids' h
  -- Dealing only permutes the fetches, so the question is about the fetches of each input.
  obtain ⟨n, groups, fetched, hdealt, hfetched, hperm⟩ := dealt_of_answer_ok h
  refine ⟨fetched, hfetched, (Planner.perm_of_dealOnto_ok hdealt).trans hperm, ?_⟩
  rw [← reads_eq_output_iff h]
  exact fits_iff hfetched

/-- Hash planning over a sorted stage is answered, with fetches that ask the stage for buckets. -/
theorem hash_misreads_sorted_output :
    let s : InputStage :=
      { stage := 2, table := "t", output := .range, sortKeys := ⟨[⟨"k", .int8, true, false⟩]⟩,
        stats := ⟨9, 90, [⟨"k", some (.int8 0), some (.int8 5)⟩]⟩,
        entries := [⟨⟨0, 0⟩, 0, ⟨"a", 1⟩, 90⟩] }
    ∃ tasks ids' fetched, (PlanCall.hash s 2).answer .standard ⟨4, 0⟩ = .ok (tasks, ids') ∧
      (tasks.flatMap Task.tableFetches).Perm (List.flatten fetched) ∧
      ¬List.Forall₂ (fun s group => ∀ piece ∈ group, piece.2.request.partitioning = s.output)
        [s] fetched := by
  intro s
  obtain ⟨tasks, hdealt, -⟩ := Planner.dealOnto_spec Nat.one_pos s.hashGroups ⟨4, 0⟩
  obtain ⟨fetched, -, hperm, hfit⟩ :=
    (fetches_fit_iff .standard (.hash s 2) ⟨4, 0⟩).1 tasks _ hdealt
  refine ⟨tasks, _, fetched, hdealt, hperm, fun hfits => ?_⟩
  cases hfit.mp hfits s .hash rfl (by decide) (List.cons_ne_nil _ _)

end PlanCall

end Shuffle
