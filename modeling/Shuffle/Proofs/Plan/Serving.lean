import Mathlib
import Shuffle.Proofs.Plan.Deal
import Shuffle.Proofs.Plan.Ranges
import Shuffle.Proofs.Plan.Stage

/-!
# Tasks that serve a route

A plan over sorted output has one task for each ask of a route. For the host of an entry each task
has one piece, which carries the ask and names the entry's attempt, so the tasks in their order
take every host along the same route.

- `Planner.range_deals` and `Planner.range_serves` are about the plan with one task for each
  sub-range, and `Planner.range_parts` finds the parts of the range in its tasks.
- `Planner.broadcast_eq_ok` and `Planner.broadcast_serves` are about the plan with one task for
  everything.
- `Planner.range_ok_iff_spans` and `Planner.broadcast_ok_iff`: both can be made of the same stages.
-/

namespace Shuffle

/-- The only piece that a task has for the host of an entry carries an ask, and names the entry's
attempt once. -/
def InputStage.Serves (s : InputStage) (e : OutputEntry) (t : Task) (ask : RangeAsk) : Prop :=
  ∃ d, t.pieces.filter (·.address = e.address) = [d] ∧ d.request.stage = s.stage ∧
    d.request.kind = ask.kind ∧ d.request.attempts.count e.attempt = 1

/-- A group asks each host with an entry once, for all attempts that reported an entry from
there. -/
structure InputStage.AsksHosts (s : InputStage) (ask : RangeAsk) (group : FetchGroup) : Prop where
  once : (group.map (·.2.address)).Nodup
  hosts : ∀ address, address ∈ group.map (·.2.address) ↔ ∃ e ∈ s.entries, e.address = address
  request : ∀ piece ∈ group, piece.1 = s.table ∧ piece.2.request.stage = s.stage ∧
    piece.2.request.kind = ask.kind
  attempts : ∀ piece ∈ group, piece.2.request.attempts.Nodup ∧ ∀ attempt,
    attempt ∈ piece.2.request.attempts ↔
      ∃ e ∈ s.entries, e.address = piece.2.address ∧ e.attempt = attempt

/-- The task fetches one part of the stage's rows from every host, and goes on to the end of the
file if the part is final. -/
def InputStage.FetchesPart (s : InputStage) (part : KeyRange) (final : Bool) (t : Task) : Prop :=
  ∃ start stop, s.sortKeys.encode part.low = .ok start ∧ s.sortKeys.encode part.high = .ok stop ∧
    t.tableFetches = s.rangeGroup start stop final

/-- Tasks that are listed in reading order, in value order. -/
def Task.inValueOrder (ascending : Bool) (tasks : List Task) : List Task :=
  if ascending then tasks else tasks.reverse

namespace InputStage

variable {s : InputStage}

/-- A task that has the fetches of a part serves every entry of the stage. -/
theorem serves_of_perm {e : OutputEntry} (he : e ∈ s.entries) {t : Task} {ask : RangeAsk}
    (h : t.tableFetches.Perm (s.askGroup ask)) : s.Serves e t ask := by
  have hfilter := (Task.pieces_perm h).filter fun d => d.address = e.address
  rw [List.filter_map] at hfilter
  have hone := congrArg (List.map (·.2)) (s.filter_pieces
    (fun attempts => FetchRequest.range s.stage attempts ask.start ask.stop ask.final) he)
  refine ⟨_, List.perm_singleton.mp (hfilter.trans (List.Perm.of_eq hone)), rfl, rfl, ?_⟩
  simp only [FetchRequest.range, toSet_attemptsAt]
  exact count_attemptsAt he

/-- A piece of an ask belongs to a host with an entry. -/
theorem mem_askGroup {ask : RangeAsk} {piece : TableFetch} :
    piece ∈ s.askGroup ask ↔ ∃ e ∈ s.entries,
      piece = (s.table, ⟨e.address, FetchRequest.range s.stage (attemptsAt s.entries e.address)
        ask.start ask.stop ask.final⟩) := by
  rw [askGroup, rangeGroup]
  exact mem_pieces

/-- The fetches of a part ask each host once. -/
theorem asksHosts_askGroup (s : InputStage) (ask : RangeAsk) :
    s.AsksHosts ask (s.askGroup ask) := by
  refine ⟨?once, ?hosts, ?request, ?attempts⟩
  case once =>
    -- The hosts of a group are a set.
    rw [askGroup, rangeGroup]
    exact s.nodup_addresses_pieces _ _
  case hosts =>
    intro address
    rw [List.mem_map]
    constructor
    · rintro ⟨piece, hmem, rfl⟩
      obtain ⟨e, he, rfl⟩ := mem_askGroup.mp hmem
      exact ⟨e, he, rfl⟩
    · rintro ⟨e, he, rfl⟩
      exact ⟨_, mem_askGroup.mpr ⟨e, he, rfl⟩, rfl⟩
  case request =>
    intro piece hmem
    obtain ⟨e, -, rfl⟩ := mem_askGroup.mp hmem
    exact ⟨rfl, rfl, rfl⟩
  case attempts =>
    intro piece hmem
    obtain ⟨e, -, rfl⟩ := mem_askGroup.mp hmem
    simp only [FetchRequest.range, toSet_attemptsAt]
    exact ⟨Ordered.nodup_toSet Ordered.linear_attempt _, fun attempt => mem_attemptsAt⟩

/-- Groups that are dealt onto as many tasks are dealt one to each, in their order. -/
theorem tableFetches_of_dealOnto_ok {asks : List RangeAsk} {ids ids' : TaskIds} {tasks : List Task}
    (h : Planner.dealOnto asks.length (asks.map s.askGroup) ids = .ok (tasks, ids')) :
    List.Forall₂ (fun t ask => t.tableFetches = s.askGroup ask) tasks asks := by
  rw [List.forall₂_iff_get]
  refine ⟨Planner.length_of_dealOnto_ok h, ?_⟩
  intro j hj hj'
  -- There are as many tasks as groups, so task `j` is dealt group `j` alone.
  obtain ⟨id, ht⟩ := Planner.eq_addGroup_of_dealOnto_ok h (List.getElem?_eq_getElem hj)
  have hgroup : (asks.map s.askGroup)[j]? = some (s.askGroup (asks.get ⟨j, hj'⟩)) := by
    rw [List.getElem?_map, List.getElem?_eq_getElem hj']
    rfl
  have hshort : 0 + (asks.map s.askGroup).length ≤ asks.length := by simp
  have hown := Task.share_eq_group hgroup hshort
  rw [Nat.zero_add] at hown
  rw [List.get_eq_getElem, ht, hown]
  exact Task.tableFetches_addGroup_of_table fun piece hpiece =>
    ((s.asksHosts_askGroup _).request piece hpiece).1

/-- Tasks for parts in reading order are in value order the tasks for parts in value order. -/
private theorem forall₂_inValueOrder {R : Task → RangeAsk → Prop} {ascending : Bool}
    {tasks : List Task} {ends : List (KeyRange × Bytes × Bytes)}
    (h : List.Forall₂ R tasks (readingOrder ascending ends)) :
    List.Forall₂ R (Task.inValueOrder ascending tasks)
      (ends.zipIdx.map (ask ascending ends.length)) := by
  unfold readingOrder at h
  unfold Task.inValueOrder
  cases ascending with
  | true => exact h
  | false =>
    rw [if_neg Bool.false_ne_true] at h ⊢
    rw [← List.forall₂_reverse_iff, List.reverse_reverse]
    exact h

end InputStage

namespace Planner

variable {config : PlannerConfig} {s : InputStage} {inputs : List InputStage} {ids ids' : TaskIds}
  {tasks : List Task}

/-- Only a stage without rows is planned without tasks. -/
theorem isEmpty_of_range (h : range config s ids = .ok (tasks, ids')) (htasks : tasks ≠ []) :
    s.isEmpty = false := by
  cases hempty : s.isEmpty with
  | false => rfl
  | true =>
    rw [range, if_pos hempty] at h
    cases h
    exact absurd rfl htasks

/-- A plan over sub-ranges deals each of its groups onto a task. -/
theorem dealOnto_of_range_ok (hrows : s.isEmpty = false)
    (h : range config s ids = .ok (tasks, ids')) :
    ∃ groups, s.rangeGroups (rangeTasks config s.stats.bytes.toNat) = .ok groups ∧
      dealOnto groups.length groups ids = .ok (tasks, ids') := by
  rw [range, hrows, if_neg Bool.false_ne_true] at h
  exact Fallible.bind_eq_ok.mp h

/-- A plan over sub-ranges has one task for each ask of a route through the range. -/
theorem range_deals (hrows : s.isEmpty = false) (h : range config s ids = .ok (tasks, ids')) :
    ∃ r asks, s.stats.keyRange s.sortKeys = .ok r ∧
      Route s.sortKeys true r.first r.last asks ∧
      List.Forall₂ (fun t ask => t.tableFetches.Perm (s.askGroup ask)) tasks asks := by
  obtain ⟨groups, hgroups, hdealt⟩ := dealOnto_of_range_ok hrows h
  obtain ⟨r, asks, hrange, hroute, -, rfl⟩ := InputStage.rangeGroups_route hgroups
  rw [List.length_map] at hdealt
  exact ⟨r, asks, hrange, hroute,
    (InputStage.tableFetches_of_dealOnto_ok hdealt).imp fun _ _ => List.Perm.of_eq⟩

/-- Each task of a plan over sub-ranges fetches one part of the range. In value order, the tasks are
those for the parts of the split, and the part that is read last is the final one. -/
theorem range_parts (hrows : s.isEmpty = false) (h : range config s ids = .ok (tasks, ids')) :
    ∃ r split parts, s.stats.keyRange s.sortKeys = .ok r ∧
      RangeSplit.make s.sortKeys r = .ok split ∧
      split.parts (min split.cardinality (rangeTasks config s.stats.bytes.toNat)) = .ok parts ∧
      tasks.length = parts.length ∧
      ∀ (i : Nat) (part : KeyRange) (t : Task), parts[i]? = some part →
        (Task.inValueOrder r.ascending tasks)[i]? = some t →
          s.FetchesPart part (InputStage.isFinal r.ascending parts.length i) t := by
  obtain ⟨groups, hgroups, hdealt⟩ := dealOnto_of_range_ok hrows h
  obtain ⟨r, split, parts, ends, hrange, hsplit, hparts, hends, rfl⟩ :=
    InputStage.rangeGroups_inv hgroups
  rw [List.length_map] at hdealt
  have hfetches := InputStage.tableFetches_of_dealOnto_ok hdealt
  have hlength := hfetches.length_eq
  rw [InputStage.length_readingOrder, ← hends.length_eq] at hlength
  refine ⟨r, split, parts, hrange, hsplit, hparts, hlength, ?_⟩
  intro i part t hpart ht
  obtain ⟨e, he, hencoded⟩ := Fallible.getElem?_of_mapM (Fallible.mapM_eq_ok.mpr hends) hpart
  obtain ⟨start, stop, hstart, hstop, rfl⟩ := InputStage.encodeEnds_eq_ok.mp hencoded
  refine ⟨start, stop, hstart, hstop, ?_⟩
  -- The task with the index of the part has its ask.
  have hask : (ends.zipIdx.map (InputStage.ask r.ascending ends.length))[i]?
      = some ⟨start, stop, InputStage.isFinal r.ascending parts.length i⟩ := by
    rw [List.getElem?_map, List.getElem?_zipIdx, he, hends.length_eq, Nat.zero_add]
    rfl
  obtain ⟨hi, rfl⟩ := List.getElem?_eq_some_iff.mp ht
  obtain ⟨hi', hask⟩ := List.getElem?_eq_some_iff.mp hask
  have hfetch := (InputStage.forall₂_inValueOrder hfetches).get hi hi'
  rw [List.get_eq_getElem, List.get_eq_getElem, hask] at hfetch
  exact hfetch

/-- Each host is taken along the route. -/
theorem range_serves (hrows : s.isEmpty = false) (h : range config s ids = .ok (tasks, ids')) :
    ∃ r asks, s.stats.keyRange s.sortKeys = .ok r ∧
      Route s.sortKeys true r.first r.last asks ∧
      ∀ e ∈ s.entries, List.Forall₂ (s.Serves e) tasks asks := by
  obtain ⟨r, asks, hrange, hroute, hperm⟩ := range_deals hrows h
  exact ⟨r, asks, hrange, hroute,
    fun e he => hperm.imp fun t ask => InputStage.serves_of_perm he⟩

/-- A plan that reads stages whole deals the groups of those with rows onto one task, if there are
any. -/
theorem broadcast_eq_ok :
    broadcast inputs ids = .ok (tasks, ids') ↔ inputs ≠ [] ∧ ∃ gss,
      List.Forall₂ (fun s gs => wholeGroups s = .ok gs) (inputs.filter (!·.isEmpty)) gss ∧
        dealOnto (if gss.flatten.isEmpty then 0 else 1) gss.flatten ids = .ok (tasks, ids') := by
  unfold broadcast
  simp only [← dealOnto_of_isEmpty]
  cases inputs with
  | nil => simp
  | cons s rest =>
    rw [List.isEmpty_cons, if_neg Bool.false_ne_true, Fallible.bind_eq_ok]
    simp only [Fallible.mapM_eq_ok, ne_eq, List.cons_ne_nil, not_false_eq_true, true_and]
    rfl

/-- A plan over one stage read whole. -/
theorem broadcast_serves (hrows : s.isEmpty = false) (houtput : s.output = .range)
    (h : broadcast [s] ids = .ok (tasks, ids')) :
    ∃ r ask, s.stats.keyRange s.sortKeys = .ok r ∧
      Route s.sortKeys true r.first r.last [ask] ∧
      ∀ e ∈ s.entries, List.Forall₂ (s.Serves e) tasks [ask] := by
  obtain ⟨-, gss, hgss, hdealt⟩ := broadcast_eq_ok.mp h
  rw [List.filter_cons_of_pos (by simp [hrows]), List.filter_nil] at hgss
  obtain ⟨groups, _, hgroups, hrest, rfl⟩ := List.forall₂_cons_left_iff.mp hgss
  cases hrest
  rw [wholeGroups, houtput] at hgroups
  obtain ⟨r, asks, hrange, hroute, hone, rfl⟩ := InputStage.rangeGroups_route hgroups
  -- One sub-range was wanted, and a final route has an ask.
  obtain ⟨ask, rfl⟩ : ∃ ask, asks = [ask] :=
    List.length_eq_one_iff.mp (Nat.le_antisymm hone hroute.length_pos)
  have hfetches : List.Forall₂ (fun t ask => t.tableFetches = s.askGroup ask) tasks [ask] :=
    InputStage.tableFetches_of_dealOnto_ok hdealt
  exact ⟨r, ask, hrange, hroute, fun e he => hfetches.imp fun t ask heq =>
    InputStage.serves_of_perm he (List.Perm.of_eq heq)⟩

/-- However little there is to read, a task is wanted. -/
theorem rangeTasks_pos (config : PlannerConfig) (bytes : Nat) : 0 < rangeTasks config bytes :=
  Nat.le_max_left 1 _

/-- A plan in sub-ranges can be made of any stage whose range can be cut and encoded. -/
theorem range_ok_iff_spans (config : PlannerConfig) (hrows : s.isEmpty = false) (ids : TaskIds) :
    (∃ plan, range config s ids = .ok plan) ↔ ∃ r, s.Spans r := by
  have hwanted := rangeTasks_pos config s.stats.bytes.toNat
  rw [← InputStage.rangeGroups_ok_iff hwanted, range, hrows, if_neg Bool.false_ne_true]
  constructor
  · rintro ⟨plan, h⟩
    obtain ⟨groups, hgroups, -⟩ := Fallible.bind_eq_ok.mp h
    exact ⟨groups, hgroups⟩
  · rintro ⟨groups, hgroups⟩
    -- There is an ask at least, so there is a task to deal groups onto.
    obtain ⟨r, asks, -, hroute, -, rfl⟩ := InputStage.rangeGroups_route hgroups
    have hpos : 0 < (asks.map s.askGroup).length := by
      rw [List.length_map]
      exact hroute.length_pos
    obtain ⟨tasks, hdealt, -⟩ := dealOnto_spec hpos (asks.map s.askGroup) ids
    exact ⟨_, Fallible.bind_eq_ok.mpr ⟨_, hgroups, hdealt⟩⟩

/-- A plan that reads stages whole can be made if the range of each stage that is sorted and has
rows can be cut and encoded. -/
theorem broadcast_ok_iff (ids : TaskIds) :
    (∃ plan, broadcast inputs ids = .ok plan) ↔ inputs ≠ [] ∧
      ∀ s ∈ inputs, s.isEmpty = false → s.output = .range → ∃ r, s.Spans r := by
  have hgroups : (∃ gss, List.Forall₂ (fun s gs => wholeGroups s = .ok gs)
      (inputs.filter (!·.isEmpty)) gss) ↔
      ∀ s ∈ inputs, s.isEmpty = false → s.output = .range → ∃ r, s.Spans r := by
    simp only [← Fallible.mapM_eq_ok, Fallible.mapM_ok_iff, List.mem_filter, and_imp,
      Bool.not_eq_true']
    refine forall₃_congr fun s _ _ => ?_
    -- Hash output can always be read.
    unfold wholeGroups
    cases s.output with
    | hash => simp
    | range => simp [← InputStage.rangeGroups_ok_iff Nat.one_pos]
  rw [← hgroups, Prod.exists]
  simp only [broadcast_eq_ok]
  constructor
  · rintro ⟨tasks, ids', hsome, gss, hgss, -⟩
    exact ⟨hsome, gss, hgss⟩
  · rintro ⟨hsome, gss, hgss⟩
    -- Groups can be dealt if there is a task for them.
    cases hempty : gss.flatten with
    | nil => exact ⟨[], ids, hsome, gss, hgss, by rw [hempty]; exact dealOnto_nil ids⟩
    | cons group rest =>
      obtain ⟨tasks, hdealt, -⟩ := dealOnto_spec Nat.one_pos gss.flatten ids
      exact ⟨tasks, _, hsome, gss, hgss, by rw [hempty] at hdealt ⊢; exact hdealt⟩

/-- A sorted input is broadcast under the same conditions under which it is split. -/
theorem broadcast_ok_iff_spans (hrows : s.isEmpty = false) (houtput : s.output = .range)
    (ids : TaskIds) : (∃ plan, broadcast [s] ids = .ok plan) ↔ ∃ r, s.Spans r := by
  rw [broadcast_ok_iff]
  simp [hrows, houtput]

/-- A stage with rows is planned with a task. -/
theorem ne_nil_of_range (hrows : s.isEmpty = false) (h : range config s ids = .ok (tasks, ids')) :
    tasks ≠ [] := by
  obtain ⟨r, asks, -, hroute, hperm⟩ := range_deals hrows h
  exact List.ne_nil_of_length_pos (hperm.length_eq ▸ hroute.length_pos)

end Planner

end Shuffle
