import Mathlib
import Shuffle.Proofs.Plan.Cover
import Shuffle.Proofs.Plan.Serving

/-!
# Turning the only sort column around

Parts of a range are cut in value order, whichever way the rows are read. If rows are sorted by one
column alone, turning its direction around leaves the parts as they are: the tasks ask for the same
parts in the opposite order, and only the request that goes on to the end of a file is another one.

- `Planner.range_sortedBy` finds the parts for either direction among those for the upward one.
- `Planner.range_mirrors` is the pair of plans.
-/

namespace Shuffle

/-! ## §1 One column in two directions -/

/-- The stage with its rows sorted by one column alone, upward or downward. -/
def InputStage.sortedBy (s : InputStage) (key : SortKey) (ascending : Bool) : InputStage :=
  { s with sortKeys := ⟨[{ key with ascending }]⟩ }

/-- The same interval of values, with its rows stored in a given direction. -/
def KeyRange.turned (r : KeyRange) (ascending : Bool) : KeyRange := { r with ascending }

/-- The direction of a column has no part in how rows are written. -/
theorem KeySchema.encode_direction (key : SortKey) (ascending ascending' : Bool) (row : Tuple) :
    encode ⟨[{ key with ascending }]⟩ row
      = encode ⟨[{ key with ascending := ascending' }]⟩ row := by
  obtain ⟨values⟩ := row
  cases values <;> rfl

/-- The range of one column has its least and its greatest value for ends. -/
theorem TableStats.keyRange_singleton {stats : TableStats} {key : SortKey} {r : KeyRange} :
    stats.keyRange ⟨[key]⟩ = .ok r ↔
      ∃ low high, stats.bounds key = .ok (low, high) ∧
        r = ⟨⟨[low]⟩, ⟨[high]⟩, key.ascending⟩ := by
  cases hbounds : stats.bounds key with
  | error fault => simp [keyRange, hbounds, bind, Except.bind]
  | ok ends =>
    obtain ⟨low, high⟩ := ends
    simp [keyRange, hbounds, bind, Except.bind, pure, Except.pure, eq_comm]

namespace RangeSplit

/-- The range of one column, which is to be cut. -/
def oneColumn (key : SortKey) (low high : Datum) (ascending : Bool) : RangeSplit :=
  ⟨⟨[{ key with ascending }]⟩, ⟨⟨[low]⟩, ⟨[high]⟩, ascending⟩⟩

/-- Parts in one direction are those in the other, turned. -/
theorem between_eq_map (ascending : Bool) (bounds : List Tuple) :
    between ascending bounds = (between true bounds).map (·.turned ascending) := by
  fun_induction between true bounds with
  | case1 a b rest ih => rw [between, ih, List.map_cons, KeyRange.turned]
  | case2 bounds hshort =>
    rw [between, List.map_nil]
    exact hshort

/-- One column is cut at the same values in both directions: there is nothing behind the first
column that a boundary could take from one end or the other. -/
theorem parts_oneColumn {key : SortKey} {low high : Datum} {ascending : Bool} {n : Nat}
    {parts : List KeyRange} (h : (oneColumn key low high ascending).parts n = .ok parts) :
    ∃ upward, (oneColumn key low high true).parts n = .ok upward ∧
      parts = upward.map (·.turned ascending) := by
  obtain ⟨hn, rfl⟩ := parts_eq_ok_iff.mp h
  refine ⟨_, parts_eq_ok_iff.mpr ⟨hn, rfl⟩, ?_⟩
  have hbounds : (oneColumn key low high ascending).boundaries
      (min (oneColumn key low high ascending).width n)
        = (oneColumn key low high true).boundaries
          (min (oneColumn key low high true).width n) := by
    cases ascending <;> rfl
  rw [hbounds]
  exact between_eq_map ascending _

end RangeSplit

/-! ## §2 One stage in two directions -/

namespace InputStage

variable {s : InputStage} {key : SortKey} {ascending : Bool}

/-- A stage that can be cut and asked for in one direction can be so in the other. -/
theorem Spans.turned {r : KeyRange} (h : (s.sortedBy key ascending).Spans r) (ascending' : Bool) :
    (s.sortedBy key ascending').Spans (r.turned ascending') := by
  obtain ⟨hrange, ⟨split, hsplit⟩, ⟨start, hstart⟩, stop, hstop⟩ := h
  obtain ⟨low, high, hbounds, rfl⟩ := TableStats.keyRange_singleton.mp hrange
  obtain ⟨-, -, hchecks⟩ := RangeSplit.make_eq_ok_iff.mp hsplit
  refine ⟨?keyRange, ?make, ⟨start, ?low⟩, stop, ?high⟩
  case keyRange => exact TableStats.keyRange_singleton.mpr ⟨low, high, hbounds, rfl⟩
  case make => exact ⟨_, RangeSplit.make_eq_ok_iff.mpr ⟨rfl, List.cons_ne_nil _ _, hchecks⟩⟩
  case low => exact (KeySchema.encode_direction key ascending' ascending _).trans hstart
  case high => exact (KeySchema.encode_direction key ascending' ascending _).trans hstop

/-- Whether a stage can be split does not depend on its direction. -/
theorem exists_spans_sortedBy (s : InputStage) (key : SortKey) :
    (∃ r, (s.sortedBy key true).Spans r) ↔ ∃ r, (s.sortedBy key false).Spans r := by
  constructor
  · rintro ⟨r, h⟩
    exact ⟨_, h.turned false⟩
  · rintro ⟨r, h⟩
    exact ⟨_, h.turned true⟩

/-- What is asked for a part does not depend on the direction. -/
theorem fetchesPart_turned {part : KeyRange} {final : Bool} {t : Task} (ascending' : Bool) :
    (s.sortedBy key ascending).FetchesPart (part.turned ascending') final t ↔
      (s.sortedBy key true).FetchesPart part final t := by
  unfold FetchesPart sortedBy
  rw [KeySchema.encode_direction key ascending true, KeySchema.encode_direction key ascending true]
  rfl

end InputStage

/-- A plan in either direction has one task for each part of the upward range. In value order, they
are the tasks for these parts, and the part that is read last is the final one. -/
theorem Planner.range_sortedBy {config : PlannerConfig} {s : InputStage} {key : SortKey}
    {ascending : Bool} {ids ids' : TaskIds} {tasks : List Task} (hrows : s.isEmpty = false)
    (h : range config (s.sortedBy key ascending) ids = .ok (tasks, ids')) :
    ∃ low high parts, s.stats.bounds key = .ok (low, high) ∧
      (RangeSplit.oneColumn key low high true).parts
        (min (RangeSplit.oneColumn key low high true).cardinality
          (rangeTasks config s.stats.bytes.toNat)) = .ok parts ∧
      RangeSplit.Cover ⟨⟨[low]⟩, ⟨[high]⟩, true⟩ parts ∧ tasks.length = parts.length ∧
      ∀ (i : Nat) (part : KeyRange) (t : Task), parts[i]? = some part →
        (Task.inValueOrder ascending tasks)[i]? = some t →
          (s.sortedBy key true).FetchesPart part
            (InputStage.isFinal ascending parts.length i) t := by
  obtain ⟨r, split, parts, hrange, hsplit, hparts, hlength, hfetches⟩ :=
    range_parts (s := s.sortedBy key ascending) hrows h
  obtain ⟨low, high, hbounds, rfl⟩ := TableStats.keyRange_singleton.mp hrange
  obtain ⟨rfl, -, -, -, -, horder⟩ := RangeSplit.make_eq_ok_iff.mp hsplit
  -- The parts are those of the ascending split, each turned.
  obtain ⟨upward, hupward, rfl⟩ := RangeSplit.parts_oneColumn hparts
  have hcover : RangeSplit.Cover ⟨⟨[low]⟩, ⟨[high]⟩, true⟩ upward := by
    obtain ⟨-, rfl⟩ := RangeSplit.parts_eq_ok_iff.mp hupward
    exact RangeSplit.cover_between (s := RangeSplit.oneColumn key low high true) horder _
  rw [List.length_map] at hlength hfetches
  refine ⟨low, high, upward, hbounds, ?_, hcover, hlength, ?_⟩
  · -- Keys are counted without regard to their direction.
    exact hupward
  · intro i part t hpart ht
    have hturned : (upward.map (·.turned ascending))[i]? = some (part.turned ascending) := by
      rw [List.getElem?_map, hpart, Option.map_some]
    exact (InputStage.fetchesPart_turned ascending).mp (hfetches i _ t hturned ht)

/-! ## §3 The two plans -/

/-- A request without the mark of the range that goes on to the end of the file. -/
def FetchRequest.unmarked (request : FetchRequest) : FetchRequest :=
  match request.kind with
  | .hash => request
  | .range start stop _ => { request with kind := .range start stop false }

/-- What a task fetches, without the marks of final ranges. -/
def Task.unmarked (t : Task) : List TableFetch :=
  t.tableFetches.map fun (table, d) => (table, { d with request := d.request.unmarked })

/-- Without its mark, what a task fetches for a part is what the part says. -/
theorem InputStage.FetchesPart.unmarked_eq {s : InputStage} {part : KeyRange}
    {final final' : Bool} {t t' : Task} (h : s.FetchesPart part final t)
    (h' : s.FetchesPart part final' t') : t.unmarked = t'.unmarked := by
  obtain ⟨start, stop, hstart, hstop, hfetches⟩ := h
  obtain ⟨start', stop', hstart', hstop', hfetches'⟩ := h'
  obtain rfl := Except.ok.inj (hstart.symm.trans hstart')
  obtain rfl := Except.ok.inj (hstop.symm.trans hstop')
  rw [Task.unmarked, Task.unmarked, hfetches, hfetches', rangeGroup, rangeGroup, pieces, pieces,
    List.map_map, List.map_map]
  rfl

/-- How the plans for the two directions of a column go together, with the parts of the range in
value order. -/
structure Mirrored (s : InputStage) (parts : List KeyRange) (up down : List Task) : Prop where
  length_up : up.length = parts.length
  length_down : down.length = parts.length
  /-- The tasks of one plan fetch what those of the other fetch in reverse, up to marks. -/
  reversed : down.map Task.unmarked = (up.map Task.unmarked).reverse
  /-- Upward, the part of the greatest values alone is marked as final. -/
  fetches_up : ∀ (i : Nat) (part : KeyRange) (t : Task), parts[i]? = some part →
    up[i]? = some t → s.FetchesPart part (i + 1 == parts.length) t
  /-- Downward, the part of the least values alone is. -/
  fetches_down : ∀ (i : Nat) (part : KeyRange) (t : Task), parts[i]? = some part →
    down.reverse[i]? = some t → s.FetchesPart part (i == 0) t

/-- Tasks that fetch the same parts fetch the same, up to marks. -/
private theorem map_unmarked_eq {s : InputStage} {parts : List KeyRange} {final final' : Nat → Bool}
    {tasks tasks' : List Task} (hlength : tasks.length = parts.length)
    (hlength' : tasks'.length = parts.length)
    (h : ∀ (i : Nat) (part : KeyRange) (t : Task), parts[i]? = some part → tasks[i]? = some t →
      s.FetchesPart part (final i) t)
    (h' : ∀ (i : Nat) (part : KeyRange) (t : Task), parts[i]? = some part → tasks'[i]? = some t →
      s.FetchesPart part (final' i) t) :
    tasks.map Task.unmarked = tasks'.map Task.unmarked := by
  -- Task by task: what both fetch of a part differs in the mark alone.
  apply List.ext_getElem
  · rw [List.length_map, List.length_map, hlength, hlength']
  · intro i hi hi'
    rw [List.length_map] at hi hi'
    rw [List.getElem_map, List.getElem_map]
    have hpart : parts[i]? = some parts[i] := List.getElem?_eq_getElem (hlength ▸ hi)
    exact (h i _ _ hpart (List.getElem?_eq_getElem hi)).unmarked_eq
      (h' i _ _ hpart (List.getElem?_eq_getElem hi'))

namespace Planner

/-- **Turning the direction around turns the plan around.** A stage with rows that is sorted by one
column can be planned in sub-ranges upward exactly if it can be downward. Then both plans have a
task for each part of one cover of the range: the same but for the marks of final ranges, in
opposite orders. -/
theorem range_mirrors (config : PlannerConfig) (s : InputStage) (key : SortKey)
    (ids ids' : TaskIds) (hrows : s.stats.rows ≠ 0) :
    ((∃ plan, range config (s.sortedBy key true) ids = .ok plan) ↔
      ∃ plan, range config (s.sortedBy key false) ids' = .ok plan) ∧
    ∀ up down free free', range config (s.sortedBy key true) ids = .ok (up, free) →
      range config (s.sortedBy key false) ids' = .ok (down, free') →
        ∃ r parts, s.stats.keyRange (s.sortedBy key true).sortKeys = .ok r ∧
          RangeSplit.Cover r parts ∧ Mirrored (s.sortedBy key true) parts up down := by
  have hempty : s.isEmpty = false := beq_eq_false_iff_ne.mpr hrows
  constructor
  · rw [range_ok_iff_spans (s := s.sortedBy key true) config hempty,
      range_ok_iff_spans (s := s.sortedBy key false) config hempty]
    exact s.exists_spans_sortedBy key
  · intro up down free free' hup hdown
    obtain ⟨low, high, parts, hbounds, hparts, hcover, hlength, hfetches⟩ :=
      range_sortedBy hempty hup
    obtain ⟨low', high', parts', hbounds', hparts', -, hlength', hfetches'⟩ :=
      range_sortedBy hempty hdown
    -- Both plans cut the same range into the same parts.
    obtain ⟨rfl, rfl⟩ := Prod.mk.inj (Except.ok.inj (hbounds.symm.trans hbounds'))
    obtain rfl := Except.ok.inj (hparts.symm.trans hparts')
    refine ⟨_, parts, TableStats.keyRange_singleton.mpr ⟨low, high, hbounds, rfl⟩, hcover,
      hlength, hlength', ?reversed, hfetches, hfetches'⟩
    case reversed =>
      have hsame : up.map Task.unmarked = down.reverse.map Task.unmarked :=
        map_unmarked_eq hlength (List.length_reverse.trans hlength') hfetches hfetches'
      rw [hsame, List.map_reverse, List.reverse_reverse]

/-- A stage of 3 MiB with three values in its column, the least in a narrower width than the
greatest. Two attempts ran on one host, and a third one ran on another host. -/
def narrowStage : InputStage :=
  { stage := 3, table := "t", output := .range,
    stats := ⟨9, 3 * 2 ^ 20, [⟨"k", some (.int4 1), some (.int8 3)⟩]⟩,
    entries := [⟨⟨1, 0⟩, 0, ⟨"b", 1⟩, 8⟩, ⟨⟨2, 1⟩, 0, ⟨"a", 1⟩, 4⟩, ⟨⟨0, 0⟩, 0, ⟨"a", 1⟩, 8⟩] }

/-- The column of this stage. -/
def narrowKey : SortKey := ⟨"k", .int8, true, true⟩

/-- The plans of this stage have three tasks each. The part of the greatest value begins where it
ends. -/
theorem range_mirrors_narrow :
    ∃ up down free free' parts,
      range ⟨1, 8⟩ (narrowStage.sortedBy narrowKey true) ⟨4, 0⟩ = .ok (up, free) ∧
      range ⟨1, 8⟩ (narrowStage.sortedBy narrowKey false) ⟨4, 7⟩ = .ok (down, free') ∧
      parts.length = 3 ∧ Mirrored (narrowStage.sortedBy narrowKey true) parts up down := by
  have hspans : (narrowStage.sortedBy narrowKey true).Spans ⟨⟨[.int4 1]⟩, ⟨[.int8 3]⟩, true⟩ :=
    { keyRange := by decide +kernel
      make := ⟨RangeSplit.oneColumn narrowKey (.int4 1) (.int8 3) true, by decide +kernel⟩
      low := ⟨[0, 0, 0, 0, 0, 0, 0, 0, 1], by decide +kernel⟩
      high := ⟨[0, 0, 0, 0, 0, 0, 0, 0, 3], by decide +kernel⟩ }
  have hup := (range_ok_iff_spans ⟨1, 8⟩ (by decide) ⟨4, 0⟩).mpr ⟨_, hspans⟩
  obtain ⟨hiff, hmirrors⟩ := range_mirrors ⟨1, 8⟩ narrowStage narrowKey ⟨4, 0⟩ ⟨4, 7⟩ (by decide)
  -- Both plans are made, and the theorem compares them.
  obtain ⟨⟨up, free⟩, hup⟩ := hup
  obtain ⟨⟨down, free'⟩, hdown⟩ := hiff.mp ⟨_, hup⟩
  obtain ⟨r, parts, -, -, hmirrored⟩ := hmirrors up down free free' hup hdown
  refine ⟨up, down, free, free', parts, hup, hdown, ?_, hmirrored⟩
  obtain ⟨low, high, cut, hbounds, hcut, -, hlength, -⟩ := range_sortedBy (by decide) hup
  obtain ⟨rfl, rfl⟩ : low = .int4 1 ∧ high = .int8 3 := by
    have hends : narrowStage.stats.bounds narrowKey = .ok (.int4 1, .int8 3) := by decide +kernel
    exact Prod.mk.inj (Except.ok.inj (hbounds.symm.trans hends))
  -- There are three parts, although the bounds differ in their width.
  have hthree : (RangeSplit.oneColumn narrowKey (.int4 1) (.int8 3) true).parts
      (min (RangeSplit.oneColumn narrowKey (.int4 1) (.int8 3) true).cardinality
        (rangeTasks ⟨1, 8⟩ narrowStage.stats.bytes.toNat))
      = .ok [⟨⟨[.int4 1]⟩, ⟨[.int4 2]⟩, true⟩, ⟨⟨[.int4 2]⟩, ⟨[.int4 3]⟩, true⟩,
        ⟨⟨[.int4 3]⟩, ⟨[.int8 3]⟩, true⟩] := by
    decide +kernel
  obtain rfl := Except.ok.inj (hthree.symm.trans hcut)
  exact hmirrored.length_up.symm.trans hlength

end Planner

end Shuffle
