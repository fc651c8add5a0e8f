import Mathlib
import Shuffle.Proofs.Plan.Serving

/-!
# Planned ranges tile the keys

The tasks of a plan over sorted output ask for ranges that follow each other in reading order, from
the end of the statistics that is read first to the one read last, and the last task alone goes on
to the end of the file. Each task asks every host once, for all attempts there.

- `Tiling` is what the asks of the tasks are together, and `Route.tiling` finds it in a route.
- `InputStage.ReadsRange` is what one task fetches.
- `Planner.range_tiles_keys` is the plan.
-/

namespace Shuffle

/-! ## §1 Ranges that follow each other -/

namespace RangeAsk

/-- The key at which reading begins. In descending order that is the one a request ends with. -/
def firstRead (ask : RangeAsk) (schema : KeySchema) : Except KeyError Tuple :=
  schema.decode (if schema.ascendsFirst then ask.start else ask.stop)

/-- The key at which reading ends. -/
def lastRead (ask : RangeAsk) (schema : KeySchema) : Except KeyError Tuple :=
  schema.decode (if schema.ascendsFirst then ask.stop else ask.start)

/-- The keys of an ask are those that the service reads, in its order. -/
theorem reads_of_readKeys {schema : KeySchema} {start stop : Bytes} {a b : Tuple}
    (h : FileChunk.readKeys schema start stop = .ok (a, b)) (final : Bool) :
    (RangeAsk.mk start stop final).firstRead schema = .ok a ∧
      (RangeAsk.mk start stop final).lastRead schema = .ok b := by
  obtain ⟨low, hlow, h⟩ := Fallible.bind_eq_ok.mp h
  obtain ⟨high, hhigh, h⟩ := Fallible.bind_eq_ok.mp h
  replace hlow := Fallible.mapError_eq_ok.mp hlow
  replace hhigh := Fallible.mapError_eq_ok.mp hhigh
  -- The service swaps the keys by the same test.
  unfold firstRead lastRead
  split_ifs at h ⊢
  · cases h
    exact ⟨hlow, hhigh⟩
  · cases h
    exact ⟨hhigh, hlow⟩

end RangeAsk

/-- Ranges of keys in the order of the schema, each beginning at the key where the one before it
ends. Only the last one is final. -/
structure Tiling (schema : KeySchema) (first last : Tuple) (asks : List RangeAsk) : Prop where
  begins : ∃ ask, asks.head? = some ask ∧ ask.firstRead schema = .ok first
  ends : ∃ ask, asks.getLast? = some ask ∧ ask.lastRead schema = .ok last
  ordered : ∀ ask ∈ asks, ∃ a b, ask.firstRead schema = .ok a ∧ ask.lastRead schema = .ok b ∧
    (schema.compare a b).isLE
  contiguous : asks.IsChain fun x y => x.lastRead schema = y.firstRead schema
  final : ∃ front ask, asks = front ++ [ask] ∧ ask.final = true ∧ ∀ x ∈ front, x.final = false

namespace Tiling

variable {schema : KeySchema} {a b c : Tuple} {ask : RangeAsk} {rest : List RangeAsk}

/-- One request tiles what lies between its keys. -/
theorem singleton (hfirst : ask.firstRead schema = .ok a) (hlast : ask.lastRead schema = .ok b)
    (hle : (schema.compare a b).isLE) (hfinal : ask.final = true) : Tiling schema a b [ask] where
  begins := ⟨ask, rfl, hfirst⟩
  ends := ⟨ask, rfl, hlast⟩
  ordered := List.forall_mem_singleton.mpr ⟨a, b, hfirst, hlast, hle⟩
  contiguous := List.isChain_singleton ask
  final := ⟨[], ask, rfl, hfinal, by simp⟩

/-- A request in front of a tiling goes on from where that one begins. -/
theorem cons (hfirst : ask.firstRead schema = .ok a) (hlast : ask.lastRead schema = .ok b)
    (hle : (schema.compare a b).isLE) (hfinal : ask.final = false)
    (h : Tiling schema b c rest) : Tiling schema a c (ask :: rest) := by
  obtain ⟨next, hnext, hbegins⟩ := h.begins
  obtain ⟨z, hz, hends⟩ := h.ends
  obtain ⟨front, final, hsplit, hlastFinal, hfront⟩ := h.final
  refine ⟨⟨ask, rfl, hfirst⟩, ?ends, ?ordered, ?contiguous, ?final⟩
  case ends => exact ⟨z, by rw [List.getLast?_cons, hz, Option.getD_some], hends⟩
  case ordered => exact List.forall_mem_cons.mpr ⟨⟨a, b, hfirst, hlast, hle⟩, h.ordered⟩
  case contiguous =>
    -- The new range ends where the ranges behind it begin.
    rw [List.isChain_cons, hnext]
    refine ⟨?_, h.contiguous⟩
    intro y hy
    obtain rfl : next = y := Option.some.inj hy
    exact hlast.trans hbegins.symm
  case final =>
    refine ⟨ask :: front, final, by rw [hsplit, List.cons_append], hlastFinal, ?_⟩
    exact List.forall_mem_cons.mpr ⟨hfinal, hfront⟩

end Tiling

/-- A route that goes on to the end of the file tiles the keys between its ends, as the schema
keeps them. -/
theorem Route.tiling {schema : KeySchema} {a b : Tuple} {asks : List RangeAsk}
    (h : Route schema true a b asks) : Tiling schema (schema.stored a) (schema.stored b) asks := by
  -- Routes that are final are never empty, so the induction begins with a last range.
  generalize hopen : true = final at h
  induction h with
  | stay a => cases hopen
  | last hle hkeys =>
    obtain ⟨hfirst, hlast⟩ := RangeAsk.reads_of_readKeys hkeys true
    exact Tiling.singleton hfirst hlast ((schema.compare_stored _ _).symm ▸ hle) rfl
  | step hle hkeys _ ih =>
    obtain ⟨hfirst, hlast⟩ := RangeAsk.reads_of_readKeys hkeys false
    exact (ih hopen).cons hfirst hlast ((schema.compare_stored _ _).symm ▸ hle) rfl

/-! ## §2 What one task fetches -/

/-- The task has one piece for each host with an entry, which carries the ask and names each attempt
that reported an entry from there once. -/
structure InputStage.ReadsRange (s : InputStage) (t : Task) (ask : RangeAsk) : Prop where
  table : ∀ piece ∈ t.tableFetches, piece.1 = s.table
  once : (t.pieces.map (·.address)).Nodup
  hosts : ∀ address, (∃ d ∈ t.pieces, d.address = address) ↔ ∃ e ∈ s.entries, e.address = address
  request : ∀ d ∈ t.pieces, d.request.stage = s.stage ∧ d.request.kind = ask.kind
  attempts : ∀ d ∈ t.pieces, d.request.attempts.Nodup ∧ ∀ attempt,
    attempt ∈ d.request.attempts ↔ ∃ e ∈ s.entries, e.address = d.address ∧ e.attempt = attempt

namespace InputStage

variable {s : InputStage}

/-- A task that has the fetches of a part reads the part, and each host once. -/
theorem readsRange_of_perm {t : Task} {ask : RangeAsk} (h : t.tableFetches.Perm (s.askGroup ask)) :
    s.ReadsRange t ask := by
  -- Each field speaks of the pieces in any order, so it is read off the group that was dealt.
  have hasks := s.asksHosts_askGroup ask
  have hpieces := Task.pieces_perm h
  have hpiece {d : FetchDescriptor} (hd : d ∈ t.pieces) : ∃ piece ∈ s.askGroup ask, piece.2 = d :=
    List.mem_map.mp (hpieces.mem_iff.mp hd)
  refine ⟨?table, ?once, ?hosts, ?request, ?attempts⟩
  case table => exact fun piece hmem => (hasks.request piece (h.mem_iff.mp hmem)).1
  case once =>
    refine (hpieces.map _).nodup_iff.mpr ?_
    rw [List.map_map]
    exact hasks.once
  case hosts =>
    intro address
    rw [← hasks.hosts address, ← List.mem_map, (hpieces.map _).mem_iff, List.map_map]
    rfl
  case request =>
    intro d hd
    obtain ⟨piece, hmem, rfl⟩ := hpiece hd
    exact (hasks.request piece hmem).2
  case attempts =>
    intro d hd
    obtain ⟨piece, hmem, rfl⟩ := hpiece hd
    exact hasks.attempts piece hmem

end InputStage

/-! ## §3 Plans -/

/-- The two ends of a range that can be asked for equal what is read of them. -/
theorem InputStage.Spans.same_stored {s : InputStage} {r : KeyRange} (h : s.Spans r) :
    (s.sortKeys.stored r.first).same r.first = true ∧
      (s.sortKeys.stored r.last).same r.last = true := by
  obtain ⟨low, hlow⟩ := h.low
  obtain ⟨high, hhigh⟩ := h.high
  unfold KeyRange.first KeyRange.last
  split_ifs
  · exact ⟨KeySchema.same_stored hlow, KeySchema.same_stored hhigh⟩
  · exact ⟨KeySchema.same_stored hhigh, KeySchema.same_stored hlow⟩

namespace Planner

variable {config : PlannerConfig} {s : InputStage} {ids ids' : TaskIds} {tasks : List Task}

/-- **Planned ranges tile the keys.** The tasks of a plan over sub-ranges, in their order, read
ranges that follow each other from the first to the last key of the statistics in reading order;
each asks every host that reported an entry once, and all its pieces carry the same ask; the last
task alone is final. -/
theorem range_tiles_keys (hrows : s.isEmpty = false)
    (hplan : range config s ids = .ok (tasks, ids')) :
    ∃ r asks, s.stats.keyRange s.sortKeys = .ok r ∧ r.ascending = s.sortKeys.ascendsFirst ∧
      List.Forall₂ s.ReadsRange tasks asks ∧
      Tiling s.sortKeys (s.sortKeys.stored r.first) (s.sortKeys.stored r.last) asks ∧
      (s.sortKeys.stored r.first).same r.first = true ∧
      (s.sortKeys.stored r.last).same r.last = true := by
  obtain ⟨r, asks, hrange, hroute, hperm⟩ := range_deals hrows hplan
  obtain ⟨leading, hkeys, hascending⟩ := TableStats.keyRange_ascending hrange
  have hreads : List.Forall₂ s.ReadsRange tasks asks :=
    hperm.imp fun t ask => InputStage.readsRange_of_perm
  -- A plan could be made, so the ends of the range could be encoded.
  obtain ⟨r', hspans⟩ := (range_ok_iff_spans config hrows ids).mp ⟨_, hplan⟩
  obtain rfl : r' = r := Except.ok.inj (hspans.keyRange.symm.trans hrange)
  exact ⟨r', asks, hrange, hascending.trans (KeySchema.ascendsFirst_eq hkeys).symm, hreads,
    hroute.tiling, hspans.same_stored⟩

/-- A stage that is sorted downward by a number and upward by a name. Two attempts ran on one host,
one of them was reported twice, and a third attempt ran on another host. -/
def mixedStage : InputStage :=
  { stage := 3, table := "t", output := .range,
    sortKeys := ⟨[⟨"k", .int8, false, false⟩, ⟨"n", .text, true, false⟩]⟩,
    stats := ⟨9, 3145728, [⟨"k", some (.int4 10), some (.int4 50)⟩,
      ⟨"n", some (.text "a"), some (.text "z")⟩]⟩,
    entries := [⟨⟨1, 0⟩, 0, ⟨"b", 1⟩, 8⟩, ⟨⟨0, 0⟩, 0, ⟨"a", 1⟩, 8⟩, ⟨⟨2, 1⟩, 0, ⟨"a", 1⟩, 4⟩,
      ⟨⟨0, 0⟩, 0, ⟨"a", 1⟩, 8⟩] }

/-- The range of its statistics, in the order of the numbers. -/
def mixedRange : KeyRange := ⟨⟨[.int4 10, .text "z"]⟩, ⟨[.int4 50, .text "a"]⟩, false⟩

/-- The rows of this stage are read from the greatest number and the least name on. -/
theorem range_tiles_keys_mixed :
    ∃ tasks ids' asks, range ⟨1, 8⟩ mixedStage ⟨4, 0⟩ = .ok (tasks, ids') ∧
      List.Forall₂ mixedStage.ReadsRange tasks asks ∧
      Tiling mixedStage.sortKeys ⟨[.int8 50, .text "a"]⟩ ⟨[.int8 10, .text "z"]⟩ asks := by
  have hspans : mixedStage.Spans mixedRange :=
    { keyRange := by decide +kernel
      make := ⟨⟨mixedStage.sortKeys, mixedRange⟩, by decide +kernel⟩
      low := ⟨[0, 0, 0, 0, 0, 0, 0, 0, 10, 0, 0, 0, 0, 1, 122], by decide +kernel⟩
      high := ⟨[0, 0, 0, 0, 0, 0, 0, 0, 50, 0, 0, 0, 0, 1, 97], by decide +kernel⟩ }
  obtain ⟨⟨tasks, ids'⟩, hplan⟩ := (range_ok_iff_spans ⟨1, 8⟩ rfl ⟨4, 0⟩).mpr ⟨_, hspans⟩
  obtain ⟨r, asks, hrange, -, hreads, htiling, -⟩ := range_tiles_keys rfl hplan
  obtain rfl : r = mixedRange := Except.ok.inj (hrange.symm.trans hspans.keyRange)
  exact ⟨tasks, ids', asks, hplan, hreads, htiling⟩

end Planner

end Shuffle
