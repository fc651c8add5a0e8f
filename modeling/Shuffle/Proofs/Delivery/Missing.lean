import Mathlib
import Shuffle.Proofs.Delivery.Covered

/-!
# Rows with missing values may be lost

Statistics do not count missing values, so a range made of them may leave rows with a missing value
outside. Rows in front of the range are not delivered, and nothing is delivered of an attempt all
of whose rows lie behind it.

- `KeySchema.strays`: does a missing value put a row in front of an end, or behind it?
- `Planner.range_delivers_iff` says exactly when an attempt is delivered whole.
-/

namespace Shuffle

open Std

/-! ## §1 Where missing values put a row -/

namespace KeySchema

/-- The columns of `KeySchema.strays`. -/
def straysValues (nullsFirst : Bool) : List SortKey → List Datum → List Datum → Bool
  | [], _, _ => false
  | key :: keys, a, b =>
    if (a.headD .null).isNull then key.nullsFirst == nullsFirst
    else (a.headD .null).same (b.headD .null) && straysValues nullsFirst keys a.tail b.tail

/-- Does a row differ from an end of a range first in a column where it has no value, and has the
column its missing values in front (or behind, if not `nullsFirst`)? -/
def strays (schema : KeySchema) (nullsFirst : Bool) (row stop : Tuple) : Bool :=
  straysValues nullsFirst schema.keys row.values stop.values

/-- The side of all values on which a column has missing ones. -/
def missingSide (nullsFirst : Bool) : Ordering := if nullsFirst then .lt else .gt

/-- One column of the comparison: a missing value decides for its side, and a value that is not on
that side leaves the decision to the columns behind unless it differs. -/
private theorem then_eq_missingSide {key : SortKey} {nullsFirst : Bool} {a b : Datum}
    (hb : b.isNull = false)
    (ha : a.isNull = false → key.compare a b ≠ missingSide nullsFirst) (rest : Ordering) :
    (key.compare a b).then rest = missingSide nullsFirst ↔
      if a.isNull then key.nullsFirst = nullsFirst
      else a.same b = true ∧ rest = missingSide nullsFirst := by
  cases hnull : a.isNull with
  | true =>
    -- Only `a` is missing, so the column puts it on its own side.
    have hcmp : key.compare a b = missingSide key.nullsFirst := by
      simp only [SortKey.compare, hnull, hb, missingSide]
    rw [hcmp, if_pos rfl]
    cases key.nullsFirst <;> cases nullsFirst <;> simp [missingSide]
  | false =>
    -- Both are values: the column decides nothing exactly if they are the same.
    have hside := ha hnull
    have hsame : a.same b = true ↔ key.compare a b = .eq := by
      rw [Datum.same, beq_iff_eq, SortKey.compare_of_values hnull hb]
      cases key.ascending <;> simp
    rw [if_neg Bool.false_ne_true, hsame]
    cases hcmp : key.compare a b with
    | eq => simp
    | lt => rw [hcmp] at hside; simp [hside]
    | gt => rw [hcmp] at hside; simp [hside]

/-- When no value is on that side of the end, a key gets there by a missing value only. -/
private theorem compareValues_eq_missingSide (nullsFirst : Bool) {keys : List SortKey}
    {a b : List Datum}
    (h : ∀ (i : Nat) (key : SortKey), keys[i]? = some key → (b.getD i .null).isNull = false ∧
      ((a.getD i .null).isNull = false →
        key.compare (a.getD i .null) (b.getD i .null) ≠ missingSide nullsFirst)) :
    compareValues keys a b = missingSide nullsFirst ↔ straysValues nullsFirst keys a b = true := by
  induction keys generalizing a b with
  | nil => cases nullsFirst <;> simp [compareValues, straysValues, missingSide]
  | cons key keys ih =>
    -- What holds of column `i + 1` holds of column `i` of the tails.
    have hrest := ih (a := a.tail) (b := b.tail) fun i k hk => by
      rw [getD_tail, getD_tail]
      exact h (i + 1) k hk
    obtain ⟨hb, ha⟩ := h 0 key rfl
    rw [compareValues, straysValues, headD_eq_getD, headD_eq_getD, then_eq_missingSide hb ha,
      hrest]
    cases (a.getD 0 .null).isNull <;> simp

/-- A row with no value on the wrong side of an end lies there only where it strays. -/
theorem compare_eq_missingSide (nullsFirst : Bool) {schema : KeySchema} {row stop : Tuple}
    (h : ∀ (i : Nat) (key : SortKey), schema.keys[i]? = some key → (stop.get i).isNull = false ∧
      ((row.get i).isNull = false →
        key.compare (row.get i) (stop.get i) ≠ missingSide nullsFirst)) :
    schema.compare row stop = missingSide nullsFirst ↔ schema.strays nullsFirst row stop = true :=
  compareValues_eq_missingSide nullsFirst h

end KeySchema

namespace TableStats

variable {stats : TableStats} {schema : KeySchema} {range : KeyRange} {row : Tuple}

/-- In each sort column the row has no value, or one from the least to the greatest. -/
def EnclosesValues (stats : TableStats) (schema : KeySchema) (row : Tuple) : Prop :=
  ∀ (i : Nat) (key : SortKey), schema.keys[i]? = some key → (row.get i).isNull = false →
    ∃ min max, stats.bounds key = .ok (min, max) ∧
      (min.cmp (row.get i)).isLE ∧ ((row.get i).cmp max).isLE

/-- Column by column, a row lies between the ends as far as it has values. -/
private theorem EnclosesValues.column (h : stats.EnclosesValues schema row)
    (hrange : stats.keyRange schema = .ok range) {i : Nat} {key : SortKey}
    (hi : schema.keys[i]? = some key) :
    (range.first.get i).isNull = false ∧ (range.last.get i).isNull = false ∧
      ((row.get i).isNull = false → (key.compare (range.first.get i) (row.get i)).isLE ∧
        (key.compare (row.get i) (range.last.get i)).isLE) := by
  have hends := keyRange_get hrange hi
  obtain ⟨hfirst, hlast, -⟩ := readEnds_ok hends
  refine ⟨hfirst, hlast, fun hvalue => ?_⟩
  obtain ⟨min, max, hbounds, hmin, hmax⟩ := h i key hi hvalue
  exact compare_readEnds hbounds hends hvalue hmin hmax

/-- A row whose values are within the statistics lies in front of the range only because of a
missing value. -/
theorem EnclosesValues.lt_first_iff (h : stats.EnclosesValues schema row)
    (hrange : stats.keyRange schema = .ok range) :
    schema.compare row range.first = .lt ↔
      schema.strays true row range.first = true := by
  apply KeySchema.compare_eq_missingSide true
  intro i key hi
  obtain ⟨hfirst, -, hwithin⟩ := h.column hrange hi
  refine ⟨hfirst, ?_⟩
  intro hvalue hlt
  have hle := (hwithin hvalue).1
  rw [OrientedCmp.gt_of_lt hlt] at hle
  cases hle

/-- A row whose values are within the statistics lies behind the range only because of a missing
value. -/
theorem EnclosesValues.gt_last_iff (h : stats.EnclosesValues schema row)
    (hrange : stats.keyRange schema = .ok range) :
    schema.compare row range.last = .gt ↔
      schema.strays false row range.last = true := by
  apply KeySchema.compare_eq_missingSide false
  intro i key hi
  obtain ⟨-, hlast, hwithin⟩ := h.column hrange hi
  refine ⟨hlast, ?_⟩
  intro hvalue hgt
  have hle := (hwithin hvalue).2
  rw [hgt] at hle
  cases hle

end TableStats

/-! ## §2 When nothing is lost -/

namespace KeySchema

variable {schema : KeySchema} {length : UInt64} {key : Tuple} {entries : List IndexEntry}

/-- Rows from a key on begin at the front if an entry that is not before the key does. -/
theorem startOf_eq_zero_iff (hrise : schema.Rising entries)
    (hbound : ∀ e ∈ entries, e.offset ≤ length) :
    schema.startOf entries length key = 0 ↔
      length = 0 ∨ ∃ e ∈ entries, schema.compare e.key key ≠ .lt ∧ e.offset = 0 := by
  have hzero : length = 0 → schema.startOf entries length key = 0 := by
    rintro rfl
    exact UInt64.le_antisymm (schema.startOf_le hbound key) UInt64.zero_le
  cases hfind : entries.find? fun e => schema.compare e.key key != .lt with
  | none =>
    -- Every entry sorts before the key, so its rows begin at the end of the file.
    have hstart : schema.startOf entries length key = length := by
      rw [startOf, hfind]
      rfl
    rw [hstart]
    refine ⟨Or.inl, ?_⟩
    rintro (h | ⟨e, he, hkey, -⟩)
    · exact h
    · exact absurd (List.find?_eq_none.mp hfind e he) (by simpa using hkey)
  | some y =>
    -- The rows begin at `y`, and no entry behind it has a smaller offset.
    obtain ⟨hy, before, after, hsplit, hbefore⟩ := List.find?_eq_some_iff_append.mp hfind
    have hstart : schema.startOf entries length key = y.offset := by
      rw [startOf, hfind]
      rfl
    have hmem : y ∈ entries := List.mem_of_find?_eq_some hfind
    constructor
    · intro h
      exact Or.inr ⟨y, hmem, by simpa using hy, hstart.symm.trans h⟩
    · rintro (h | ⟨e, he, hkey, hoffset⟩)
      · exact hzero h
      · rw [hstart]
        rw [hsplit] at he hrise
        rcases List.mem_append.mp he with hin | hin
        · exact absurd (hbefore e hin) (by simpa using hkey)
        rcases List.mem_cons.mp hin with rfl | hin
        · exact hoffset
        · have hle := ((List.pairwise_cons.mp (List.pairwise_append.mp hrise).2.1).1 e hin).2
          rw [hoffset] at hle
          exact UInt64.le_antisymm hle UInt64.zero_le

/-- A final range goes on to the end of the file if it reaches an entry. -/
theorem stopOf_eq_length_iff {x : IndexEntry} {rest : List IndexEntry} (hx : x.offset = 0) :
    schema.stopOf (x :: rest) length key true = length ↔
      length = 0 ∨ ∃ e ∈ x :: rest, schema.compare e.key key ≠ .gt := by
  have hreaches : schema.reaches (x :: rest) key = true ↔
      ∃ e ∈ x :: rest, schema.compare e.key key ≠ .gt := by
    simp only [reaches, List.any_eq_true, bne_iff_ne]
  rw [← hreaches, stopOf, Bool.true_and]
  by_cases hreach : schema.reaches (x :: rest) key = true
  · rw [if_pos hreach]
    exact ⟨fun _ => Or.inr hreach, fun _ => rfl⟩
  · -- Behind an end that reaches no entry, all rows follow, from the front of the file on.
    have hgt : schema.compare x.key key = .gt := by
      by_contra hne
      exact hreach (hreaches.mpr ⟨x, List.mem_cons_self, hne⟩)
    rw [if_neg hreach, startOf_cons (by simp [hgt]), hx, eq_comm]
    exact ⟨Or.inl, fun h => h.resolve_right hreach⟩

end KeySchema

namespace Planner

/-- **What is lost**: with missing values in its index, an attempt is delivered whole exactly if it
has no data, or some entry does not stray behind the range and an entry at the front of the data
does not stray before it. Otherwise no fault is reported, and octets are missing. -/
theorem range_delivers_iff {config : PlannerConfig} {s : InputStage} {ids ids' : TaskIds}
    {tasks : List Task} (hplan : range config s ids = .ok (tasks, ids')) (htasks : tasks ≠ [])
    {e : OutputEntry} (he : e ∈ s.entries) {store : FileStore} {dir : Path} {log : IndexLog}
    {content : Bytes} (hout : SortedOutput store dir s.sortKeys log content)
    (hfirst : ∃ x, log.entries[0]? = some x ∧ x.offset = 0)
    (hkeys : ∀ x ∈ log.entries.toList, s.stats.EnclosesValues s.sortKeys x.key) :
    ∃ r asks, s.stats.keyRange s.sortKeys = .ok r ∧ List.Forall₂ (s.Serves e) tasks asks ∧
      (FileChunk.openIndex store (dir.join Layout.indexFile) = .ok log.index ↔ log.Fits) ∧
      (log.Fits → ∃ chunks, asks.mapM (fun ask => ask.chunk store dir) = .ok chunks ∧
        ((chunks.filterMap fun c => c).flatMap (FileChunk.octets content) = content ↔
          content = [] ∨
            (∃ x ∈ log.entries.toList, s.sortKeys.strays false x.key r.last = false) ∧
            ∃ x ∈ log.entries.toList, s.sortKeys.strays true x.key r.first = false ∧
              x.offset = 0)) := by
  obtain ⟨r, asks, hrange, hserves, htiles⟩ := range_tiles hplan htasks he hout
  refine ⟨r, asks, hrange, hserves, hout.openIndex_eq_iff, ?_⟩
  intro hfits
  obtain ⟨chunks, hchunks, htile⟩ := htiles hfits
  refine ⟨chunks, hchunks, ?_⟩
  have hbound : ∀ x ∈ log.entries.toList, x.offset ≤ UInt64.ofNat content.length :=
    fun _ hx => hout.offset_le hx
  have hstop := UInt64.le_iff_toNat_le.mp (s.sortKeys.stopOf_le hbound r.last true)
  rw [hout.toNat_length] at hstop
  -- The parts tile a stretch of the file, which is the whole file when both its ends are.
  have hempty : UInt64.ofNat content.length = 0 ↔ content = [] := by
    rw [← UInt64.toNat_inj, hout.toNat_length, UInt64.toNat_zero, List.length_eq_zero_iff]
  -- It begins at the front when some key that is not before the first end has its rows there.
  have hstart : (s.sortKeys.startOf log.entries.toList (UInt64.ofNat content.length) r.first).toNat
      = 0 ↔ content = [] ∨ ∃ x ∈ log.entries.toList,
        s.sortKeys.strays true x.key r.first = false ∧ x.offset = 0 := by
    rw [← UInt64.toNat_zero, UInt64.toNat_inj,
      KeySchema.startOf_eq_zero_iff hout.rising hbound, hempty]
    refine or_congr_right (exists_congr fun x => and_congr_right fun hx => and_congr_left' ?_)
    rw [Ne, (hkeys x hx).lt_first_iff hrange, Bool.not_eq_true]
  -- It ends at the back when some key is not behind the last end.
  have hend : (s.sortKeys.stopOf log.entries.toList (UInt64.ofNat content.length) r.last true).toNat
      = content.length ↔ content = [] ∨ ∃ x ∈ log.entries.toList,
        s.sortKeys.strays false x.key r.last = false := by
    obtain ⟨x, hx, hzero⟩ := hfirst
    obtain ⟨rest, hentries⟩ := IndexLog.toList_eq_cons hx
    nth_rewrite 2 [← hout.toNat_length]
    rw [UInt64.toNat_inj, ← hempty]
    rw [hentries] at hkeys ⊢
    rw [KeySchema.stopOf_eq_length_iff hzero]
    refine or_congr_right (exists_congr fun y => and_congr_right fun hy => ?_)
    rw [Ne, (hkeys y hy).gt_last_iff hrange, Bool.not_eq_true]
  rw [htile.octets_eq_iff hstop, hstart, hend, ← or_and_left, and_comm]

/-- A stage whose rows without a key come first. Its statistics say nothing of them. -/
def missingFirstStage : InputStage :=
  { stage := 3, table := "t", output := .range, sortKeys := ⟨[⟨"k", .int8, true, true⟩]⟩,
    stats := ⟨9, 90, [⟨"k", some (.int8 1), some (.int8 2)⟩]⟩,
    entries := [⟨⟨0, 0⟩, 0, ⟨"a", 1⟩, 8⟩] }

/-- The index of an attempt that has such a row before its only key. -/
def missingFirstLog : IndexLog :=
  IndexLog.run missingFirstStage.sortKeys [⟨⟨[.null]⟩, 0⟩, ⟨⟨[.int8 1]⟩, 4⟩]

/-- The rows of such an attempt that have no key are lost. -/
theorem range_loses_missing_first :
    ∃ tasks ids' asks chunks, range ⟨100, 8⟩ missingFirstStage ⟨4, 0⟩ = .ok (tasks, ids') ∧
      List.Forall₂ (missingFirstStage.Serves ⟨⟨0, 0⟩, 0, ⟨"a", 1⟩, 8⟩) tasks asks ∧
      asks.mapM (fun ask => ask.chunk
        (SortedOutput.singleton missingFirstLog [1, 2, 3, 4, 5, 6, 7, 8]) ⟨"d"⟩) = .ok chunks ∧
      (chunks.filterMap fun c => c).flatMap (FileChunk.octets [1, 2, 3, 4, 5, 6, 7, 8])
        ≠ [1, 2, 3, 4, 5, 6, 7, 8] := by
  have hspans : missingFirstStage.Spans ⟨⟨[.int8 1]⟩, ⟨[.int8 2]⟩, true⟩ :=
    ⟨by decide, ⟨_, rfl⟩, ⟨_, rfl⟩, ⟨_, rfl⟩⟩
  obtain ⟨⟨tasks, ids'⟩, hplan⟩ := (range_ok_iff_spans ⟨100, 8⟩ rfl ⟨4, 0⟩).mpr ⟨_, hspans⟩
  have hout : SortedOutput (SortedOutput.singleton missingFirstLog [1, 2, 3, 4, 5, 6, 7, 8]) ⟨"d"⟩
      missingFirstStage.sortKeys missingFirstLog [1, 2, 3, 4, 5, 6, 7, 8] :=
    SortedOutput.of_singleton (by decide) (by decide +kernel) (by decide)
  have hfits : missingFirstLog.Fits :=
    IndexLog.fits_of_width ⟨by decide, by decide +kernel⟩ (by decide) (by decide)
  -- The statistics hold of all rows with a value, so nothing of them is wrong.
  have hkeys : ∀ x ∈ missingFirstLog.entries.toList,
      missingFirstStage.stats.EnclosesValues missingFirstStage.sortKeys x.key := by
    intro x hx i key hi hvalue
    have hvalues : ∀ x ∈ missingFirstLog.entries.toList, (x.key.get 0).isNull = false →
        ((Datum.int8 1).cmp (x.key.get 0)).isLE ∧ ((x.key.get 0).cmp (.int8 2)).isLE := by
      decide
    cases i with
    | zero =>
      cases hi
      exact ⟨_, _, rfl, hvalues x hx hvalue⟩
    | succ i => cases hi
  obtain ⟨r, asks, hrange, hserves, -, hdelivered⟩ := range_delivers_iff hplan
    (ne_nil_of_range rfl hplan) (List.mem_singleton_self _) hout ⟨_, rfl, rfl⟩ hkeys
  cases hrange
  obtain ⟨chunks, hchunks, hwhole⟩ := hdelivered hfits
  -- The rows at the front of the file are those without a value.
  have hlost : ∀ x ∈ missingFirstLog.entries.toList,
      missingFirstStage.sortKeys.strays true x.key ⟨[.int8 1]⟩ = false → x.offset ≠ 0 := by
    decide
  refine ⟨tasks, ids', asks, chunks, hplan, hserves, hchunks, fun h => ?_⟩
  rcases hwhole.mp h with hempty | ⟨-, x, hx, hstays, hzero⟩
  · cases hempty
  · exact hlost x hx hstays hzero

end Planner

end Shuffle
