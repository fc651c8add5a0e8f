import Mathlib
import Shuffle.Proofs.Plan.Enclosed
import Shuffle.Proofs.Plan.Serving

/-!
# Rows within the statistics are delivered

The tasks that a stage with sorted output is planned for ask each attempt for its rows. If all keys
of the attempt's index have values within the statistics of their columns, the answers hold every
octet of the attempt's data once, in order.

- `Planner.range_tiles` are the slices that the tasks ask for.
- `Planner.range_delivers` is the delivery, for an attempt whose index fits the format of files.
-/

namespace Shuffle

open Std

/-! ## §1 Where an index is read -/

/-- A log with a first entry begins with it. -/
theorem IndexLog.toList_eq_cons {log : IndexLog} {x : IndexEntry} (h : log.entries[0]? = some x) :
    ∃ rest, log.entries.toList = x :: rest := by
  rw [← Array.getElem?_toList] at h
  cases hlist : log.entries.toList with
  | nil => rw [hlist] at h; cases h
  | cons y rest =>
    rw [hlist] at h
    cases h
    exact ⟨rest, rfl⟩

namespace KeySchema

variable {schema : KeySchema} {length : UInt64} {key : Tuple} {x : IndexEntry}
  {rest : List IndexEntry}

/-- Rows from the first entry on begin at its offset. -/
theorem startOf_eq_zero (hx : x.offset = 0) (hkey : (schema.compare key x.key).isLE) :
    schema.startOf (x :: rest) length key = 0 := by
  have hge : schema.compare x.key key ≠ .lt := fun hlt => by
    rw [OrientedCmp.gt_of_lt hlt] at hkey
    cases hkey
  rw [startOf_cons hge, hx]

/-- A final range that ends behind some entry goes on to the end of the file. -/
theorem stopOf_eq_length (hkey : (schema.compare x.key key).isLE) :
    schema.stopOf (x :: rest) length key true = length := by
  have hreach : schema.reaches (x :: rest) key = true := by
    rw [reaches, List.any_cons, Bool.or_eq_true, bne_iff_ne]
    exact Or.inl (Ordering.isLE_iff_ne_gt.mp hkey)
  rw [stopOf, hreach]
  rfl

end KeySchema

/-! ## §2 Delivery -/

namespace Planner

variable {config : PlannerConfig} {s : InputStage} {ids ids' : TaskIds} {tasks : List Task}
  {e : OutputEntry} {store : FileStore} {dir : Path} {log : IndexLog} {content : Bytes}

/-- The tasks of a plan over sub-ranges ask the host of each entry for slices that follow each
other, from where the rows of the range begin to where they end. -/
theorem range_tiles (hplan : range config s ids = .ok (tasks, ids')) (htasks : tasks ≠ [])
    (he : e ∈ s.entries) (hout : SortedOutput store dir s.sortKeys log content) :
    ∃ r asks, s.stats.keyRange s.sortKeys = .ok r ∧ List.Forall₂ (s.Serves e) tasks asks ∧
      (log.Fits → ∃ chunks, asks.mapM (fun ask => ask.chunk store dir) = .ok chunks ∧
        FileChunk.Tile (dir.join Layout.dataFile)
          (s.sortKeys.startOf log.entries.toList (UInt64.ofNat content.length) r.first).toNat
          (s.sortKeys.stopOf log.entries.toList (UInt64.ofNat content.length) r.last true).toNat
          (chunks.filterMap fun c => c)) := by
  have hrows : s.isEmpty = false := isEmpty_of_range hplan htasks
  obtain ⟨r, asks, hrange, hroute, hserves⟩ := range_serves hrows hplan
  exact ⟨r, asks, hrange, hserves e he, fun hfits => hroute.tile_chunks hout hfits⟩

/-- **Nothing is lost or doubled**: the tasks of a plan over sub-ranges take the host of each entry
along asks whose answers, one after the other, are the whole data of the entry's attempt. The keys
of its index are values within the statistics, and the index is opened as it was written. -/
theorem range_delivers (hplan : range config s ids = .ok (tasks, ids')) (htasks : tasks ≠ [])
    (he : e ∈ s.entries) (hout : SortedOutput store dir s.sortKeys log content)
    (hfirst : ∃ x, log.entries[0]? = some x ∧ x.offset = 0)
    (hkeys : ∀ x ∈ log.entries.toList, s.stats.Encloses s.sortKeys x.key) :
    ∃ asks, List.Forall₂ (s.Serves e) tasks asks ∧
      (FileChunk.openIndex store (dir.join Layout.indexFile) = .ok log.index ↔ log.Fits) ∧
      (log.Fits → ∃ chunks, asks.mapM (fun ask => ask.chunk store dir) = .ok chunks ∧
        FileChunk.Tile (dir.join Layout.dataFile) 0 content.length (chunks.filterMap fun c => c) ∧
        (chunks.filterMap fun c => c).flatMap (FileChunk.octets content) = content) := by
  obtain ⟨r, asks, hrange, hserves, htiles⟩ := range_tiles hplan htasks he hout
  refine ⟨asks, hserves, hout.openIndex_eq_iff, ?_⟩
  intro hfits
  obtain ⟨chunks, hchunks, htile⟩ := htiles hfits
  -- The first entry is a row of the range: reading begins with it and goes on to the end.
  obtain ⟨x, hx, hzero⟩ := hfirst
  obtain ⟨rest, hentries⟩ := IndexLog.toList_eq_cons hx
  have hwithin := (hkeys x (hentries ▸ List.mem_cons_self)).within_keyRange hrange
  rw [hentries, KeySchema.startOf_eq_zero hzero hwithin.1,
    KeySchema.stopOf_eq_length hwithin.2, hout.toNat_length, UInt64.toNat_zero] at htile
  refine ⟨chunks, hchunks, htile, ?_⟩
  rw [htile.octets_eq]
  simp

/-- A stage in descending order: its keys are from 50 down to 10, and it is split in two. -/
def descendingStage : InputStage :=
  { stage := 3, table := "t", output := .range, sortKeys := ⟨[⟨"k", .int8, false, false⟩]⟩,
    stats := ⟨9, 2097152, [⟨"k", some (.int8 10), some (.int8 50)⟩]⟩,
    entries := [⟨⟨0, 0⟩, 0, ⟨"a", 1⟩, 8⟩] }

/-- The entries for an attempt of that stage: one row before the middle of the range, one at it and
one behind it. -/
def descendingWrites : List IndexEntry :=
  [⟨⟨[.int8 50]⟩, 0⟩, ⟨⟨[.int8 30]⟩, 4⟩, ⟨⟨[.int8 12]⟩, 6⟩]

/-- The index of the attempt. -/
def descendingLog : IndexLog :=
  IndexLog.run descendingStage.sortKeys descendingWrites

/-- An attempt in descending order is delivered over the two tasks of a plan. -/
theorem range_delivers_descending :
    ∃ tasks ids' asks chunks, range ⟨1, 8⟩ descendingStage ⟨4, 0⟩ = .ok (tasks, ids') ∧
      List.Forall₂ (descendingStage.Serves ⟨⟨0, 0⟩, 0, ⟨"a", 1⟩, 8⟩) tasks asks ∧
      asks.mapM (fun ask => ask.chunk
        (SortedOutput.singleton descendingLog [1, 2, 3, 4, 5, 6, 7, 8]) ⟨"d"⟩) = .ok chunks ∧
      (chunks.filterMap fun c => c).flatMap (FileChunk.octets [1, 2, 3, 4, 5, 6, 7, 8])
        = [1, 2, 3, 4, 5, 6, 7, 8] := by
  -- The statistics give both ends, so the plan is made, and the index is sound and short.
  have hspans : descendingStage.Spans ⟨⟨[.int8 10]⟩, ⟨[.int8 50]⟩, false⟩ :=
    ⟨by decide, ⟨_, rfl⟩, ⟨_, rfl⟩, ⟨_, rfl⟩⟩
  obtain ⟨⟨tasks, ids'⟩, hplan⟩ := (range_ok_iff_spans ⟨1, 8⟩ rfl ⟨4, 0⟩).mpr ⟨_, hspans⟩
  have hout : SortedOutput (SortedOutput.singleton descendingLog [1, 2, 3, 4, 5, 6, 7, 8]) ⟨"d"⟩
      descendingStage.sortKeys descendingLog [1, 2, 3, 4, 5, 6, 7, 8] :=
    SortedOutput.of_singleton (by decide) (by decide +kernel) (by decide)
  have hfits : descendingLog.Fits :=
    IndexLog.fits_of_width ⟨by decide, by decide +kernel⟩ (by decide) (by decide)
  -- The keys of the index lie within the statistics.
  have hkeys : ∀ x ∈ descendingLog.entries.toList,
      descendingStage.stats.Encloses descendingStage.sortKeys x.key := by
    intro x hx i key hi
    have hvalues : ∀ x ∈ descendingLog.entries.toList, (x.key.get 0).isNull = false ∧
        ((Datum.int8 10).cmp (x.key.get 0)).isLE ∧ ((x.key.get 0).cmp (.int8 50)).isLE := by
      decide
    cases i with
    | zero =>
      cases hi
      exact ⟨(hvalues x hx).1, _, _, rfl, (hvalues x hx).2⟩
    | succ i => cases hi
  obtain ⟨asks, hserves, -, hdelivered⟩ := range_delivers hplan (ne_nil_of_range rfl hplan)
    (List.mem_singleton_self _) hout ⟨_, rfl, rfl⟩ hkeys
  obtain ⟨chunks, hchunks, -, hwhole⟩ := hdelivered hfits
  exact ⟨tasks, ids', asks, chunks, hplan, hserves, hchunks, hwhole⟩

end Planner

end Shuffle
