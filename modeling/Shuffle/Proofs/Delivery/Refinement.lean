import Mathlib
import Shuffle.Proofs.Plan.Serving

/-!
# Splitting a stage makes no difference

Reading sorted output in sub-ranges gives the octets that reading it whole gives, whatever keys the
index has: the requests of both plans go from one end of the same range to the other, and the
answers to a route depend on its ends only.
-/

namespace Shuffle.Planner

variable {config : PlannerConfig} {s : InputStage} {ids wholeIds : TaskIds}

/-- Both plans take the host of an entry along routes with the same ends. -/
private theorem exists_routes (hrows : s.isEmpty = false) (houtput : s.output = .range)
    {plan whole : List Task × TaskIds} (hplan : range config s ids = .ok plan)
    (hwhole : broadcast [s] wholeIds = .ok whole) :
    ∃ (r : KeyRange) (asks : List RangeAsk) (ask : RangeAsk),
      Route s.sortKeys true r.first r.last asks ∧
      Route s.sortKeys true r.first r.last [ask] ∧
      ∀ e ∈ s.entries, List.Forall₂ (s.Serves e) plan.1 asks ∧
        List.Forall₂ (s.Serves e) whole.1 [ask] := by
  obtain ⟨tasks, ids'⟩ := plan
  obtain ⟨wholeTasks, wholeIds'⟩ := whole
  obtain ⟨r, asks, hrange, hroute, hserves⟩ := range_serves hrows hplan
  obtain ⟨r', ask, hrange', hroute', hserves'⟩ := broadcast_serves hrows houtput hwhole
  obtain rfl : r = r' := Except.ok.inj (hrange.symm.trans hrange')
  exact ⟨r, asks, ask, hroute, hroute', fun e he => ⟨hserves e he, hserves' e he⟩⟩

/-- **Splitting refines reading whole**: a stage with rows and sorted output can be planned in
sub-ranges exactly if it can be planned whole. Then, for every attempt whose index is opened as it
was written, the answers to its host's requests in sub-ranges are together the octets of the answer
to its one request for everything. Keys may be anywhere, and there may be none. -/
theorem range_refines_broadcast (config : PlannerConfig) (s : InputStage) (ids wholeIds : TaskIds)
    (hrows : s.stats.rows ≠ 0) (houtput : s.output = .range) :
    ((∃ plan, range config s ids = .ok plan) ↔ ∃ whole, broadcast [s] wholeIds = .ok whole) ∧
    ∀ plan whole, range config s ids = .ok plan → broadcast [s] wholeIds = .ok whole →
      ∀ e ∈ s.entries, ∃ asks ask, List.Forall₂ (s.Serves e) plan.1 asks ∧
        List.Forall₂ (s.Serves e) whole.1 [ask] ∧
        ∀ (store : FileStore) (dir : Path) (log : IndexLog) (content : Bytes),
          SortedOutput store dir s.sortKeys log content →
          (FileChunk.openIndex store (dir.join Layout.indexFile) = .ok log.index ↔ log.Fits) ∧
          (log.Fits → ∃ chunks chunk, asks.mapM (fun ask => ask.chunk store dir) = .ok chunks ∧
            ask.chunk store dir = .ok chunk ∧
            (∃ a b, FileChunk.Tile (dir.join Layout.dataFile) a b (chunks.filterMap fun c => c) ∧
              FileChunk.Tile (dir.join Layout.dataFile) a b chunk.toList) ∧
            (chunks.filterMap fun c => c).flatMap (FileChunk.octets content)
              = chunk.toList.flatMap (FileChunk.octets content)) := by
  have hnonempty : s.isEmpty = false := by simpa [InputStage.isEmpty] using hrows
  have hplans := (range_ok_iff_spans config hnonempty ids).trans
    (broadcast_ok_iff_spans hnonempty houtput wholeIds).symm
  refine ⟨hplans, ?_⟩
  intro plan whole hplan hwhole e he
  obtain ⟨r, asks, ask, hroute, hroute', hserves⟩ := exists_routes hnonempty houtput hplan hwhole
  refine ⟨asks, ask, (hserves e he).1, (hserves e he).2, ?_⟩
  intro store dir log content hout
  refine ⟨hout.openIndex_eq_iff, ?_⟩
  intro hfits
  -- Both lists of answers tile the file between the same two offsets.
  obtain ⟨chunks, hchunks, htile⟩ := hroute.tile_chunks hout hfits
  obtain ⟨answers, hanswers, htile'⟩ := hroute'.tile_chunks hout hfits
  obtain ⟨chunk, hchunk, rfl⟩ : ∃ chunk, ask.chunk store dir = .ok chunk ∧ answers = [chunk] := by
    obtain ⟨chunk, rest, hchunk, hrest, rfl⟩ :=
      List.forall₂_cons_left_iff.mp (Fallible.mapM_eq_ok.mp hanswers)
    cases hrest
    exact ⟨chunk, hchunk, rfl⟩
  have hone : [chunk].filterMap (fun c => c) = chunk.toList := by cases chunk <;> rfl
  rw [hone] at htile'
  refine ⟨chunks, chunk, hchunks, hchunk, ⟨_, _, htile, htile'⟩, ?_⟩
  rw [htile.octets_eq, htile'.octets_eq]

/-- A stage whose statistics count a part of its keys only. -/
def straddlingStage : InputStage :=
  { stage := 3, table := "t", output := .range, sortKeys := ⟨[⟨"k", .int8, true, true⟩]⟩,
    stats := ⟨9, 2097152, [⟨"k", some (.int8 10), some (.int8 50)⟩]⟩,
    entries := [⟨⟨0, 0⟩, 0, ⟨"a", 1⟩, 8⟩] }

/-- The index of an attempt with rows on both sides of the counted keys, and one without a key. -/
def straddlingLog : IndexLog :=
  IndexLog.run straddlingStage.sortKeys
    [⟨⟨[.null]⟩, 0⟩, ⟨⟨[.int8 7]⟩, 1⟩, ⟨⟨[.int8 20]⟩, 3⟩, ⟨⟨[.int8 99]⟩, 6⟩]

/-- Two tasks read of such an attempt what one task reads of it. -/
theorem range_refines_broadcast_straddling :
    ∃ plan whole asks ask chunks chunk, range ⟨1, 8⟩ straddlingStage ⟨4, 0⟩ = .ok plan ∧
      broadcast [straddlingStage] ⟨4, 0⟩ = .ok whole ∧
      List.Forall₂ (straddlingStage.Serves ⟨⟨0, 0⟩, 0, ⟨"a", 1⟩, 8⟩) plan.1 asks ∧
      List.Forall₂ (straddlingStage.Serves ⟨⟨0, 0⟩, 0, ⟨"a", 1⟩, 8⟩) whole.1 [ask] ∧
      asks.mapM (fun ask => ask.chunk
        (SortedOutput.singleton straddlingLog [1, 2, 3, 4, 5, 6, 7, 8]) ⟨"d"⟩) = .ok chunks ∧
      ask.chunk (SortedOutput.singleton straddlingLog [1, 2, 3, 4, 5, 6, 7, 8]) ⟨"d"⟩
        = .ok chunk ∧
      (chunks.filterMap fun c => c).flatMap (FileChunk.octets [1, 2, 3, 4, 5, 6, 7, 8])
        = chunk.toList.flatMap (FileChunk.octets [1, 2, 3, 4, 5, 6, 7, 8]) := by
  obtain ⟨hplans, hanswers⟩ :=
    range_refines_broadcast ⟨1, 8⟩ straddlingStage ⟨4, 0⟩ ⟨4, 0⟩ (by decide) rfl
  -- The statistics bound both columns, so the range plan is made.
  have hspans : straddlingStage.Spans ⟨⟨[.int8 10]⟩, ⟨[.int8 50]⟩, true⟩ :=
    ⟨by decide, ⟨_, rfl⟩, ⟨_, rfl⟩, ⟨_, rfl⟩⟩
  obtain ⟨plan, hplan⟩ := (range_ok_iff_spans ⟨1, 8⟩ rfl ⟨4, 0⟩).mpr ⟨_, hspans⟩
  obtain ⟨whole, hwhole⟩ := hplans.mp ⟨plan, hplan⟩
  obtain ⟨asks, ask, hserves, hserves', hread⟩ :=
    hanswers plan whole hplan hwhole _ (List.mem_singleton_self _)
  -- The index has its entries in order and is saved as it is.
  have hout : SortedOutput (SortedOutput.singleton straddlingLog [1, 2, 3, 4, 5, 6, 7, 8]) ⟨"d"⟩
      straddlingStage.sortKeys straddlingLog [1, 2, 3, 4, 5, 6, 7, 8] :=
    SortedOutput.of_singleton (by decide) (by decide +kernel) (by decide)
  have hfits : straddlingLog.Fits :=
    IndexLog.fits_of_width ⟨by decide, by decide +kernel⟩ (by decide) (by decide)
  obtain ⟨chunks, chunk, hchunks, hchunk, -, heq⟩ := (hread _ _ _ _ hout).2 hfits
  exact ⟨plan, whole, asks, ask, chunks, chunk, hplan, hwhole, hserves, hserves', hchunks, hchunk,
    heq⟩

end Shuffle.Planner
