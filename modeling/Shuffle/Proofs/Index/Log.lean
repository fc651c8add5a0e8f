import Mathlib
import Shuffle.Index.File
import Shuffle.Proofs.Key.Order

/-!
# What the write log keeps

Whatever is written to a log, in whatever order, its keys increase strictly and its offsets do not
decrease. A refused write leaves the log as it was.

- `IndexLog.Outcome` lists what a write can do.
- `IndexLog.run` is the log after a list of writes, the refused ones among them.
- `IndexLog.rising_write` is the step, `IndexLog.rising_run` the invariant of every run.
- `IndexLog.run_stores`: what the next write does after any run.
-/

namespace Shuffle

open Std

/-- Keys increase strictly in the order of the schema and offsets do not decrease. -/
def KeySchema.Rising (schema : KeySchema) (entries : List IndexEntry) : Prop :=
  entries.Pairwise fun a b => schema.compare a.key b.key = .lt ∧ a.offset ≤ b.offset

/-- An entry goes behind the last one if it lies after it. -/
theorem KeySchema.rising_append {schema : KeySchema} {entries : List IndexEntry}
    {last entry : IndexEntry} (h : schema.Rising (entries ++ [last]))
    (hkey : schema.compare last.key entry.key = .lt) (hoffset : last.offset ≤ entry.offset) :
    schema.Rising (entries ++ [last] ++ [entry]) := by
  refine List.pairwise_append.mpr ⟨h, List.pairwise_singleton _ _, ?_⟩
  -- The last entry is behind all others, so lying after it is enough.
  intro e he x hx
  obtain rfl := List.mem_singleton.mp hx
  rcases List.mem_append.mp he with he | he
  · obtain ⟨hlt, hle⟩ := (List.pairwise_append.mp h).2.2 e he last (List.mem_singleton_self last)
    exact ⟨TransCmp.lt_trans hlt hkey, UInt64.le_trans hle hoffset⟩
  · obtain rfl := List.mem_singleton.mp he
    exact ⟨hkey, hoffset⟩

namespace IndexLog

/-! ## §1 Writes -/

/-- What a write can do to a log, and when it does so. -/
inductive Outcome (log : IndexLog) (key : Tuple) (offset : UInt64) :
    Except OrderError IndexLog → Prop where
  | first (hback : log.entries.back? = none) :
      Outcome log key offset (.ok (log.push ⟨key, offset⟩))
  | next {last : IndexEntry} (hback : log.entries.back? = some last)
      (hkey : log.schema.compare last.key key = .lt) (hoffset : last.offset ≤ offset) :
      Outcome log key offset (.ok (log.push ⟨key, offset⟩))
  /-- A repeated key is dropped, whatever its offset is. -/
  | again {last : IndexEntry} (hback : log.entries.back? = some last)
      (hkey : log.schema.compare last.key key = .eq) : Outcome log key offset (.ok log)
  | keyOrder {last : IndexEntry} (hback : log.entries.back? = some last)
      (hkey : log.schema.compare last.key key = .gt) :
      Outcome log key offset (.error (.keyOrder key last.key))
  | offsetOrder {last : IndexEntry} (hback : log.entries.back? = some last)
      (hkey : log.schema.compare last.key key = .lt) (hoffset : offset < last.offset) :
      Outcome log key offset (.error (.offsetOrder offset key last.offset))

/-- Every write has one of the five outcomes. -/
theorem outcome_write (log : IndexLog) (key : Tuple) (offset : UInt64) :
    Outcome log key offset (log.write key offset) := by
  unfold write
  cases hback : log.entries.back? with
  | none => exact .first hback
  | some last =>
    dsimp only
    cases hkey : log.schema.compare last.key key with
    | eq => exact .again hback hkey
    | gt => exact .keyOrder hback hkey
    | lt =>
      dsimp only
      split_ifs with hoffset
      · exact .offsetOrder hback hkey hoffset
      · exact .next hback hkey (UInt64.not_lt.mp hoffset)

/-- A write is refused exactly if its key lies before the last one, or after it with a smaller
offset. -/
theorem write_eq_error_iff {log : IndexLog} {key : Tuple} {offset : UInt64} {fault : OrderError} :
    log.write key offset = .error fault ↔ ∃ last, log.entries.back? = some last ∧
      (log.schema.compare last.key key = .gt ∧ fault = .keyOrder key last.key ∨
        log.schema.compare last.key key = .lt ∧ offset < last.offset ∧
          fault = .offsetOrder offset key last.offset) := by
  constructor
  · intro hwrite
    -- Only two of the outcomes are faults.
    have houtcome := outcome_write log key offset
    rw [hwrite] at houtcome
    cases houtcome with
    | keyOrder hback hkey => exact ⟨_, hback, Or.inl ⟨hkey, rfl⟩⟩
    | offsetOrder hback hkey hoffset => exact ⟨_, hback, Or.inr ⟨hkey, hoffset, rfl⟩⟩
  · rintro ⟨last, hback, ⟨hkey, rfl⟩ | ⟨hkey, hoffset, rfl⟩⟩
    · simp only [write, hback, hkey]
    · simp only [write, hback, hkey, if_pos hoffset]

/-- Does a key equal the last one of the log? -/
def Repeats (log : IndexLog) (key : Tuple) : Prop :=
  ∃ last, log.entries.back? = some last ∧ log.schema.compare last.key key = .eq

/-- A write that is accepted is dropped if it repeats the last key, and else is stored. -/
theorem write_ok {log log' : IndexLog} {key : Tuple} {offset : UInt64}
    (h : log.write key offset = .ok log') :
    (log.Repeats key → log' = log) ∧ (¬ log.Repeats key → log' = log.push ⟨key, offset⟩) := by
  have houtcome := outcome_write log key offset
  rw [h] at houtcome
  cases houtcome with
  | again hback hkey => exact ⟨fun _ => rfl, fun hnot => absurd ⟨_, hback, hkey⟩ hnot⟩
  | first hback =>
    refine ⟨?_, fun _ => rfl⟩
    rintro ⟨last, hlast, -⟩
    cases hback.symm.trans hlast
  | next hback hkey =>
    refine ⟨?_, fun _ => rfl⟩
    rintro ⟨last, hlast, hsame⟩
    -- There is one last entry, and its key cannot be both before and equal to the new one.
    obtain rfl := Option.some.inj (hback.symm.trans hlast)
    cases hkey.symm.trans hsame

/-- The log after a write. A refused one changes nothing. -/
def attempt (log : IndexLog) (entry : IndexEntry) : IndexLog :=
  match log.write entry.key entry.offset with
  | .ok log => log
  | .error _ => log

/-! ## §2 Runs -/

/-- The log after a list of writes, from an empty one on. -/
def run (schema : KeySchema) (writes : List IndexEntry) : IndexLog :=
  writes.foldl attempt (empty schema)

/-- A write that succeeds is what an attempt at it leaves. -/
theorem attempt_of_ok {log log' : IndexLog} {entry : IndexEntry}
    (h : log.write entry.key entry.offset = .ok log') : log.attempt entry = log' := by
  rw [attempt, h]

/-- A write that is refused leaves the log as it was. -/
theorem attempt_of_error {log : IndexLog} {entry : IndexEntry} {fault : OrderError}
    (h : log.write entry.key entry.offset = .error fault) : log.attempt entry = log := by
  rw [attempt, h]

/-- The last write acts on what the others left. -/
theorem run_concat (schema : KeySchema) (writes : List IndexEntry) (entry : IndexEntry) :
    run schema (writes ++ [entry]) = (run schema writes).attempt entry := by
  rw [run, run, List.foldl_append, List.foldl_cons, List.foldl_nil]

/-! ## §3 The invariant -/

/-- A write that is accepted keeps the schema and the order of the entries. -/
theorem rising_write {log log' : IndexLog} {key : Tuple} {offset : UInt64}
    (h : log.schema.Rising log.entries.toList) (hw : log.write key offset = .ok log') :
    log'.schema = log.schema ∧ log.schema.Rising log'.entries.toList := by
  have houtcome := outcome_write log key offset
  rw [hw] at houtcome
  cases houtcome with
  | first hback =>
    have hnil : log.entries = #[] := by simpa using hback
    exact ⟨rfl, by simp [push, hnil, KeySchema.Rising]⟩
  | again => exact ⟨rfl, h⟩
  | @next last hback hkey hoffset =>
    -- The entry that was last is the one that the new entry is compared with.
    obtain ⟨init, hinit⟩ : ∃ init, log.entries.toList = init ++ [last] := by
      rw [← Array.getLast?_toList] at hback
      exact List.getLast?_eq_some_iff.mp hback
    rw [push, Array.toList_push, hinit]
    rw [hinit] at h
    exact ⟨rfl, KeySchema.rising_append h hkey hoffset⟩

/-- An attempt keeps the order of the entries, whatever comes of it. -/
theorem rising_attempt {log : IndexLog} (h : log.schema.Rising log.entries.toList)
    (entry : IndexEntry) :
    (log.attempt entry).schema = log.schema ∧
      log.schema.Rising (log.attempt entry).entries.toList := by
  unfold attempt
  cases hw : log.write entry.key entry.offset with
  | ok log' => exact rising_write h hw
  | error fault => exact ⟨rfl, h⟩

/-- After every run of writes the keys increase and the offsets do not decrease. -/
theorem rising_run (schema : KeySchema) (writes : List IndexEntry) :
    (run schema writes).schema = schema ∧ schema.Rising (run schema writes).entries.toList := by
  -- The induction runs over all logs that satisfy the invariant, since a run goes on from any.
  have hfold : ∀ (writes : List IndexEntry) (log : IndexLog),
      log.schema = schema → schema.Rising log.entries.toList →
        (writes.foldl attempt log).schema = schema ∧
          schema.Rising (writes.foldl attempt log).entries.toList := by
    intro writes
    induction writes with
    | nil => exact fun log hschema h => ⟨hschema, h⟩
    | cons entry writes ih =>
      intro log hschema h
      subst hschema
      have hstep := rising_attempt h entry
      exact ih _ hstep.1 hstep.2
  exact hfold writes (empty schema) rfl List.Pairwise.nil

/-! ## §4 What is stored -/

/-- A log holds nothing but what was written, in the order in which it was written. -/
theorem sublist_run (schema : KeySchema) (writes : List IndexEntry) :
    (run schema writes).entries.toList.Sublist writes := by
  induction writes using List.reverseRecOn with
  | nil => exact List.Sublist.refl _
  | append_singleton writes entry ih =>
    -- The write is left out or comes last.
    have hskip := ih.trans (List.sublist_append_left writes [entry])
    have hpush : ((run schema writes).push entry).entries.toList.Sublist (writes ++ [entry]) := by
      rw [push, Array.toList_push]
      exact ih.append (List.Sublist.refl _)
    rw [run_concat, attempt]
    have houtcome := outcome_write (run schema writes) entry.key entry.offset
    generalize (run schema writes).write entry.key entry.offset = answer at houtcome
    cases houtcome with
    | first => exact hpush
    | next => exact hpush
    | again => exact hskip
    | keyOrder => exact hskip
    | offsetOrder => exact hskip

/-- **What writes do to an index log.** After every run, keys increase strictly, offsets do not
decrease, and only what was written is stored, in its order. The next write is refused exactly if
its key lies before the last one, or after it with a smaller offset, and then leaves the log as it
was; a write that is accepted changes nothing if the last key comes again, and else is stored
behind all others. -/
theorem run_stores (schema : KeySchema) (writes : List IndexEntry) (key : Tuple)
    (offset : UInt64) :
    let log := run schema writes
    let repeats := ∃ last, log.entries.back? = some last ∧ schema.compare last.key key = .eq
    schema.Rising log.entries.toList ∧ log.entries.toList.Sublist writes ∧
      (∀ fault, log.write key offset = .error fault ↔ ∃ last, log.entries.back? = some last ∧
        (schema.compare last.key key = .gt ∧ fault = .keyOrder key last.key ∨
          schema.compare last.key key = .lt ∧ offset < last.offset ∧
            fault = .offsetOrder offset key last.offset)) ∧
      (∀ fault, log.write key offset = .error fault →
        run schema (writes ++ [⟨key, offset⟩]) = log) ∧
      ∀ log', log.write key offset = .ok log' →
        run schema (writes ++ [⟨key, offset⟩]) = log' ∧ log'.schema = schema ∧
          (repeats → log'.entries = log.entries) ∧
          (¬ repeats → log'.entries = log.entries.push ⟨key, offset⟩) := by
  intro log repeats
  obtain ⟨hschema, hrise⟩ := rising_run schema writes
  refine ⟨hrise, sublist_run schema writes, ?refused, ?unchanged, ?accepted⟩
  case refused =>
    intro fault
    rw [write_eq_error_iff, hschema]
  case unchanged =>
    intro fault hwrite
    exact (run_concat schema writes _).trans (attempt_of_error hwrite)
  case accepted =>
    intro log' hwrite
    have hafter : run schema (writes ++ [⟨key, offset⟩]) = log' :=
      (run_concat schema writes _).trans (attempt_of_ok hwrite)
    have hrepeats : log.Repeats key ↔ repeats := by rw [Repeats, hschema]
    obtain ⟨hagain, hnew⟩ := write_ok hwrite
    refine ⟨hafter, ?_, fun h => ?_, fun h => ?_⟩
    · -- The schema is that of the run, which has one write more.
      rw [← hafter]
      exact (rising_run schema _).1
    · rw [hagain (hrepeats.mpr h)]
    · rw [hnew (mt hrepeats.mp h), push]

/-- Missing numbers come first. -/
def countSchema : KeySchema := ⟨[⟨"n", .int8, true, true⟩]⟩

/-- NULL, then five. -/
def countWrites : List IndexEntry := [⟨⟨[.null]⟩, 0⟩, ⟨⟨[.int4 5]⟩, 4⟩]

/-- After NULL and five: five again in another width, a key and an offset that are refused, and a
row without values, which counts as NULL. -/
theorem run_stores_counts :
    (∃ log', (run countSchema countWrites).write ⟨[.int8 5]⟩ 2 = .ok log' ∧
        log'.entries = countWrites.toArray) ∧
      run countSchema (countWrites ++ [⟨⟨[.int8 6]⟩, 3⟩]) = run countSchema countWrites ∧
      (run countSchema countWrites).write ⟨[]⟩ 9
        = .error (.keyOrder ⟨[]⟩ ⟨[.int4 5]⟩) ∧
      ∃ log', (run countSchema countWrites).write ⟨[.int8 6, .text "b"]⟩ 4 = .ok log' ∧
        log'.entries = countWrites.toArray.push ⟨⟨[.int8 6, .text "b"]⟩, 4⟩ := by
  -- The last key is a number of four octets. Its repetition below has eight.
  have hlast : (run countSchema countWrites).entries.back? = some ⟨⟨[.int4 5]⟩, 4⟩ := by decide
  have hentries : (run countSchema countWrites).entries = countWrites.toArray := by decide
  refine ⟨?again, ?offset, ?key, ?next⟩
  case again =>
    obtain ⟨-, -, -, -, hok⟩ := run_stores countSchema countWrites ⟨[.int8 5]⟩ 2
    obtain ⟨-, -, hsame, -⟩ := hok _ rfl
    exact ⟨_, rfl, (hsame ⟨_, hlast, by decide⟩).trans hentries⟩
  case offset =>
    obtain ⟨-, -, hrefused, hunchanged, -⟩ := run_stores countSchema countWrites ⟨[.int8 6]⟩ 3
    exact hunchanged _ ((hrefused _).mpr ⟨_, hlast, .inr ⟨by decide, by decide, rfl⟩⟩)
  case key =>
    obtain ⟨-, -, hrefused, -⟩ := run_stores countSchema countWrites ⟨[]⟩ 9
    exact (hrefused _).mpr ⟨_, hlast, .inl ⟨by decide, rfl⟩⟩
  case next =>
    obtain ⟨-, -, -, -, hok⟩ := run_stores countSchema countWrites ⟨[.int8 6, .text "b"]⟩ 4
    obtain ⟨-, -, -, hnew⟩ := hok _ rfl
    refine ⟨_, rfl, (hnew ?_).trans (by rw [hentries])⟩
    rintro ⟨last, hback, hsame⟩
    obtain rfl := Option.some.inj (hlast.symm.trans hback)
    exact absurd hsame (by decide)

end IndexLog

end Shuffle
