import Mathlib
import Shuffle.Proofs.Plan.Cover
import Shuffle.Proofs.Plan.Hash
import Shuffle.Proofs.Plan.Serving

/-!
# Broadcasts read everything once

A plan that reads stages whole has one task, or none if there is nothing to fetch. The task fetches
of every stage with rows what would be fetched of it alone: all buckets of hash output, and sorted
output as a single range that goes on to the end of the file, whichever way its rows run. Neither
stages without rows nor tables that several stages share make a difference.

- `InputStage.ReadWhole` is what is fetched of one stage.
- `Planner.broadcast_reads_once` is the plan.
-/

namespace Shuffle

/-! ## §1 One stage -/

/-- Cut in one part, a range stays as it is. -/
theorem RangeSplit.parts_one (s : RangeSplit) : s.parts 1 = .ok [s.range] := by
  rw [parts_eq_between Nat.one_pos, Nat.min_eq_right s.width_pos]
  rfl

namespace InputStage

variable {s : InputStage} {groups : List FetchGroup}

/-- What a task fetches of a stage that it reads whole. Of hash output, it is what any plan for this
stage alone fetches; of sorted output, one piece for each host, all of which ask for the range of
the statistics and go on to the end of the file. -/
def ReadWhole (s : InputStage) (fetched : FetchGroup) : Prop :=
  match s.output with
  | .hash => ∀ maxTasks ids, 1 ≤ maxTasks → ∃ tasks ids',
      Planner.hash s maxTasks ids = .ok (tasks, ids') ∧
        (tasks.flatMap Task.tableFetches).Perm fetched
  | .range => ∃ r start stop, s.stats.keyRange s.sortKeys = .ok r ∧
      s.sortKeys.encode r.low = .ok start ∧ s.sortKeys.encode r.high = .ok stop ∧
        s.AsksHosts ⟨start, stop, true⟩ fetched

/-- Sorted output that is wanted in one part is asked for by its two ends. The part is the last one
in value order and the first one too, so it is final in either direction. -/
theorem rangeGroups_one (h : s.rangeGroups 1 = .ok groups) :
    ∃ r start stop, s.stats.keyRange s.sortKeys = .ok r ∧
      s.sortKeys.encode r.low = .ok start ∧ s.sortKeys.encode r.high = .ok stop ∧
        groups = [s.askGroup ⟨start, stop, true⟩] := by
  obtain ⟨r, split, parts, ends, hrange, hsplit, hparts, hends, rfl⟩ := rangeGroups_inv h
  obtain ⟨rfl, -⟩ := RangeSplit.make_eq_ok_iff.mp hsplit
  rw [Nat.min_eq_right (RangeSplit.cardinality_pos _), RangeSplit.parts_one] at hparts
  obtain rfl := Except.ok.inj hparts
  obtain ⟨e, _, hencoded, hrest, rfl⟩ := List.forall₂_cons_left_iff.mp hends
  cases hrest
  obtain ⟨start, stop, hstart, hstop, rfl⟩ := encodeEnds_eq_ok.mp hencoded
  refine ⟨r, start, stop, hrange, hstart, hstop, ?_⟩
  cases hdirection : r.ascending <;> rfl

/-- The groups of a stage that is read whole are those that it has alone. -/
theorem readWhole_of_wholeGroups (hrows : s.isEmpty = false)
    (h : Planner.wholeGroups s = .ok groups) : s.ReadWhole groups.flatten := by
  unfold Planner.wholeGroups at h
  unfold ReadWhole
  cases houtput : s.output with
  | hash =>
    rw [houtput] at h
    cases h
    intro maxTasks ids hmax
    -- However many tasks the buckets are dealt onto, all of them are dealt.
    have hpos : 0 < Planner.hashTasks s maxTasks := by
      unfold Planner.hashTasks
      split_ifs
      · exact Nat.one_pos
      · exact hmax
    obtain ⟨tasks, hdealt, -, hperm, -⟩ := Planner.dealOnto_spec hpos s.hashGroups ids
    refine ⟨tasks, (ids.create (Planner.hashTasks s maxTasks)).2, ?_, hperm⟩
    rw [Planner.hash_eq, hrows, if_neg Bool.false_ne_true, if_neg hpos.ne']
    exact hdealt
  | range =>
    rw [houtput] at h
    obtain ⟨r, start, stop, hrange, hstart, hstop, rfl⟩ := rangeGroups_one h
    refine ⟨r, start, stop, hrange, hstart, hstop, ?_⟩
    rw [List.flatten_singleton]
    exact s.asksHosts_askGroup _

/-- There is a bucket as soon as there is an entry. -/
theorem buckets_eq_nil_iff : s.buckets = [] ↔ s.entries = [] := by
  simp only [List.eq_nil_iff_forall_not_mem, mem_buckets]
  constructor
  · intro hnone e he
    exact hnone _ ⟨e, he, rfl⟩
  · rintro hnone bucket ⟨e, he, -⟩
    exact hnone e he

/-- Hash output without entries has no groups, and nothing else is without groups. -/
theorem wholeGroups_eq_nil_iff (h : Planner.wholeGroups s = .ok groups) :
    groups = [] ↔ s.output = .hash ∧ s.entries = [] := by
  unfold Planner.wholeGroups at h
  cases houtput : s.output with
  | hash =>
    rw [houtput] at h
    cases h
    rw [hashGroups, List.map_eq_nil_iff, buckets_eq_nil_iff]
    simp
  | range =>
    rw [houtput] at h
    obtain ⟨r, start, stop, -, -, -, rfl⟩ := rangeGroups_one h
    simp

end InputStage

/-! ## §2 All stages -/

/-- Lists that correspond have the properties of their members in common. -/
private theorem forall_mem_iff_of_forall₂ {α β : Type} {R : α → β → Prop} {p : α → Prop}
    {q : β → Prop} {as : List α} {bs : List β} (h : List.Forall₂ R as bs)
    (hpq : ∀ a b, R a b → (q b ↔ p a)) : (∀ b ∈ bs, q b) ↔ ∀ a ∈ as, p a := by
  induction h with
  | nil => simp
  | cons hab _ ih => rw [List.forall_mem_cons, List.forall_mem_cons, hpq _ _ hab, ih]

namespace Planner

variable {inputs : List InputStage} {ids ids' : TaskIds} {tasks : List Task}

/-- **Broadcasts read everything once.** A plan that reads stages whole has at most one task. Over
all stages with rows, the task fetches what is fetched of each when it is read whole, and nothing
else. There is no task only if these stages have hash output without entries. -/
theorem broadcast_reads_once (h : broadcast inputs ids = .ok (tasks, ids')) :
    tasks.length ≤ 1 ∧
      (∃ fetched, List.Forall₂ InputStage.ReadWhole (inputs.filter (·.stats.rows ≠ 0)) fetched ∧
        (tasks.flatMap Task.tableFetches).Perm fetched.flatten) ∧
      (tasks = [] ↔ ∀ s ∈ inputs, s.stats.rows ≠ 0 → s.output = .hash ∧ s.entries = []) := by
  obtain ⟨-, gss, hgss, hdealt⟩ := broadcast_eq_ok.mp h
  have hlength := length_of_dealOnto_ok hdealt
  have hfilter : inputs.filter (!·.isEmpty) = inputs.filter (·.stats.rows ≠ 0) :=
    List.filter_congr fun s _ => by
      rw [decide_not]
      rfl
  have hrows : ∀ s ∈ inputs.filter (!·.isEmpty), s.isEmpty = false := by
    intro s hs
    simpa using (List.mem_filter.mp hs).2
  refine ⟨?atMostOne, ⟨gss.map List.flatten, ?reads, ?all⟩, ?none⟩
  case atMostOne =>
    rw [hlength]
    split_ifs <;> simp
  case reads =>
    rw [← hfilter, List.forall₂_map_right_iff]
    exact ((List.forall₂_and_left _ _).mpr ⟨hrows, hgss⟩).imp fun s groups hs =>
      InputStage.readWhole_of_wholeGroups hs.1 hs.2
  case all =>
    have hall := perm_of_dealOnto_ok hdealt
    rwa [List.flatten_flatten] at hall
  case none =>
    -- There is a task as soon as one input has a group to read.
    have hnone : tasks = [] ↔ ∀ gs ∈ gss, gs = [] := by
      rw [← List.length_eq_zero_iff, hlength, ← List.flatten_eq_nil_iff, ← List.isEmpty_iff]
      split_ifs with hempty <;> simp [hempty]
    rw [hnone, forall_mem_iff_of_forall₂ hgss fun s gs => InputStage.wholeGroups_eq_nil_iff,
      hfilter]
    simp [List.mem_filter]

/-- Two buckets, of which one was reported twice. -/
def bucketStage : InputStage :=
  { stage := 1, table := "a", output := .hash, partitionKeys := ["k"], stats := ⟨9, 90, []⟩,
    entries := [⟨⟨0, 0⟩, 7, ⟨"a", 1⟩, 1⟩, ⟨⟨1, 4⟩, 2, ⟨"a", 1⟩, 1⟩, ⟨⟨0, 0⟩, 7, ⟨"a", 1⟩, 5⟩] }

/-- Rows that are sorted by a number, from two attempts on one host. -/
def sortedStage (ascending : Bool) : InputStage :=
  { stage := if ascending then 2 else 3, table := "b", output := .range,
    sortKeys := ⟨[⟨"k", .int4, ascending, false⟩]⟩,
    stats := ⟨9, 90, [⟨"k", some (.int4 1), some (.int4 3)⟩]⟩,
    entries := [⟨⟨0, 0⟩, 0, ⟨"a", 1⟩, 8⟩, ⟨⟨2, 1⟩, 0, ⟨"a", 1⟩, 4⟩] }

/-- A stage without rows, which has no range. -/
def rowlessStage : InputStage :=
  { stage := 4, table := "b", output := .range, stats := ⟨0, 0, []⟩, entries := [] }

/-- The statistics bound the one column of the stage. -/
theorem sortedStage_spans (ascending : Bool) :
    (sortedStage ascending).Spans ⟨⟨[.int4 1]⟩, ⟨[.int4 3]⟩, ascending⟩ where
  keyRange := by cases ascending <;> decide +kernel
  make := ⟨⟨_, _⟩, RangeSplit.make_eq_ok_iff.mpr ⟨rfl, by cases ascending <;> decide +kernel⟩⟩
  low := ⟨[0, 0, 0, 0, 1], by cases ascending <;> decide +kernel⟩
  high := ⟨[0, 0, 0, 0, 3], by cases ascending <;> decide +kernel⟩

/-- Buckets, sorted rows in either direction under one table, and nothing meet on one task. -/
theorem broadcast_reads_once_mixed :
    ∃ t ids' fetched, broadcast
        [bucketStage, sortedStage false, rowlessStage, sortedStage true] ⟨5, 0⟩
        = .ok ([t], ids') ∧
      List.Forall₂ InputStage.ReadWhole
        [bucketStage, sortedStage false, sortedStage true] fetched ∧
      t.tableFetches.Perm fetched.flatten := by
  have hspans : ∀ s ∈ [bucketStage, sortedStage false, rowlessStage, sortedStage true],
      s.isEmpty = false → s.output = .range → ∃ r, s.Spans r := by
    simp only [List.forall_mem_cons, List.not_mem_nil, false_imp_iff, implies_true, and_true]
    exact ⟨nofun, fun _ _ => ⟨_, sortedStage_spans false⟩, nofun,
      fun _ _ => ⟨_, sortedStage_spans true⟩⟩
  obtain ⟨⟨tasks, ids'⟩, hplan⟩ := (broadcast_ok_iff ⟨5, 0⟩).mpr ⟨List.cons_ne_nil _ _, hspans⟩
  obtain ⟨hmost, ⟨fetched, hreads, hall⟩, hnone⟩ := broadcast_reads_once hplan
  -- There is sorted output with rows, so there is a task.
  have hsome : tasks ≠ [] := by
    intro hempty
    have hhash := (hnone.mp hempty (sortedStage true) (by simp) (by decide)).1
    cases hhash
  obtain ⟨t, rfl⟩ := List.length_eq_one_iff.mp
    (Nat.le_antisymm hmost (List.length_pos_iff.mpr hsome))
  rw [List.flatMap_singleton] at hall
  exact ⟨t, ids', fetched, hplan, hreads, hall⟩

end Planner

end Shuffle
