import Mathlib
import Shuffle.Plan.Session
import Shuffle.Proofs.Plan.Stage

/-!
# Plans do not depend on the order of reports

Attempts report their entries whenever they are done, and some report one twice. A plan depends on
which entries were reported, not on when or how often.

- `OutputEntry.SameReports` relates lists with the same reports, of which the volume is no part.
- Sets that are shown in order forget the rest (`Ordered.toSet_congr`), and every group is built
  from such sets: see `InputStage.SameReports.hashGroups_eq` and `rangeGroups_eq`.
- `PlanCall.answer_congr` is about all ways of planning.
-/

namespace Shuffle

/-! ## §1 Reports -/

namespace OutputEntry

variable {entries entries' : List OutputEntry}

/-- What an entry says of an attempt: it wrote a partition, which is at some host. -/
def report (e : OutputEntry) : TaskAttempt × UInt32 × PullAddress :=
  (e.attempt, e.partition, e.address)

@[simp] theorem report_attempt (e : OutputEntry) : e.report.1 = e.attempt := rfl

@[simp] theorem report_partition (e : OutputEntry) : e.report.2.1 = e.partition := rfl

@[simp] theorem report_address (e : OutputEntry) : e.report.2.2 = e.address := rfl

/-- Two lists of entries with the same reports, in any order and any number. -/
def SameReports (entries entries' : List OutputEntry) : Prop :=
  ∀ r, r ∈ entries.map report ↔ r ∈ entries'.map report

/-- What can be said of reports is said of both lists. -/
theorem SameReports.exists_iff (h : SameReports entries entries')
    (P : TaskAttempt × UInt32 × PullAddress → Prop) :
    (∃ e ∈ entries, P e.report) ↔ ∃ e ∈ entries', P e.report := by
  have hboth := exists_congr fun r => and_congr_left' (c := P r) (h r)
  simpa only [List.mem_map, exists_exists_and_eq_and] using hboth

/-- The order of the entries does not matter. -/
theorem SameReports.of_perm (h : entries.Perm entries') : SameReports entries entries' :=
  fun _ => (h.map report).mem_iff

/-- Both lists report the same of one bucket. -/
theorem SameReports.filter_partition (h : SameReports entries entries') (bucket : UInt32) :
    SameReports (entries.filter (·.partition = bucket))
      (entries'.filter (·.partition = bucket)) := by
  intro r
  simpa [and_assoc] using h.exists_iff fun r' => r'.2.1 = bucket ∧ r' = r

end OutputEntry

/-! ## §2 Stages -/

namespace InputStage

open OutputEntry (SameReports)

variable {s s' : InputStage} {entries entries' : List OutputEntry}

/-- An address serves the same attempts, since attempts are gathered in a set. -/
theorem attemptsAt_congr (h : SameReports entries entries') (address : PullAddress) :
    attemptsAt entries address = attemptsAt entries' address := by
  apply Ordered.toSet_congr Ordered.linear_attempt
  intro attempt
  simpa [and_assoc] using h.exists_iff fun r => r.2.2 = address ∧ r.1 = attempt

/-- The fetches of a partition are the same, one for each address in the order of addresses. -/
theorem pieces_congr (h : SameReports entries entries') (s : InputStage)
    (request : List TaskAttempt → FetchRequest) :
    s.pieces entries request = s.pieces entries' request := by
  -- Addresses are sorted and without repeats, so they depend on the reports as a set.
  have haddresses : Ordered.toSet PullAddress.le (entries.map (·.address))
      = Ordered.toSet PullAddress.le (entries'.map (·.address)) := by
    apply Ordered.toSet_congr Ordered.linear_address
    intro address
    simpa using h.exists_iff fun r => r.2.2 = address
  have hhosts : hosts entries = hosts entries' := by
    rw [hosts, haddresses]
    apply List.map_congr_left
    intro address _
    exact congrArg (Prod.mk address) (attemptsAt_congr h address)
  rw [pieces, pieces, hhosts]

/-- Two stages that differ at most in when and how often their entries were reported. -/
inductive SameReports : InputStage → InputStage → Prop where
  | entries {s : InputStage} (reported : List OutputEntry)
      (h : OutputEntry.SameReports s.entries reported) :
      SameReports s { s with entries := reported }

namespace SameReports

theorem hashGroup_eq (h : s.SameReports s') (bucket : UInt32) :
    s.hashGroup bucket = s'.hashGroup bucket := by
  cases h with
  | entries reported h => exact pieces_congr (h.filter_partition bucket) s _

/-- The buckets are sorted, so they do not show the order of the reports. -/
theorem buckets_eq (h : s.SameReports s') : s.buckets = s'.buckets := by
  cases h with
  | entries reported h =>
    apply Ordered.toSet_congr Ordered.linear_partition
    intro bucket
    simpa using h.exists_iff fun r => r.2.1 = bucket

theorem hashGroups_eq (h : s.SameReports s') : s.hashGroups = s'.hashGroups := by
  rw [hashGroups, h.buckets_eq]
  exact List.map_congr_left fun bucket _ => h.hashGroup_eq bucket

/-- Where a stage is cut depends on its statistics only, and each part has the same pieces. -/
theorem rangeGroups_eq (h : s.SameReports s') (wanted : Nat) :
    s.rangeGroups wanted = s'.rangeGroups wanted := by
  cases h with
  | entries reported h =>
    have hgroup : s.rangeGroup = rangeGroup { s with entries := reported } := by
      funext low high final
      exact pieces_congr h s _
    unfold rangeGroups
    rw [hgroup]
    rfl

theorem stage_eq (h : s.SameReports s') : s.stage = s'.stage := by
  cases h
  rfl

theorem output_eq (h : s.SameReports s') : s.output = s'.output := by
  cases h
  rfl

theorem isEmpty_eq (h : s.SameReports s') : s.isEmpty = s'.isEmpty := by
  cases h
  rfl

theorem wholeGroups_eq (h : s.SameReports s') : Planner.wholeGroups s = Planner.wholeGroups s' := by
  rw [Planner.wholeGroups, h.hashGroups_eq, h.rangeGroups_eq, h.output_eq]
  rfl

/-- Which stages have rows was known before any entry was reported. -/
theorem filter_isEmpty {inputs inputs' : List InputStage}
    (h : List.Forall₂ InputStage.SameReports inputs inputs') :
    List.Forall₂ InputStage.SameReports (inputs.filter (!·.isEmpty))
      (inputs'.filter (!·.isEmpty)) := by
  refine List.rel_filter ?_ h
  intro s s' hs
  simp only [hs.isEmpty_eq]

end SameReports

end InputStage

/-! ## §3 Plans -/

namespace Planner

open InputStage (SameReports)

variable {config : PlannerConfig} {s s' : InputStage} {inputs inputs' : List InputStage}
  {maxTasks : Nat} {ids : TaskIds}

/-- A function that agrees on related stages agrees on lists of them, member by member. -/
private theorem map_congr {α : Type} {f : InputStage → α}
    (h : List.Forall₂ SameReports inputs inputs')
    (hf : ∀ s s' : InputStage, s.SameReports s' → f s = f s') : inputs.map f = inputs'.map f := by
  induction h with
  | nil => rfl
  | cons hs hrest ih => rw [List.map_cons, List.map_cons, hf _ _ hs, ih]

/-- A hash plan depends on the entries through the groups of their buckets only. -/
theorem hash_congr (h : s.SameReports s') : hash s maxTasks ids = hash s' maxTasks ids := by
  have hgroups := h.hashGroups_eq
  unfold hash
  rw [hgroups]
  cases h
  rfl

/-- A range plan depends on the entries through the fetches of a whole read only. -/
theorem range_congr (h : s.SameReports s') : range config s ids = range config s' ids := by
  have hgroups := h.rangeGroups_eq
  unfold range
  simp only [hgroups]
  cases h
  rfl

theorem single_congr (h : s.SameReports s') :
    single config s maxTasks ids = single config s' maxTasks ids := by
  unfold single
  rw [h.output_eq, hash_congr h, range_congr h]

/-- The groups of a join are gathered from the groups of its inputs. -/
theorem joinGroups_congr (h : List.Forall₂ SameReports inputs inputs') :
    joinGroups inputs = joinGroups inputs' := by
  have hbuckets := map_congr h fun _ _ => SameReports.buckets_eq
  have hgroup (bucket : UInt32) := map_congr h fun _ _ hs => SameReports.hashGroup_eq hs bucket
  simp only [joinGroups, List.flatMap_def, hbuckets, hgroup]

/-- A join gives up for the same stage, if it does. -/
theorem find?_congr (h : List.Forall₂ SameReports inputs inputs') :
    (inputs.find? (·.output ≠ .hash)).map (·.stage)
      = (inputs'.find? (·.output ≠ .hash)).map (·.stage) := by
  induction h with
  | nil => rfl
  | @cons s s' _ _ hs hrest ih =>
    by_cases houtput : s'.output = .hash
    · simpa [List.find?_cons, hs.output_eq, houtput] using ih
    · simp [hs.output_eq, houtput, hs.stage_eq]

/-- A join depends on its inputs only through what they report. -/
theorem join_congr (h : List.Forall₂ SameReports inputs inputs') :
    join inputs maxTasks ids = join inputs' maxTasks ids := by
  have hgroups := joinGroups_congr (SameReports.filter_isEmpty h)
  have hfind := find?_congr h
  unfold join
  rw [hgroups, h.length_eq]
  -- A refusal names the first input that is no hash output, the same stage in both lists.
  cases hodd : inputs.find? (·.output ≠ .hash) with
  | none =>
    rw [hodd, Option.map_none, eq_comm, Option.map_eq_none_iff] at hfind
    rw [hfind]
  | some s =>
    rw [hodd, Option.map_some, eq_comm, Option.map_eq_some_iff] at hfind
    obtain ⟨s', hodd', hstage⟩ := hfind
    rw [hodd']
    simp only [hstage]

/-- A plan that reads stages whole depends on its inputs only through what they report. -/
theorem broadcast_congr (h : List.Forall₂ SameReports inputs inputs') :
    broadcast inputs ids = broadcast inputs' ids := by
  -- The stages that are read give the same groups, one by one.
  have hread : (inputs.filter (!·.isEmpty)).mapM wholeGroups
      = (inputs'.filter (!·.isEmpty)).mapM wholeGroups := by
    have hmap := map_congr (SameReports.filter_isEmpty h) fun _ _ => SameReports.wholeGroups_eq
    have hloop := congrArg (List.mapM id) hmap
    rwa [List.mapM_map, List.mapM_map] at hloop
  have hnone : inputs.isEmpty = inputs'.isEmpty := by
    cases h with
    | nil => rfl
    | cons _ _ => rfl
  unfold broadcast
  rw [hread, hnone]

/-- The entry point that dispatches on the mode inherits it from what it calls. -/
theorem plan_congr (mode : ReadMode) (h : List.Forall₂ SameReports inputs inputs') :
    plan config inputs mode ids = plan config inputs' mode ids := by
  cases mode with
  | hash maxTasks =>
    cases h with
    | nil => rfl
    | cons hs hrest =>
      cases hrest with
      | nil => exact hash_congr hs
      | cons hs' hrest => exact join_congr (.cons hs (.cons hs' hrest))
  | range =>
    cases h with
    | nil => rfl
    | cons hs hrest =>
      cases hrest with
      | nil => exact range_congr hs
      | cons hs' hrest => simp [plan, hrest.length_eq]
  | broadcast => exact broadcast_congr h

end Planner

namespace PlanCall

/-- Two calls of one kind for stages with the same reports. -/
inductive SameReports : PlanCall → PlanCall → Prop where
  | plan {inputs inputs' : List InputStage} (h : List.Forall₂ InputStage.SameReports inputs inputs')
      (mode : ReadMode) : SameReports (.plan inputs mode) (.plan inputs' mode)
  | single {s s' : InputStage} (h : s.SameReports s') (maxTasks : Nat) :
      SameReports (.single s maxTasks) (.single s' maxTasks)
  | hash {s s' : InputStage} (h : s.SameReports s') (maxTasks : Nat) :
      SameReports (.hash s maxTasks) (.hash s' maxTasks)
  | range {s s' : InputStage} (h : s.SameReports s') : SameReports (.range s) (.range s')
  | join {inputs inputs' : List InputStage} (h : List.Forall₂ InputStage.SameReports inputs inputs')
      (maxTasks : Nat) : SameReports (.join inputs maxTasks) (.join inputs' maxTasks)
  | broadcast {inputs inputs' : List InputStage}
      (h : List.Forall₂ InputStage.SameReports inputs inputs') :
      SameReports (.broadcast inputs) (.broadcast inputs')

/-- **Plans do not depend on the order of reports**: whatever is asked for, stages with the same
reports are answered with the same tasks or with the same fault. -/
theorem answer_congr {call call' : PlanCall} (h : call.SameReports call') (config : PlannerConfig)
    (ids : TaskIds) : call.answer config ids = call'.answer config ids := by
  cases h with
  | plan h mode => exact Planner.plan_congr mode h
  | single h maxTasks => exact Planner.single_congr h
  | hash h maxTasks => exact Planner.hash_congr h
  | range h => exact Planner.range_congr h
  | join h maxTasks => exact Planner.join_congr h
  | broadcast h => exact Planner.broadcast_congr h

/-- One stage reported in another order, and one reported an entry again with another volume. -/
theorem answer_congr_reported_again :
    let first : OutputEntry := ⟨⟨0, 0⟩, 7, ⟨"a", 1⟩, 1⟩
    let second : OutputEntry := ⟨⟨1, 0⟩, 2, ⟨"b", 1⟩, 1⟩
    let again : OutputEntry := { first with volume := 5 }
    let s : InputStage :=
      { stage := 1, table := "t", output := .hash, partitionKeys := ["k"], stats := ⟨9, 90, []⟩,
        entries := [first, second] }
    let s' : InputStage := { s with stage := 2, table := "u" }
    (PlanCall.join [s, s'] 3).answer .standard ⟨4, 0⟩
      = (PlanCall.join [{ s with entries := [second, first] },
          { s' with entries := [first, second, again] }] 3).answer .standard ⟨4, 0⟩ := by
  intro first second again s s'
  have hordered : s.SameReports { s with entries := [second, first] } :=
    .entries _ (.of_perm (List.Perm.swap second first []))
  -- A second report of an attempt differs in its volume, which no report holds.
  have hrepeated : s'.SameReports { s' with entries := [first, second, again] } := by
    refine .entries _ fun r => ?_
    have hsame : again.report = first.report := rfl
    simp only [s', s, List.map_cons, List.map_nil, List.mem_cons, hsame]
    tauto
  exact answer_congr (.join (.cons hordered (.cons hrepeated .nil)) 3) .standard ⟨4, 0⟩

end PlanCall

end Shuffle
