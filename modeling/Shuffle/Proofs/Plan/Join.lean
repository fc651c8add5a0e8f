import Mathlib
import Shuffle.Proofs.Plan.Hash

/-!
# Joins bring partitions together and lose nothing

A join reads the hash output of several stages. For every partition there is one group, with the
pieces of that partition from all stages, and the groups are dealt onto tasks in turn.

- `InputStage.sitePiece` is what a stage has at one *site*: a partition on a host.
- `Planner.joinGroups_perm` says that grouping by partition moves pieces and does no more.
- `JoinPlan` lists what a join owes to its inputs, and `Planner.join_conserves` that it pays.

Stages may share a table or a number: pieces are counted for each stage on its own.
-/

namespace Shuffle

/-! ## §1 The sites of a stage -/

/-- Where an entry's output is: its partition and its host. -/
def OutputEntry.site (e : OutputEntry) : UInt32 × PullAddress := (e.partition, e.address)

namespace InputStage

variable {s : InputStage}

/-- The sites of a stage, once each. -/
def sites (s : InputStage) : List (UInt32 × PullAddress) := (s.entries.map (·.site)).dedup

/-- The piece that asks for a site. It names the attempts with an entry there. -/
def sitePiece (s : InputStage) (site : UInt32 × PullAddress) : TableFetch :=
  (s.table, ⟨site.2, s.stage, site.1, .hash,
    attemptsAt (s.entries.filter (·.partition = site.1)) site.2⟩)

/-- Different sites have different pieces. -/
theorem sitePiece_injective (s : InputStage) : Function.Injective s.sitePiece := by
  intro a b hab
  simp only [sitePiece, Prod.mk.injEq, FetchDescriptor.mk.injEq, FetchRequest.mk.injEq] at hab
  exact Prod.ext hab.2.2.2.1 hab.2.1

/-- A piece asks for the attempts that were reported at its site. -/
theorem mem_sitePiece {site : UInt32 × PullAddress} {attempt : TaskAttempt} :
    attempt ∈ (s.sitePiece site).2.request.attempts ↔
      ∃ e ∈ s.entries, e.site = site ∧ e.attempt = attempt := by
  simp only [sitePiece, mem_attemptsAt, List.mem_filter, decide_eq_true_eq, OutputEntry.site,
    Prod.ext_iff, and_assoc]

/-- A piece asks for no attempt twice. -/
theorem nodup_sitePiece (s : InputStage) (site : UInt32 × PullAddress) :
    (s.sitePiece site).2.request.attempts.Nodup :=
  Ordered.nodup_toSet Ordered.linear_attempt _

/-- No piece of a stage is there twice. -/
theorem nodup_hashGroups (s : InputStage) : s.hashGroups.flatten.Nodup := by
  apply List.nodup_iff_count_le_one.mpr
  intro piece
  by_cases hpiece : piece ∈ s.hashGroups.flatten
  · -- Among the pieces with its partition and its host, it is the only one.
    obtain ⟨e, he, rfl⟩ := mem_hashGroups.mp hpiece
    have hone := congrArg (List.count (s.hashPiece e)) (filter_hashGroups he)
    rw [List.count_filter (by simp [hashPiece]), List.count_singleton_self] at hone
    exact hone.le
  · rw [List.count_eq_zero_of_not_mem hpiece]
    exact Nat.zero_le 1

/-- The pieces of all buckets are those of the sites. -/
theorem hashGroups_perm (s : InputStage) :
    s.hashGroups.flatten.Perm (s.sites.map s.sitePiece) := by
  have hnodup : (s.sites.map s.sitePiece).Nodup := (List.nodup_dedup _).map s.sitePiece_injective
  apply (List.perm_ext_iff_of_nodup s.nodup_hashGroups hnodup).mpr
  intro piece
  simp only [sites, mem_hashGroups, List.mem_map, List.mem_dedup, exists_exists_and_eq_and]
  -- The piece of an entry is that of its site.
  constructor
  · rintro ⟨e, he, rfl⟩
    exact ⟨e, he, rfl⟩
  · rintro ⟨e, he, rfl⟩
    exact ⟨e, he, rfl⟩

/-- A bucket that was not reported has nothing to fetch. -/
theorem hashGroup_eq_nil_iff {bucket : UInt32} : s.hashGroup bucket = [] ↔ bucket ∉ s.buckets := by
  simp only [List.eq_nil_iff_forall_not_mem, mem_hashGroup, mem_buckets]
  constructor
  · rintro h ⟨e, he, hbucket⟩
    exact h _ ⟨e, he, hbucket, rfl⟩
  · rintro h piece ⟨e, he, hbucket, -⟩
    exact h ⟨e, he, hbucket⟩

/-- A walk over more buckets than a stage has meets the same pieces. -/
theorem flatMap_hashGroup {buckets : List UInt32} (hascending : buckets.Pairwise (· < ·))
    (hall : ∀ b ∈ s.buckets, b ∈ buckets) : buckets.flatMap s.hashGroup = s.hashGroups.flatten := by
  have hown : buckets.filter (fun b => decide (b ∈ s.buckets)) = s.buckets := by
    apply (hascending.filter _).eq_of_mem_iff s.pairwise_buckets
    intro b
    simp only [List.mem_filter, decide_eq_true_eq]
    exact ⟨And.right, fun hb => ⟨hall b hb, hb⟩⟩
  -- Other buckets have no pieces, so they may be left out.
  have hskip : ∀ l : List UInt32,
      (l.filter fun b => decide (b ∈ s.buckets)).flatMap s.hashGroup = l.flatMap s.hashGroup := by
    intro l
    induction l with
    | nil => rfl
    | cons b rest ih =>
      by_cases hb : b ∈ s.buckets
      · simp [hb, ih]
      · simp [hb, ih, hashGroup_eq_nil_iff.mpr hb]
  rw [hashGroups, ← List.flatMap_def, ← hskip buckets, hown]

end InputStage

/-! ## §2 Groups of several stages -/

namespace Planner

variable {inputs : List InputStage}

/-- The order in which two lists are walked through makes no difference up to order. -/
private theorem flatMap_swap_perm {α β γ : Type} (as : List α) (bs : List β)
    (f : α → β → List γ) :
    (as.flatMap fun a => bs.flatMap (f a)).Perm
      (bs.flatMap fun b => as.flatMap fun a => f a b) := by
  induction as with
  | nil => simp
  | cons a rest ih =>
    simp only [List.flatMap_cons]
    exact (ih.append_left _).trans (List.flatMap_append_perm bs (f a) _)

/-- The buckets of several stages in ascending order. -/
def joinBuckets (inputs : List InputStage) : List UInt32 :=
  Ordered.toSet (fun a b => a ≤ b) (inputs.flatMap InputStage.buckets)

/-- The buckets of a join are those of its inputs. -/
theorem mem_joinBuckets {bucket : UInt32} :
    bucket ∈ joinBuckets inputs ↔ ∃ s ∈ inputs, bucket ∈ s.buckets := by
  rw [joinBuckets, Ordered.mem_toSet, List.mem_flatMap]

/-- Every bucket is joined once. -/
theorem nodup_joinBuckets (inputs : List InputStage) : (joinBuckets inputs).Nodup :=
  Ordered.nodup_toSet Ordered.linear_partition _

/-- There is one group for each bucket, with the pieces of all inputs. -/
theorem joinGroups_eq (inputs : List InputStage) :
    joinGroups inputs
      = (joinBuckets inputs).map fun bucket => inputs.flatMap (·.hashGroup bucket) :=
  rfl

/-- All pieces of a group are of one bucket, from whichever input. -/
theorem partition_of_mem_joinGroup (bucket : UInt32) :
    ∀ piece ∈ inputs.flatMap (·.hashGroup bucket), piece.2.request.partition = bucket := by
  intro piece hpiece
  obtain ⟨s, -, hin⟩ := List.mem_flatMap.mp hpiece
  exact InputStage.partition_of_mem_hashGroup bucket piece hin

/-- No group is empty, since some input has the bucket. -/
theorem ne_nil_of_mem_joinGroups : ∀ group ∈ joinGroups inputs, group ≠ [] := by
  intro group hgroup
  rw [joinGroups_eq] at hgroup
  obtain ⟨bucket, hbucket, rfl⟩ := List.mem_map.mp hgroup
  obtain ⟨s, hs, hown⟩ := mem_joinBuckets.mp hbucket
  intro hnil
  have hnone := List.flatMap_eq_nil_iff.mp hnil s hs
  exact InputStage.hashGroup_eq_nil_iff.mp hnone hown

/-- The groups hold the pieces of every stage. -/
theorem joinGroups_perm (inputs : List InputStage) :
    (joinGroups inputs).flatten.Perm (inputs.flatMap fun s => s.hashGroups.flatten) := by
  have hascending : (joinBuckets inputs).Pairwise (· < ·) := by
    refine (Ordered.pairwise_toSet Ordered.linear_partition _).imp fun {a b} hab => ?_
    exact Std.lt_of_le_of_ne (of_decide_eq_true hab.1) hab.2
  -- One stage after the other instead of one bucket after the other.
  have hswap := flatMap_swap_perm (joinBuckets inputs) inputs fun bucket s => s.hashGroup bucket
  rw [joinGroups_eq, ← List.flatMap_def]
  apply hswap.trans
  apply List.Perm.flatMap_left
  intro s hs
  rw [s.flatMap_hashGroup hascending fun b hb => mem_joinBuckets.mpr ⟨s, hs, hb⟩]

end Planner

/-! ## §3 Plans -/

/-- The partitions with output of some stages, once each. -/
def InputStage.partitions (inputs : List InputStage) : List UInt32 :=
  (inputs.flatMap fun s => s.entries.map (·.partition)).dedup

/-- What tasks that join the hash output of stages owe to them. -/
structure JoinPlan (inputs : List InputStage) (maxTasks : Nat) (tasks : List Task) : Prop where
  /-- Together the tasks have one piece for each site of each input, under the input's table. -/
  pieces_perm : (tasks.flatMap Task.tableFetches).Perm
    (inputs.flatMap fun s => s.sites.map s.sitePiece)
  /-- Such a piece names the attempts with an entry at the site, once each, and no others. -/
  names_attempts : ∀ s ∈ inputs, ∀ site ∈ s.sites,
    (s.sitePiece site).2.request.attempts.Nodup ∧
      ∀ a, a ∈ (s.sitePiece site).2.request.attempts ↔
        ∃ e ∈ s.entries, e.site = site ∧ e.attempt = a
  /-- Pieces with one partition are on one task, whichever input they are from. -/
  together : ∀ (i j : Nat) (t u : Task), tasks[i]? = some t → tasks[j]? = some u →
    ∀ d ∈ t.pieces, ∀ d' ∈ u.pieces, d.request.partition = d'.request.partition → i = j
  length_eq : tasks.length = min maxTasks (InputStage.partitions inputs).length
  busy : ∀ t ∈ tasks, t.pieces ≠ []

namespace Planner

variable {inputs : List InputStage} {maxTasks : Nat}

/-- There are as many groups as there are buckets. -/
theorem length_joinGroups (inputs : List InputStage) :
    (joinGroups inputs).length = (InputStage.partitions inputs).length := by
  rw [joinGroups_eq, List.length_map]
  apply List.Perm.length_eq
  apply (List.perm_ext_iff_of_nodup (nodup_joinBuckets inputs) (List.nodup_dedup _)).mpr
  intro p
  simp [mem_joinBuckets, InputStage.mem_buckets]

/-- Tasks that are dealt the groups of a join make a plan. -/
private theorem joinPlan_of_shares {tasks : List Task}
    (hlength : tasks.length = min (joinGroups inputs).length maxTasks)
    (hall : (tasks.flatMap Task.tableFetches).Perm (joinGroups inputs).flatten)
    (hshare : ∀ (j : Nat) (t : Task), tasks[j]? = some t →
      t.tableFetches.Perm (Task.share tasks.length j 0 (joinGroups inputs))) :
    JoinPlan inputs maxTasks tasks where
  pieces_perm := by
    apply (hall.trans (joinGroups_perm inputs)).trans
    exact List.Perm.flatMap_left inputs fun s _ => s.hashGroups_perm
  names_attempts := fun s _ site _ => ⟨s.nodup_sitePiece site, fun _ => InputStage.mem_sitePiece⟩
  together := by
    intro i j t u ht hu d hd d' hd' hsame
    rw [Task.pieces_eq] at hd hd'
    obtain ⟨piece, hpiece, rfl⟩ := List.mem_map.mp hd
    obtain ⟨piece', hpiece', rfl⟩ := List.mem_map.mp hd'
    have hi := (hshare i t ht).mem_iff.mp hpiece
    have hj := (hshare j u hu).mem_iff.mp hpiece'
    rw [joinGroups_eq] at hi hj
    exact Task.eq_of_mem_share partition_of_mem_joinGroup (nodup_joinBuckets inputs) hi hj hsame
  length_eq := by rw [hlength, length_joinGroups, Nat.min_comm]
  busy := by
    intro t ht hnone
    obtain ⟨j, hj, rfl⟩ := List.mem_iff_getElem.mp ht
    -- There are at least as many groups as tasks, so task `j` is dealt group `j`.
    have hgroup : j < (joinGroups inputs).length := by omega
    obtain ⟨piece, hpiece⟩ :=
      List.exists_mem_of_ne_nil _ (ne_nil_of_mem_joinGroups _ (List.getElem_mem hgroup))
    have hdealt : piece ∈ Task.share tasks.length j 0 (joinGroups inputs) :=
      Task.mem_share.mpr
        ⟨j, _, List.getElem?_eq_getElem hgroup, by simpa using Nat.mod_eq_of_lt hj, hpiece⟩
    have hheld := (hshare j tasks[j] (List.getElem?_eq_getElem hj)).mem_iff.mpr hdealt
    rw [Task.pieces_eq, List.map_eq_nil_iff] at hnone
    simp [hnone] at hheld

/-- Groups of stages are dealt if there are any. -/
private theorem exists_joinPlan (inputs : List InputStage) (ids : TaskIds) (hmax : 1 ≤ maxTasks) :
    ∃ tasks ids', (if (joinGroups inputs).isEmpty then .ok ([], ids)
      else dealOnto (min (joinGroups inputs).length maxTasks) (joinGroups inputs) ids)
        = .ok (tasks, ids') ∧ JoinPlan inputs maxTasks tasks := by
  by_cases hnone : joinGroups inputs = []
  · -- Nothing was reported: no task is made, and none is owed.
    refine ⟨[], ids, by rw [hnone]; rfl, joinPlan_of_shares ?_ ?_ ?_⟩
    · rw [hnone]
      simp
    · rw [hnone]
      simp
    · simp
  · have hpos : 0 < min (joinGroups inputs).length maxTasks :=
      Nat.lt_min.mpr ⟨List.length_pos_of_ne_nil hnone, hmax⟩
    obtain ⟨tasks, hdealt, hlength, hall, hshare⟩ := dealOnto_spec hpos (joinGroups inputs) ids
    rw [← hlength] at hshare
    have hsome : ¬(joinGroups inputs).isEmpty := by simpa using hnone
    exact ⟨tasks, _, (if_neg hsome).trans hdealt, joinPlan_of_shares hlength hall hshare⟩

/-- **Joins conserve their inputs**: any two or more stages with hash output can be joined on any
number of tasks. The plan has the pieces of all stages with rows, each partition on one task. -/
theorem join_conserves (inputs : List InputStage) (maxTasks : Nat) (ids : TaskIds)
    (htwo : 2 ≤ inputs.length) (hhash : ∀ s ∈ inputs, s.output = .hash) (hmax : 1 ≤ maxTasks) :
    ∃ tasks ids', join inputs maxTasks ids = .ok (tasks, ids') ∧
      JoinPlan (inputs.filter (·.stats.rows ≠ 0)) maxTasks tasks := by
  have hrows : inputs.filter (!·.isEmpty) = inputs.filter (·.stats.rows ≠ 0) := by
    apply List.filter_congr
    intro s _
    simp [InputStage.isEmpty, beq_eq_decide]
  have hfit : inputs.find? (·.output ≠ .hash) = none := by simpa using hhash
  unfold join
  rw [if_neg (by omega), if_neg (by omega), hfit, hrows]
  exact exists_joinPlan _ ids hmax

/-- Two stages with one number write one table, a third is without rows, and three partitions are
dealt onto two tasks. -/
theorem join_conserves_shared_table :
    let a : PullAddress := ⟨"a", 1⟩
    let b : PullAddress := ⟨"b", 1⟩
    let left : InputStage :=
      { stage := 1, table := "t", output := .hash, partitionKeys := ["k"], stats := ⟨9, 90, []⟩,
        entries := [⟨⟨0, 0⟩, 7, a, 1⟩, ⟨⟨1, 0⟩, 2, b, 1⟩, ⟨⟨0, 0⟩, 7, a, 5⟩, ⟨⟨1, 0⟩, 7, a, 1⟩] }
    let right : InputStage :=
      { stage := 1, table := "t", output := .hash, partitionKeys := ["k"], stats := ⟨4, 40, []⟩,
        entries := [⟨⟨0, 0⟩, 7, a, 1⟩, ⟨⟨2, 1⟩, 9, b, 1⟩] }
    let void : InputStage :=
      { stage := 2, table := "u", output := .hash, stats := ⟨0, 0, []⟩,
        entries := [⟨⟨0, 0⟩, 5, a, 0⟩] }
    ∃ tasks ids', join [left, void, right] 2 ⟨4, 0⟩ = .ok (tasks, ids') ∧
      JoinPlan [left, right] 2 tasks :=
  join_conserves _ 2 ⟨4, 0⟩ (by decide) (by decide) (by decide)

end Planner

end Shuffle
