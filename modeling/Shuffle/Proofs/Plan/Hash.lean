import Mathlib
import Shuffle.Proofs.Plan.Deal
import Shuffle.Proofs.Plan.Stage

/-!
# Plans over hash output lose nothing

A plan over hash output gathers the entries of a stage by bucket and by host and deals the buckets
onto tasks in turn. It names every reported attempt once, in the piece of the attempt's bucket and
host, and names nothing else.

- `InputStage.hashPiece` is the piece that an entry ends up in.
- `HashPlan` lists what a plan over hash output owes to the stage.
-/

namespace Shuffle

namespace InputStage

variable {s : InputStage}

/-! ## §1 Buckets -/

/-- The buckets of a stage strictly ascend. -/
theorem pairwise_buckets (s : InputStage) : s.buckets.Pairwise (· < ·) := by
  refine (Ordered.pairwise_toSet Ordered.linear_partition _).imp fun {a b} hab => ?_
  exact Std.lt_of_le_of_ne (of_decide_eq_true hab.1) hab.2

/-- The buckets of a stage are those of its entries. -/
theorem mem_buckets {bucket : UInt32} :
    bucket ∈ s.buckets ↔ ∃ e ∈ s.entries, e.partition = bucket := by
  simp only [buckets, Ordered.mem_toSet, List.mem_map]

/-- The partitions of the entries have one ascending order. -/
theorem eq_buckets {partitions : List UInt32} (hascending : partitions.Pairwise (· < ·))
    (hmem : ∀ p, p ∈ partitions ↔ ∃ e ∈ s.entries, e.partition = p) :
    partitions = s.buckets :=
  hascending.eq_of_mem_iff s.pairwise_buckets fun p => (hmem p).trans mem_buckets.symm

/-- The piece in which an entry's attempt is named: that of its bucket and host. -/
def hashPiece (s : InputStage) (e : OutputEntry) : TableFetch :=
  (s.table, ⟨e.address, s.stage, e.partition, .hash,
    attemptsAt (s.entries.filter (·.partition = e.partition)) e.address⟩)

/-- The piece of an entry asks for all that its host has of the bucket. -/
private theorem hashPiece_eq {e : OutputEntry} {bucket : UInt32} (h : e.partition = bucket) :
    (s.table, ⟨e.address, FetchRequest.hash s.stage bucket
      (attemptsAt (s.entries.filter (·.partition = bucket)) e.address)⟩) = s.hashPiece e := by
  subst h
  simp only [hashPiece, FetchRequest.hash, toSet_attemptsAt]

/-- A group has the pieces of the entries of its bucket. -/
theorem mem_hashGroup {bucket : UInt32} {piece : TableFetch} :
    piece ∈ s.hashGroup bucket ↔
      ∃ e ∈ s.entries, e.partition = bucket ∧ piece = s.hashPiece e := by
  simp only [hashGroup, mem_pieces, List.mem_filter, decide_eq_true_eq]
  constructor
  · rintro ⟨e, ⟨he, hbucket⟩, rfl⟩
    exact ⟨e, he, hbucket, hashPiece_eq hbucket⟩
  · rintro ⟨e, he, hbucket, rfl⟩
    exact ⟨e, ⟨he, hbucket⟩, (hashPiece_eq hbucket).symm⟩

/-- All pieces of a group ask for the same bucket. -/
theorem partition_of_mem_hashGroup (bucket : UInt32) :
    ∀ piece ∈ s.hashGroup bucket, piece.2.request.partition = bucket := by
  intro piece hpiece
  obtain ⟨e, -, rfl, rfl⟩ := mem_hashGroup.mp hpiece
  rfl

/-- The pieces of all buckets are those of the entries. -/
theorem mem_hashGroups {piece : TableFetch} :
    piece ∈ s.hashGroups.flatten ↔ ∃ e ∈ s.entries, piece = s.hashPiece e := by
  simp only [hashGroups, List.mem_flatten, List.mem_map]
  constructor
  · rintro ⟨_, ⟨bucket, -, rfl⟩, hpiece⟩
    obtain ⟨e, he, -, rfl⟩ := mem_hashGroup.mp hpiece
    exact ⟨e, he, rfl⟩
  · rintro ⟨e, he, rfl⟩
    exact ⟨_, ⟨e.partition, mem_buckets.mpr ⟨e, he, rfl⟩, rfl⟩, mem_hashGroup.mpr ⟨e, he, rfl, rfl⟩⟩

/-- Over all buckets, the host and the bucket of an entry have one piece together. -/
theorem filter_hashGroups {e : OutputEntry} (he : e ∈ s.entries) :
    s.hashGroups.flatten.filter
        (fun piece => piece.2.address = e.address && piece.2.request.partition = e.partition)
      = [s.hashPiece e] := by
  rw [hashGroups, List.filter_flatten, List.map_map, ← List.flatMap_def, buckets,
    Ordered.flatMap_toSet Ordered.linear_partition (List.mem_map_of_mem he)]
  · -- In the bucket of the entry the partition says nothing, and the host has one piece.
    have hown : e ∈ s.entries.filter (·.partition = e.partition) :=
      List.mem_filter.mpr ⟨he, decide_eq_true rfl⟩
    have hpieces := s.filter_pieces (FetchRequest.hash s.stage e.partition) hown
    rw [hashPiece_eq rfl] at hpieces
    refine (List.filter_congr fun piece hpiece => ?_).trans hpieces
    simp [partition_of_mem_hashGroup e.partition piece hpiece]
  · -- In any other bucket there is no piece with the partition.
    intro bucket hne
    apply List.filter_eq_nil_iff.mpr
    intro piece hpiece
    simp [partition_of_mem_hashGroup bucket piece hpiece, hne]

end InputStage

/-! ## §2 Plans -/

/-- What `n` tasks that read the hash output of a stage owe to it. -/
structure HashPlan (s : InputStage) (n : Nat) (tasks : List Task) : Prop where
  length_eq : tasks.length = n
  /-- Over all tasks there is one piece for the host and the bucket of an entry, and it names the
  entry's attempt once. -/
  named_once : ∀ e ∈ s.entries, ∃ d,
    (tasks.flatMap Task.pieces).filter
        (fun d => d.address = e.address && d.request.partition = e.partition) = [d] ∧
      d.request.attempts.count e.attempt = 1
  /-- Whatever a piece names was reported. -/
  reported : ∀ d ∈ tasks.flatMap Task.pieces, ∀ attempt ∈ d.request.attempts,
    ∃ e ∈ s.entries, e.attempt = attempt ∧ e.address = d.address ∧
      e.partition = d.request.partition
  /-- All pieces ask for hash output of the stage under its table. -/
  own : ∀ piece ∈ tasks.flatMap Task.tableFetches,
    piece.1 = s.table ∧ piece.2.request.kind = .hash ∧ piece.2.request.stage = s.stage
  /-- In ascending order, partitions go to the tasks in turn: the pieces of a partition are on the
  task whose turn it is and on no other. -/
  in_turn : ∀ partitions : List UInt32, partitions.Pairwise (· < ·) →
    (∀ p, p ∈ partitions ↔ ∃ e ∈ s.entries, e.partition = p) →
    ∀ (i : Nat) (p : UInt32), partitions[i]? = some p →
      ∀ (j : Nat) (t : Task), tasks[j]? = some t →
        ((∃ d ∈ t.pieces, d.request.partition = p) ↔ j = i % n)

namespace Planner

/-- The number of tasks over hash output: one, unless there are columns to hash. -/
def hashTasks (s : InputStage) (maxTasks : Nat) : Nat :=
  if s.partitionKeys.isEmpty then 1 else maxTasks

/-- The plan by its cases: nothing to read, no task wanted, or groups to deal. -/
theorem hash_eq (s : InputStage) (maxTasks : Nat) (ids : TaskIds) :
    hash s maxTasks ids =
      if s.isEmpty then .ok ([], ids)
      else if hashTasks s maxTasks = 0 then .error .zeroTasks
      else dealOnto (hashTasks s maxTasks) s.hashGroups ids :=
  rfl

/-- The buckets that a task is dealt are those whose turn is the task's. -/
private theorem exists_piece_iff {s : InputStage} {n j i : Nat} {bucket : UInt32}
    (hi : s.buckets[i]? = some bucket) {t : Task}
    (ht : t.tableFetches.Perm (Task.share n j 0 s.hashGroups)) :
    (∃ d ∈ t.pieces, d.request.partition = bucket) ↔ j = i % n := by
  have hgroup : s.hashGroups[i]? = some (s.hashGroup bucket) := by
    rw [InputStage.hashGroups, List.getElem?_map, hi, Option.map_some]
  constructor
  · rintro ⟨d, hd, hpartition⟩
    rw [Task.pieces_eq] at hd
    obtain ⟨piece, hpiece, rfl⟩ := List.mem_map.mp hd
    obtain ⟨i', hi', hturn⟩ := Task.exists_turn_of_mem_share
      InputStage.partition_of_mem_hashGroup (ht.mem_iff.mp hpiece)
    -- The piece is of the bucket with index `i'`, and no bucket has two indices.
    have hlt := (List.getElem?_eq_some_iff.mp hi').1
    have hnodup : s.buckets.Nodup := Ordered.nodup_toSet Ordered.linear_partition _
    have hindex : i' = i := by
      apply (List.getElem?_inj hlt hnodup).mp
      rw [hi', hi, hpartition]
    rw [← hturn, hindex]
  · rintro rfl
    obtain ⟨e, he, hbucket⟩ := InputStage.mem_buckets.mp (List.mem_of_getElem? hi)
    have hpiece : s.hashPiece e ∈ s.hashGroup bucket :=
      InputStage.mem_hashGroup.mpr ⟨e, he, hbucket, rfl⟩
    have hshare : s.hashPiece e ∈ Task.share n (i % n) 0 s.hashGroups :=
      Task.mem_share.mpr ⟨i, _, hgroup, by rw [Nat.zero_add], hpiece⟩
    refine ⟨(s.hashPiece e).2, ?_, hbucket⟩
    rw [Task.pieces_eq]
    exact List.mem_map_of_mem (ht.mem_iff.mpr hshare)

/-- Every stage with rows can be planned over its hash output, and the plan keeps all of it. -/
theorem hash_conserves (s : InputStage) (maxTasks : Nat) (ids : TaskIds)
    (hrows : s.stats.rows ≠ 0) (hmax : 1 ≤ maxTasks) :
    ∃ tasks ids', hash s maxTasks ids = .ok (tasks, ids') ∧
      HashPlan s (hashTasks s maxTasks) tasks := by
  have hpos : 0 < hashTasks s maxTasks := by
    unfold hashTasks
    split
    · exact Nat.one_pos
    · exact hmax
  have hnonempty : s.isEmpty = false := by simpa [InputStage.isEmpty] using hrows
  obtain ⟨tasks, hdealt, hlength, hall, hshare⟩ := dealOnto_spec hpos s.hashGroups ids
  have hplan : hash s maxTasks ids = dealOnto (hashTasks s maxTasks) s.hashGroups ids := by
    simp only [hash, hnonempty, Bool.false_eq_true, if_false, hashTasks]
    exact if_neg (Nat.ne_of_gt hpos)
  -- Up to order, the tasks hold the pieces of all buckets.
  have hpieces : (tasks.flatMap Task.pieces).Perm (s.hashGroups.flatten.map (·.2)) := by
    have hview : tasks.flatMap Task.pieces = (tasks.flatMap Task.tableFetches).map (·.2) := by
      rw [List.map_flatMap]
      exact List.flatMap_congr fun t _ => t.pieces_eq
    rw [hview]
    exact hall.map _
  refine ⟨tasks, _, hplan.trans hdealt, hlength, ?named_once, ?reported, ?own, ?in_turn⟩
  case named_once =>
    intro e he
    refine ⟨(s.hashPiece e).2, ?_, ?_⟩
    · -- A permutation of one piece is that piece.
      have hfilter := hpieces.filter
        fun d => d.address = e.address && d.request.partition = e.partition
      rw [List.filter_map] at hfilter
      have hone := congrArg (List.map (·.2)) (InputStage.filter_hashGroups he)
      exact List.perm_singleton.mp (hfilter.trans (List.Perm.of_eq hone))
    · exact InputStage.count_attemptsAt (List.mem_filter.mpr ⟨he, decide_eq_true rfl⟩)
  case reported =>
    intro d hd attempt hattempt
    obtain ⟨piece, hpiece, rfl⟩ := List.mem_map.mp (hpieces.mem_iff.mp hd)
    obtain ⟨e, -, rfl⟩ := InputStage.mem_hashGroups.mp hpiece
    obtain ⟨x, hx, haddress, rfl⟩ := InputStage.mem_attemptsAt.mp hattempt
    obtain ⟨hx, hpartition⟩ := List.mem_filter.mp hx
    exact ⟨x, hx, rfl, haddress, of_decide_eq_true hpartition⟩
  case own =>
    intro piece hpiece
    obtain ⟨e, -, rfl⟩ := InputStage.mem_hashGroups.mp (hall.mem_iff.mp hpiece)
    exact ⟨rfl, rfl, rfl⟩
  case in_turn =>
    intro partitions hascending hmem i p hi j t ht
    rw [InputStage.eq_buckets hascending hmem] at hi
    exact exists_piece_iff hi (hshare j t ht)

/-- An attempt that is reported twice, another one from two ports of one host, and fewer tasks than
partitions. -/
theorem hash_conserves_repeated_entries :
    let a : PullAddress := ⟨"a", 1⟩
    let a' : PullAddress := ⟨"a", 2⟩
    let s : InputStage :=
      { stage := 3, table := "t", output := .hash, partitionKeys := ["k"], stats := ⟨9, 90, []⟩,
        entries := [⟨⟨0, 0⟩, 7, a, 1⟩, ⟨⟨1, 4⟩, 2, a', 1⟩, ⟨⟨0, 0⟩, 7, a, 5⟩, ⟨⟨1, 4⟩, 2, a, 1⟩,
          ⟨⟨1, 4⟩, 9, a, 1⟩] }
    ∃ tasks ids', hash s 2 ⟨4, 0⟩ = .ok (tasks, ids') ∧ HashPlan s 2 tasks :=
  hash_conserves _ 2 ⟨4, 0⟩ (by decide) (by decide)

end Planner

end Shuffle
