import Mathlib
import Shuffle.Plan.Repartition
import Shuffle.Proofs.Fallible
import Shuffle.Proofs.Ordered

/-!
# Dealing loses no piece

Groups are dealt onto tasks in turn. Up to the order of the pieces within a task, task `j` of `n`
holds the groups with the indices `j`, `j + n`, and so on, and all tasks together hold every group.

- `Task.share` is what one task is dealt.
- `Planner.dealOnto_spec` is what a plan relies on.
-/

namespace Shuffle

namespace Task

/-! ## §1 The pieces of one task -/

/-- The pieces of a task, each with its table. -/
def tableFetches (t : Task) : List TableFetch :=
  t.fetches.flatMap fun (table, pieces) => pieces.map (table, ·)

/-- The pieces of a task, without the names of their tables. -/
theorem pieces_eq (t : Task) : t.pieces = t.tableFetches.map (·.2) := by
  simp [pieces, tableFetches, List.map_flatMap]

/-- The order of the tables does not matter to what a task fetches. -/
theorem pieces_perm {t : Task} {group : FetchGroup} (h : t.tableFetches.Perm group) :
    t.pieces.Perm (group.map (·.2)) := by
  rw [t.pieces_eq]
  exact h.map _

/-- A fetch is put with those of its table, and none is lost. -/
theorem tableFetches_add (t : Task) (piece : TableFetch) :
    (t.add piece).tableFetches.Perm (t.tableFetches ++ [piece]) := by
  -- What a table of the task holds, with the table in front.
  let held (table : String) (pieces : List FetchDescriptor) : FetchGroup := pieces.map (table, ·)
  exact Ordered.flatMap_update_perm held rfl (fun _ => List.map_append) t.fetches

/-- A group that is added keeps all pieces that were there. -/
theorem tableFetches_addGroup (t : Task) (group : FetchGroup) :
    (t.addGroup group).tableFetches.Perm (t.tableFetches ++ group) := by
  induction group generalizing t with
  | nil => simp [addGroup]
  | cons piece group ih =>
    have hfirst := (tableFetches_add t piece).append_right group
    rw [List.append_assoc] at hfirst
    exact (ih (t.add piece)).trans hfirst

/-- Two groups may be added one after the other. -/
theorem addGroup_append (t : Task) (group group' : FetchGroup) :
    t.addGroup (group ++ group') = (t.addGroup group).addGroup group' :=
  List.foldl_append

/-- A task that reads one table keeps reading one, in the order in which it was dealt. -/
private theorem fetches_addGroup_of_table {table : String} {t : Task} {held : List FetchDescriptor}
    {group : FetchGroup} (ht : t.fetches = [(table, held)])
    (htable : ∀ piece ∈ group, piece.1 = table) :
    (t.addGroup group).fetches = [(table, held ++ group.map (·.2))] := by
  induction group generalizing t held with
  | nil => rw [List.map_nil, List.append_nil, ← ht, addGroup, List.foldl_nil]
  | cons piece rest ih =>
    obtain ⟨hpiece, hrest⟩ := List.forall_mem_cons.mp htable
    have hadd : (t.add piece).fetches = [(table, held ++ [piece.2])] := by
      rw [add, ht, hpiece, Ordered.update, if_pos rfl]
    have hall := ih hadd hrest
    rw [List.append_assoc] at hall
    exact hall

/-- A new task that is given pieces of one table holds them in their order. -/
theorem tableFetches_addGroup_of_table {table : String} {id : TaskId} {group : FetchGroup}
    (htable : ∀ piece ∈ group, piece.1 = table) : (addGroup { id } group).tableFetches = group := by
  cases group with
  | nil => rfl
  | cons piece rest =>
    obtain ⟨hpiece, hrest⟩ := List.forall_mem_cons.mp htable
    have hadd : (add { id } piece).fetches = [(table, [piece.2])] := by rw [← hpiece]; rfl
    change ((add { id } piece).addGroup rest).tableFetches = piece :: rest
    rw [tableFetches, fetches_addGroup_of_table hadd hrest, List.flatMap_singleton]
    -- With the table in front again, each piece is as it was.
    have hback : (piece :: rest).map (fun p => (table, p.2)) = piece :: rest := by
      refine (List.map_congr_left fun p hp => ?_).trans (List.map_id _)
      rw [← htable p hp]
      rfl
    change ((piece :: rest).map (·.2)).map (table, ·) = piece :: rest
    rw [List.map_map]
    exact hback

/-- A group does not change the name of a task. -/
theorem addGroup_id (t : Task) (group : FetchGroup) : (t.addGroup group).id = t.id := by
  induction group generalizing t with
  | nil => rfl
  | cons piece group ih => exact ih (t.add piece)

/-! ## §2 Shares -/

/-- What task `j` of `n` is dealt of groups that are counted from `k`. -/
def share (n j : Nat) : (k : Nat) → List FetchGroup → FetchGroup
  | _, [] => []
  | k, group :: rest => (if k % n = j then group else []) ++ share n j (k + 1) rest

/-- A task gets the groups whose turn is its own. -/
theorem mem_share {n j k : Nat} {groups : List FetchGroup} {piece : TableFetch} :
    piece ∈ share n j k groups ↔
      ∃ i group, groups[i]? = some group ∧ (k + i) % n = j ∧ piece ∈ group := by
  induction groups generalizing k with
  | nil => simp [share]
  | cons g rest ih =>
    rw [share, List.mem_append, ih]
    constructor
    · -- The first group has index 0, and the others are counted on from it.
      rintro (hpiece | ⟨i, group, hi, hmod, hpiece⟩)
      · split at hpiece
        case isTrue hmod => exact ⟨0, g, rfl, hmod, hpiece⟩
        case isFalse => cases hpiece
      · exact ⟨i + 1, group, hi, by rwa [← Nat.add_assoc, Nat.add_right_comm], hpiece⟩
    · rintro ⟨_ | i, group, hi, hmod, hpiece⟩
      · obtain rfl : g = group := by simpa using hi
        rw [Nat.add_zero] at hmod
        exact Or.inl (by rwa [if_pos hmod])
      · refine Or.inr ⟨i, group, by simpa using hi, ?_, hpiece⟩
        rwa [Nat.add_right_comm, Nat.add_assoc]

/-- Before the count comes back to a task it is dealt nothing. -/
private theorem share_eq_nil {n j k : Nat} {groups : List FetchGroup} (hj : j < k)
    (hn : k + groups.length ≤ n) : share n j k groups = [] := by
  induction groups generalizing k with
  | nil => rfl
  | cons g rest ih =>
    rw [List.length_cons] at hn
    have hmod : k % n = k := Nat.mod_eq_of_lt (by omega)
    rw [share, hmod, if_neg (by omega), ih (by omega) (by omega), List.nil_append]

/-- Where there are no more groups than tasks, a task is dealt one group. -/
theorem share_eq_group {n k i : Nat} {groups : List FetchGroup} {group : FetchGroup}
    (hi : groups[i]? = some group) (hn : k + groups.length ≤ n) :
    share n (k + i) k groups = group := by
  induction groups generalizing k i with
  | nil => simp at hi
  | cons g rest ih =>
    rw [List.length_cons] at hn
    -- The count does not come back to the first task, so turns are indices.
    have hmod : k % n = k := Nat.mod_eq_of_lt (by omega)
    cases i with
    | zero =>
      obtain rfl : g = group := by simpa using hi
      have hrest : share n k (k + 1) rest = [] := share_eq_nil (Nat.lt_succ_self k) (by omega)
      rw [share, hmod, Nat.add_zero, if_pos rfl, hrest, List.append_nil]
    | succ i =>
      have hrest := ih (k := k + 1) (by simpa using hi) (by omega)
      rw [share, hmod, if_neg (by omega), List.nil_append, Nat.add_comm i 1, ← Nat.add_assoc, hrest]

section Turns

variable {κ : Type} {key : TableFetch → κ} {group : κ → FetchGroup} {n : Nat} {keys : List κ}

/-- If every key has a group of its own, a piece is dealt in the turn of its key. -/
theorem exists_turn_of_mem_share (hkey : ∀ k, ∀ piece ∈ group k, key piece = k) {j : Nat}
    {piece : TableFetch} (h : piece ∈ share n j 0 (keys.map group)) :
    ∃ i, keys[i]? = some (key piece) ∧ i % n = j := by
  obtain ⟨i, g, hi, hturn, hpiece⟩ := mem_share.mp h
  rw [List.getElem?_map, Option.map_eq_some_iff] at hi
  obtain ⟨k, hk, rfl⟩ := hi
  refine ⟨i, ?_, ?_⟩
  · rw [hk, hkey k piece hpiece]
  · simpa using hturn

/-- Keys have one turn each, so the pieces of a key meet on one task. -/
theorem eq_of_mem_share (hkey : ∀ k, ∀ piece ∈ group k, key piece = k) (hnodup : keys.Nodup)
    {i j : Nat} {piece piece' : TableFetch} (hi : piece ∈ share n i 0 (keys.map group))
    (hj : piece' ∈ share n j 0 (keys.map group)) (hsame : key piece = key piece') : i = j := by
  obtain ⟨a, ha, rfl⟩ := exists_turn_of_mem_share hkey hi
  obtain ⟨b, hb, rfl⟩ := exists_turn_of_mem_share hkey hj
  have hlt : a < keys.length := (List.getElem?_eq_some_iff.mp ha).1
  have hab : a = b := (List.getElem?_inj hlt hnodup).mp (by rw [ha, hb, hsame])
  rw [hab]

end Turns

/-! ## §3 Dealing -/

/-- Dealing gives each task its share, one group after the other. -/
theorem dealFrom_getElem? {n : Nat} (k : Nat) (groups : List FetchGroup)
    {tasks : Array Task} (hsize : tasks.size = n) {j : Nat} {t : Task}
    (hj : tasks[j]? = some t) :
    (dealFrom (k % n) groups tasks)[j]? = some (t.addGroup (share n j k groups)) := by
  induction groups generalizing k tasks t with
  | nil => exact hj
  | cons g rest ih =>
    have hnext : (k % tasks.size + 1) % tasks.size = (k + 1) % n := by rw [hsize, Nat.mod_add_mod]
    have hmod : (tasks.modify (k % n) (·.addGroup g)).size = n := by rw [Array.size_modify, hsize]
    rw [dealFrom, ← hsize, hnext, hsize, share]
    by_cases hturn : k % n = j
    · -- The turn of task `j`: it gains the group before it is dealt the rest.
      have hj' : (tasks.modify (k % n) (·.addGroup g))[j]? = some (t.addGroup g) := by
        rw [Array.getElem?_modify, if_pos hturn, hj, Option.map_some]
      rw [if_pos hturn, addGroup_append]
      exact ih (k + 1) hmod hj'
    · -- The turn of another task, which leaves task `j` as it is.
      have hj' : (tasks.modify (k % n) (·.addGroup g))[j]? = some t := by
        rw [Array.getElem?_modify, if_neg hturn, hj]
      rw [if_neg hturn, List.nil_append]
      exact ih (k + 1) hmod hj'

/-- Dealing makes no tasks. -/
theorem size_dealFrom (next : Nat) (groups : List FetchGroup) (tasks : Array Task) :
    (dealFrom next groups tasks).size = tasks.size := by
  induction groups generalizing next tasks with
  | nil => rfl
  | cons g rest ih => rw [dealFrom, ih, Array.size_modify]

/-- Dealing keeps the numbers of the tasks. -/
theorem map_id_dealFrom (next : Nat) (groups : List FetchGroup) (tasks : Array Task) :
    (dealFrom next groups tasks).toList.map Task.id = tasks.toList.map Task.id := by
  induction groups generalizing next tasks with
  | nil => rfl
  | cons g rest ih =>
    rw [dealFrom, ih]
    -- One task gets a group, and keeps its name.
    apply List.ext_getElem?
    intro j
    rw [List.getElem?_map, List.getElem?_map, Array.toList_modify, List.getElem?_modify]
    split
    · simp [Function.comp_def, addGroup_id]
    · rw [id_map']

/-- Dealing that succeeds has gone round the tasks from the first one on. -/
theorem eq_of_deal_ok {groups : List FetchGroup} {tasks dealt : Array Task}
    (h : deal groups tasks = .ok dealt) : dealt = dealFrom 0 groups tasks := by
  unfold deal at h
  split_ifs at h with hnone hgroups
  · cases h
    rw [List.isEmpty_iff.mp hgroups, dealFrom]
  · exact (Except.ok.inj h).symm

/-- Dealing puts every group onto some task. -/
theorem flatMap_dealFrom_perm {next : Nat} (groups : List FetchGroup) {tasks : Array Task}
    (hnext : next < tasks.size) :
    ((dealFrom next groups tasks).toList.flatMap tableFetches).Perm
      (tasks.toList.flatMap tableFetches ++ groups.flatten) := by
  induction groups generalizing next tasks with
  | nil => simp [dealFrom]
  | cons g rest ih =>
    have hsize : (tasks.modify next (·.addGroup g)).size = tasks.size := Array.size_modify
    have hlt : (next + 1) % tasks.size < (tasks.modify next (·.addGroup g)).size := by
      rw [hsize]
      exact Nat.mod_lt _ (by omega)
    obtain ⟨before, t, after, htasks, -, hmodified⟩ :=
      List.exists_of_modify (·.addGroup g) (l := tasks.toList) hnext
    -- One step: only the task whose turn it is changes, and it gains the group.
    have hstep : ((tasks.modify next (·.addGroup g)).toList.flatMap tableFetches).Perm
        (tasks.toList.flatMap tableFetches ++ g) := by
      rw [Array.toList_modify, hmodified, htasks]
      simp only [List.flatMap_append, List.flatMap_cons, List.append_assoc]
      refine List.Perm.append_left _ ?_
      refine ((tableFetches_addGroup t g).append_right _).trans ?_
      rw [List.append_assoc]
      exact List.Perm.append_left _ List.perm_append_comm
    have hrest := (ih hlt).trans (hstep.append_right rest.flatten)
    rw [List.append_assoc] at hrest
    rw [dealFrom, List.flatten_cons]
    exact hrest

end Task

/-! ## §4 Plans -/

/-- Each task of a plan is a new one that was given its share. -/
theorem Planner.eq_addGroup_of_dealOnto_ok {n : Nat} {groups : List FetchGroup}
    {ids ids' : TaskIds} {tasks : List Task} (h : dealOnto n groups ids = .ok (tasks, ids'))
    {j : Nat} {t : Task} (hj : tasks[j]? = some t) :
    ∃ id, t = Task.addGroup { id } (Task.share n j 0 groups) := by
  have hcreated : (ids.create n).1.toArray.size = n := by simp [TaskIds.create]
  obtain ⟨dealt, hdealt, hanswer⟩ := Fallible.bind_eq_ok.mp h
  change Task.deal groups (ids.create n).1.toArray = .ok dealt at hdealt
  obtain rfl := Task.eq_of_deal_ok hdealt
  obtain rfl : Array.toList _ = tasks := congrArg Prod.fst (Except.ok.inj hanswer)
  rw [Array.getElem?_toList] at hj
  have hlt : j < n := by
    have hlt := (Array.getElem?_eq_some_iff.mp hj).1
    rwa [Task.size_dealFrom, hcreated] at hlt
  -- Before the dealing the task is new and has no fetch.
  have hfresh : (ids.create n).1.toArray[j]?
      = some { id := ⟨ids.stage, ids.next + UInt32.ofNat j⟩ } := by
    simp [TaskIds.create, hlt]
  have hshare := Task.dealFrom_getElem? 0 groups hcreated hfresh
  rw [Nat.zero_mod, hj] at hshare
  exact ⟨_, Option.some.inj hshare⟩

/-- A plan that deals groups onto `n` new tasks. Tasks begin without pieces, so what they hold in
the end is their share. -/
theorem Planner.dealOnto_spec {n : Nat} (hn : 0 < n) (groups : List FetchGroup) (ids : TaskIds) :
    ∃ tasks, dealOnto n groups ids = .ok (tasks, (ids.create n).2) ∧ tasks.length = n ∧
      (tasks.flatMap Task.tableFetches).Perm groups.flatten ∧
      ∀ (j : Nat) (t : Task), tasks[j]? = some t →
        t.tableFetches.Perm (Task.share n j 0 groups) := by
  have hcreated : (ids.create n).1.toArray.size = n := by simp [TaskIds.create]
  have hempty : ∀ t ∈ (ids.create n).1, t.tableFetches = [] := by
    intro t ht
    obtain ⟨i, -, rfl⟩ := List.mem_map.mp ht
    rfl
  -- Dealing fails only when there is no task, and there are some.
  have hdeal : Task.deal groups (ids.create n).1.toArray
      = .ok (Task.dealFrom 0 groups (ids.create n).1.toArray) := by
    rw [Task.deal, if_neg]
    rw [Array.isEmpty_iff_size_eq_zero, hcreated]
    omega
  have hplan : dealOnto n groups ids
      = .ok ((Task.dealFrom 0 groups (ids.create n).1.toArray).toList, (ids.create n).2) := by
    simp only [dealOnto, hdeal]
    rfl
  refine ⟨_, hplan, ?_, ?_, ?_⟩
  · rw [Array.length_toList, Task.size_dealFrom, hcreated]
  · have hnext : 0 < (ids.create n).1.toArray.size := by omega
    -- All fetches are those of new tasks, which have none, and those of the groups.
    have hperm := Task.flatMap_dealFrom_perm groups hnext
    rwa [List.flatMap_eq_nil_iff.mpr hempty, List.nil_append] at hperm
  · intro j t hj
    obtain ⟨id, rfl⟩ := eq_addGroup_of_dealOnto_ok hplan hj
    exact Task.tableFetches_addGroup { id } _

/-- To deal nothing onto no task takes no number. -/
theorem Planner.dealOnto_nil (ids : TaskIds) : dealOnto 0 [] ids = .ok ([], ids) := by
  simp [dealOnto, TaskIds.create, Task.deal, bind, Except.bind, pure, Except.pure]

/-- A plan that gives up where there are no groups deals them onto no task. -/
theorem Planner.dealOnto_of_isEmpty (n : Nat) (groups : List FetchGroup) (ids : TaskIds) :
    (if groups.isEmpty then .ok ([], ids) else dealOnto n groups ids)
      = dealOnto (if groups.isEmpty then 0 else n) groups ids := by
  cases groups with
  | nil => exact (dealOnto_nil ids).symm
  | cons group rest => rfl

/-- Whenever groups are dealt, the tasks hold all of them. -/
theorem Planner.perm_of_dealOnto_ok {n : Nat} {groups : List FetchGroup} {ids ids' : TaskIds}
    {tasks : List Task} (h : dealOnto n groups ids = .ok (tasks, ids')) :
    (tasks.flatMap Task.tableFetches).Perm groups.flatten := by
  cases n with
  | zero =>
    -- Without tasks there were no groups.
    cases groups with
    | nil =>
      cases h
      simp
    | cons group rest => cases h
  | succ n =>
    obtain ⟨tasks', hdealt, -, hall, -⟩ := dealOnto_spec n.succ_pos groups ids
    rw [h] at hdealt
    cases hdealt
    exact hall

/-- There are as many tasks as were made. -/
theorem Planner.length_of_dealOnto_ok {n : Nat} {groups : List FetchGroup} {ids ids' : TaskIds}
    {tasks : List Task} (h : dealOnto n groups ids = .ok (tasks, ids')) : tasks.length = n := by
  -- Without tasks nothing can be dealt, so there were no groups.
  cases n with
  | zero =>
    cases groups with
    | nil =>
      cases h
      rfl
    | cons group rest => cases h
  | succ n =>
    obtain ⟨tasks', hdealt, hlength, -, -⟩ := dealOnto_spec n.succ_pos groups ids
    rw [h] at hdealt
    cases hdealt
    exact hlength

end Shuffle
