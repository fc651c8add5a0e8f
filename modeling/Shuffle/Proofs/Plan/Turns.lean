import Mathlib
import Shuffle.Proofs.Plan.Deal

/-!
# Dealing only appends

Tasks may hold pieces before groups are dealt onto them. Whatever they hold stays where it is, and
each table of task `j` of `n` gains its pieces of the groups `j`, `j + n`, `j + 2n` and so on, in
this order. The next call starts again with the first task.

- `Task.held` are the pieces of one table, and `Task.turns` the groups that come to one task.
- `Task.lookup_addGroup` says what one group changes, `Task.share_eq_turns` which groups they are.
- `Task.DealtTo` is what calls have to do, and `Task.deal_appends` says that they do it.
-/

namespace Shuffle

namespace Task

/-! ## §1 Tables of one task -/

/-- The tables of a task are in ascending order, each once. -/
def Keyed (t : Task) : Prop := Ordered.Ascending (fun a b => decide (a < b)) t.fetches

/-- The pieces that a task fetches for a table, in their order. -/
def held (t : Task) (table : String) : List FetchDescriptor := (t.fetches.lookup table).getD []

/-- Does the task name a table? -/
def names (t : Task) (table : String) : Bool := (t.fetches.lookup table).isSome

/-- The pieces for one table, in their order. -/
def ofTable (table : String) (pieces : List TableFetch) : List FetchDescriptor :=
  (pieces.filter (·.1 = table)).map (·.2)

/-- The fetches of a table keep their order. -/
theorem ofTable_append (table : String) (pieces more : List TableFetch) :
    ofTable table (pieces ++ more) = ofTable table pieces ++ ofTable table more := by
  rw [ofTable, List.filter_append, List.map_append]
  rfl

/-- Adding a piece keeps tables apart. -/
theorem keyed_add {t : Task} (ht : t.Keyed) (piece : TableFetch) : (t.add piece).Keyed :=
  Ordered.ascending_update Ordered.strict_text ht

/-- The tables of a task stay in order, whatever it is dealt. -/
theorem keyed_addGroup {t : Task} (ht : t.Keyed) (group : FetchGroup) :
    (t.addGroup group).Keyed := by
  induction group generalizing t with
  | nil => exact ht
  | cons piece group ih => exact ih (keyed_add ht piece)

/-- A piece goes behind the others of its table. -/
theorem held_add {t : Task} (ht : t.Keyed) (piece : TableFetch) (table : String) :
    (t.add piece).held table = t.held table ++ ofTable table [piece] := by
  by_cases htable : piece.1 = table
  · subst htable
    rw [held, add, Ordered.lookup_update Ordered.strict_text ht]
    simp [held, ofTable]
  · rw [held, add, Ordered.lookup_update_of_ne (Ne.symm htable)]
    simp [held, ofTable, htable]

/-- A table is named when it was so before or is that of the fetch. -/
theorem names_add {t : Task} (ht : t.Keyed) (piece : TableFetch) (table : String) :
    (t.add piece).names table = (t.names table || decide (ofTable table [piece] ≠ [])) := by
  by_cases htable : piece.1 = table
  · subst htable
    rw [names, add, Ordered.lookup_update Ordered.strict_text ht]
    simp [ofTable]
  · rw [names, add, Ordered.lookup_update_of_ne (Ne.symm htable)]
    simp [names, ofTable, htable]

/-- A group goes behind what the task holds, table by table. -/
theorem held_addGroup {t : Task} (ht : t.Keyed) (group : FetchGroup) (table : String) :
    (t.addGroup group).held table = t.held table ++ ofTable table group := by
  induction group generalizing t with
  | nil => exact (List.append_nil _).symm
  | cons piece group ih =>
    have hrest := ih (keyed_add ht piece)
    rw [held_add ht, List.append_assoc, ← ofTable_append] at hrest
    exact hrest

/-- A task names the tables of a group that it is given, and those that it named before. -/
theorem names_addGroup {t : Task} (ht : t.Keyed) (group : FetchGroup) (table : String) :
    (t.addGroup group).names table = (t.names table || decide (ofTable table group ≠ [])) := by
  -- On the group: every piece brings its table, if it was not there before.
  induction group generalizing t with
  | nil => simp [addGroup, ofTable]
  | cons piece group ih =>
    have hrest := ih (keyed_add ht piece)
    have hsplit : ofTable table (piece :: group) = ofTable table [piece] ++ ofTable table group :=
      ofTable_append table [piece] group
    rw [names_add ht, Bool.or_assoc] at hrest
    rw [hsplit]
    refine hrest.trans (congrArg (t.names table || ·) ?_)
    simp

/-! ## §2 Turns -/

/-- The groups that come to task `j` of `n`: the ones with the indices `j`, `j + n`, `j + 2n` and
so on, as far as there are any. -/
def turns (n j : Nat) (groups : List FetchGroup) : List FetchGroup :=
  (List.range groups.length).filterMap fun turn => groups[j + n * turn]?

/-- If the next turn of a task is `wait` groups away, its share is every `n`-th group from there
on. -/
private theorem share_eq_filterMap {n j k wait bound : Nat} {groups : List FetchGroup}
    (hwait : wait < n) (hturn : (k + wait) % n = j) (hbound : groups.length ≤ bound) :
    share n j k groups
      = ((List.range bound).filterMap fun turn => groups[wait + n * turn]?).flatten := by
  induction groups generalizing k wait bound with
  | nil => simp [share]
  | cons g rest ih =>
    rw [List.length_cons] at hbound
    cases wait with
    | zero =>
      -- The turn has come, and the one after it is `n` groups later.
      rw [Nat.add_zero] at hturn
      obtain ⟨bound, rfl⟩ : ∃ b, bound = b + 1 := ⟨bound - 1, by omega⟩
      have hnext : (k + 1 + (n - 1)) % n = j := by
        rw [Nat.add_assoc, Nat.add_sub_cancel' (by omega), Nat.add_mod_right]
        exact hturn
      have hindex (turn : Nat) : (g :: rest)[0 + n * (turn + 1)]? = rest[n - 1 + n * turn]? := by
        have hsucc : 0 + n * (turn + 1) = n - 1 + n * turn + 1 := by
          rw [Nat.mul_succ]
          omega
        rw [hsucc, List.getElem?_cons_succ]
      rw [share, if_pos hturn, ih (by omega) hnext (by omega : rest.length ≤ bound),
        List.range_succ_eq_map, List.filterMap_cons, List.filterMap_map]
      simp only [Function.comp_def, Nat.succ_eq_add_one, hindex, Nat.mul_zero, Nat.add_zero,
        List.getElem?_cons_zero, List.flatten_cons]
    | succ wait =>
      -- It is another task's turn.
      have hother : k % n ≠ j := by
        intro hself
        have hdvd : (k + (wait + 1) - k) % n = 0 :=
          Nat.sub_mod_eq_zero_of_mod_eq (by rw [hturn, hself])
        rw [Nat.add_sub_cancel_left, Nat.mod_eq_of_lt hwait] at hdvd
        exact absurd hdvd (Nat.succ_ne_zero wait)
      have hindex (turn : Nat) : (g :: rest)[wait + 1 + n * turn]? = rest[wait + n * turn]? := by
        rw [Nat.add_right_comm, List.getElem?_cons_succ]
      have hnext : (k + 1 + wait) % n = j := by rwa [Nat.add_assoc, Nat.add_comm 1]
      have hrest : rest.length ≤ bound := by omega
      rw [share, if_neg hother, List.nil_append, ih (by omega) hnext hrest]
      simp only [hindex]

/-- What a task is dealt are the groups at its turns. -/
theorem share_eq_turns {n j : Nat} (hj : j < n) (groups : List FetchGroup) :
    share n j 0 groups = (turns n j groups).flatten :=
  share_eq_filterMap hj (by rw [Nat.zero_add, Nat.mod_eq_of_lt hj]) (Nat.le_refl _)

/-! ## §3 Calls -/

/-- Task `t'` is task `t` with more pieces: each table holds what it held and then its new pieces,
and no table is named without need. -/
structure Gains (t t' : Task) (pieces : List TableFetch) : Prop where
  id : t'.id = t.id
  keyed : t'.Keyed
  held : ∀ table, t'.held table = t.held table ++ ofTable table pieces
  names : ∀ table, t'.names table = (t.names table || decide (ofTable table pieces ≠ []))

/-- A task that is dealt nothing stays as it is. -/
theorem Gains.none {t : Task} (ht : t.Keyed) : Gains t t [] where
  id := rfl
  keyed := ht
  held _ := (List.append_nil _).symm
  names _ := (Bool.or_false _).symm

/-- A group is gained behind all that was gained before. -/
theorem Gains.addGroup {t t' : Task} {pieces : List TableFetch} (h : Gains t t' pieces)
    (group : FetchGroup) : Gains t (t'.addGroup group) (pieces ++ group) where
  id := (t'.addGroup_id group).trans h.id
  keyed := keyed_addGroup h.keyed group
  held table := by
    rw [held_addGroup h.keyed, h.held, ofTable_append, List.append_assoc]
  names table := by
    rw [names_addGroup h.keyed, h.names, ofTable_append, Bool.or_assoc]
    simp

/-- Deals one list of groups after the other onto the same tasks. -/
def dealAll (calls : List (List FetchGroup)) (tasks : Array Task) : Except PlanError (Array Task) :=
  calls.foldlM (fun tasks groups => deal groups tasks) tasks

/-- What calls make of tasks: each task gains the groups of its turns, call after call, and all
tasks together gain each group once. -/
structure DealtTo (calls : List (List FetchGroup)) (tasks dealt : Array Task) : Prop where
  size : dealt.size = tasks.size
  task : ∀ (j : Nat) (t : Task), tasks[j]? = some t → ∃ t', dealt[j]? = some t' ∧
    Gains t t' (calls.flatMap fun groups => (turns tasks.size j groups).flatten)
  all : (dealt.toList.flatMap tableFetches).Perm
    (tasks.toList.flatMap tableFetches ++ (calls.flatMap List.flatten))

/-- Dealing begins at the first task, and needs one. -/
theorem deal_eq {tasks : Array Task} (htasks : 0 < tasks.size) (groups : List FetchGroup) :
    deal groups tasks = .ok (dealFrom 0 groups tasks) := by
  rw [deal, if_neg]
  rw [Array.isEmpty_iff_size_eq_zero]
  omega

/-- A further call leads on to where all calls together lead. -/
theorem DealtTo.deal {calls : List (List FetchGroup)} {tasks dealt : Array Task}
    (h : DealtTo calls tasks dealt) (htasks : 0 < tasks.size) (groups : List FetchGroup) :
    DealtTo (calls ++ [groups]) tasks (dealFrom 0 groups dealt) where
  size := (size_dealFrom 0 groups dealt).trans h.size
  task j t hj := by
    obtain ⟨t', hj', hgains⟩ := h.task j t hj
    have hlt : j < tasks.size := (Array.getElem?_eq_some_iff.mp hj).1
    -- One more call deals to each task its share, behind the shares of the calls before.
    have hstep := dealFrom_getElem? 0 groups h.size hj'
    rw [Nat.zero_mod] at hstep
    refine ⟨_, hstep, ?_⟩
    rw [share_eq_turns hlt, List.flatMap_append, List.flatMap_singleton]
    exact hgains.addGroup _
  all := by
    have hstep := flatMap_dealFrom_perm groups (h.size ▸ htasks : 0 < dealt.size)
    rw [List.flatMap_append, List.flatMap_singleton, ← List.append_assoc]
    exact hstep.trans (h.all.append_right _)

/-- Without a call nothing is dealt. -/
theorem dealtTo_nil {tasks : Array Task} (hkeyed : ∀ t ∈ tasks, t.Keyed) :
    DealtTo [] tasks tasks where
  size := rfl
  task _ t hj := ⟨t, hj, Gains.none (hkeyed t (Array.mem_of_getElem? hj))⟩
  all := by simp

/-- Any number of calls deals to each task its turns in all of them. -/
theorem dealAll_dealtTo {calls : List (List FetchGroup)} {tasks : Array Task}
    (htasks : 0 < tasks.size) (hkeyed : ∀ t ∈ tasks, t.Keyed) :
    ∃ dealt, dealAll calls tasks = .ok dealt ∧ DealtTo calls tasks dealt := by
  -- Calls come one behind the other, so the induction is from the last one.
  induction calls using List.reverseRecOn with
  | nil => exact ⟨tasks, rfl, dealtTo_nil hkeyed⟩
  | append_singleton calls groups ih =>
    obtain ⟨dealt, hdealt, h⟩ := ih
    refine ⟨dealFrom 0 groups dealt, ?_, h.deal htasks groups⟩
    have hstep := deal_eq (h.size ▸ htasks : 0 < dealt.size) groups
    rw [dealAll] at hdealt ⊢
    rw [List.foldlM_append, hdealt]
    simp only [List.foldlM_cons, List.foldlM_nil, bind, Except.bind, hstep]
    rfl

/-- **Dealing in turn only appends.** Onto tasks that are there, one call or a sequence of calls
always succeeds; every task keeps its number and, table by table, the pieces that it had, and behind
them gains those of the groups `j`, `j + n`, `j + 2n` and so on of each call; and no piece is lost
or repeated. Without tasks a call succeeds exactly if it has no groups, and else its fault tells how
many it has. -/
theorem deal_appends {tasks : Array Task} (hkeyed : ∀ t ∈ tasks, t.Keyed)
    (calls : List (List FetchGroup)) :
    (tasks ≠ #[] →
      (∀ groups, ∃ dealt, deal groups tasks = .ok dealt ∧ DealtTo [groups] tasks dealt) ∧
      ∃ dealt, dealAll calls tasks = .ok dealt ∧ DealtTo calls tasks dealt) ∧
    (tasks = #[] → ∀ groups, deal groups tasks
      = if groups.length = 0 then .ok #[] else .error (.noTasks groups.length)) := by
  refine ⟨fun hne => ?_, ?_⟩
  · have htasks : 0 < tasks.size := Array.size_pos_iff.mpr hne
    refine ⟨fun groups => ?_, dealAll_dealtTo htasks hkeyed⟩
    exact ⟨_, deal_eq htasks groups, (dealtTo_nil hkeyed).deal htasks groups⟩
  · rintro rfl groups
    cases groups with
    | nil => rfl
    | cons group rest => rfl

/-- A fetch of one hash bucket. -/
def bucket (partition : UInt32) : FetchDescriptor :=
  ⟨⟨"a", 1⟩, ⟨1, partition, .hash, [⟨0, 0⟩]⟩⟩

/-- The first task has pieces of one table already, the second one has nothing. -/
def begun : Array Task := #[⟨⟨4, 7⟩, [("sales", [bucket 9])]⟩, ⟨⟨4, 8⟩, []⟩]

/-- Three groups, so that the first task has two turns, and then one group more. -/
def twoCalls : List (List FetchGroup) :=
  [[[("sales", bucket 0), ("items", bucket 0)], [("sales", bucket 1)],
    [("items", bucket 2), ("sales", bucket 2)]], [[("sales", bucket 3)]]]

/-- Both calls begin with the first task, and each table keeps what it had in front. -/
theorem deal_appends_begun :
    (∀ t ∈ begun, t.Keyed) ∧ begun ≠ #[] ∧
      ∃ dealt t t', dealAll twoCalls begun = .ok dealt ∧ dealt[0]? = some t ∧ dealt[1]? = some t' ∧
        t.id = ⟨4, 7⟩ ∧ t.held "sales" = [bucket 9, bucket 0, bucket 2, bucket 3] ∧
        t.held "items" = [bucket 0, bucket 2] ∧ t.names "users" = false ∧
        t'.id = ⟨4, 8⟩ ∧ t'.held "sales" = [bucket 1] ∧ t'.names "items" = false := by
  have hkeyed : ∀ t ∈ begun, t.Keyed := by
    intro t ht
    simp only [begun, List.mem_toArray, List.mem_cons, List.not_mem_nil, or_false] at ht
    rcases ht with rfl | rfl
    · exact List.pairwise_singleton _ _
    · exact List.Pairwise.nil
  have hne : begun ≠ #[] := by decide
  obtain ⟨dealt, hdealt, h⟩ := ((deal_appends hkeyed twoCalls).1 hne).2
  -- What the two tasks gained, read off the theorem.
  obtain ⟨t, ht, hgains⟩ := h.task 0 _ rfl
  obtain ⟨t', ht', hgains'⟩ := h.task 1 _ rfl
  refine ⟨hkeyed, hne, dealt, t, t', hdealt, ht, ht', hgains.id, ?_, ?_, ?_, hgains'.id, ?_, ?_⟩
  · rw [hgains.held]
    decide
  · rw [hgains.held]
    decide
  · rw [hgains.names]
    decide
  · rw [hgains'.held]
    decide
  · rw [hgains'.names]
    decide

end Task

end Shuffle
