import Mathlib
import Shuffle.Proofs.Store.Walk

/-!
# Making files

In a store that was made by putting files into directories, every node lies in a directory. There a
path that only goes down is looked up in one step: it leads to one place, whatever else the store
holds. Making directories adds directories on the way and nothing else, and putting a file changes
one place more.

- `FileStore.Sound` is the invariant of such stores, and `Sound.stat_eq_ok` the lookup.
- `FileStore.created_createSteps`: what making directories does, and when it succeeds.
- `FileStore.putIn_cases` and `FileStore.putIn_succeeds`: the same for putting a file.
- `FileStore.read_write`: a file that was written, at whatever path, is read as it was written.
-/

namespace Shuffle

open Fallible

/-! ## §1 The places of plain paths -/

namespace Path

/-- The place that a plain path leads to. -/
def place (p : Path) : Location := ⟨p.isAbsolute, 0, p.entries⟩

variable {p b : Path}

/-- A relative path goes on from where the other one ends. -/
theorem place_join (a : Path) (hb : b.isAbsolute = false) :
    (a.join b).place = a.place.descend b.entries := by
  simp [place, Location.descend, isAbsolute_join hb, entries_join hb]

/-- Names are gone down one by one. -/
theorem place_below (p : Path) {names : List String} (h : ∀ name ∈ names, IsName name) :
    (p.below names).place = p.place.descend names := by
  simp [place, Location.descend, isAbsolute_below p h, entries_below p h]

/-- A path that ends in a name may be that of a file. -/
theorem EndsInName.namesDirectory (h : p.EndsInName) : p.namesDirectory = false := by
  simp [Path.namesDirectory, h.last]

end Path

namespace Location

variable {l m : Location} {name name' : String}

/-- A child tells its directory and its name. -/
theorem child_inj : l.child name = m.child name' ↔ l = m ∧ name = name' := by
  cases l
  cases m
  simp [child, ← and_assoc]

/-- A place is not its own child. -/
theorem ne_child : l ≠ l.child name := by
  intro h
  have hlength := congrArg (·.names.length) h
  simp [child] at hlength

end Location

namespace FileStore

variable {s t : FileStore} {l m : Location} {p : Path} {node : Node} {name : String}

/-! ## §2 Sound stores -/

/-- Every node lies in a directory, and no name is too long. -/
structure Sound (s : FileStore) : Prop where
  parent : ∀ {l : Location} {name : String} {node : Node},
    s.node? (l.child name) = some node → s.node? l = some .directory
  short : ∀ {l : Location} {name : String} {node : Node},
    s.node? (l.child name) = some node → name.utf8ByteSize ≤ longestName

/-- Nothing is in an empty store. -/
theorem sound_empty : Sound {} where
  parent h := by simp [node?, Location.child] at h
  short h := by simp [node?, Location.child] at h

/-- What stands below a place can be walked to. -/
theorem Sound.walk_eq_ok (h : s.Sound) {names : List String}
    (hnode : s.node? (l.descend names) = some node) :
    s.walk l (names.map Path.Step.down) = .ok (l.descend names) := by
  -- Soundness goes from a node to its directory, and so the induction from the last name back.
  induction names using List.reverseRecOn generalizing node with
  | nil => simp [walk]
  | append_singleton names name ih =>
    rw [Location.descend_concat] at hnode ⊢
    rw [List.map_append, walk_append, ih (h.parent hnode)]
    exact walk_child.mpr ⟨h.parent hnode, h.short hnode, rfl⟩

/-- A plain path is walked downwards only, from the root or from the working directory. -/
theorem locate_plain (hp : p.IsPlain) (hend : p.EndsInName) :
    s.locate p = s.walk ⟨p.isAbsolute, 0, []⟩ (p.entries.map Path.Step.down) := by
  simp [locate, hp.hasZero hend, hend.nonempty, hp.steps hend]

/-- A walk along a plain path can end at its place alone. -/
theorem eq_place_of_locate (hp : p.IsPlain) (hend : p.EndsInName) (h : s.locate p = .ok l) :
    l = p.place := by
  rw [locate_plain hp hend] at h
  exact (walk_down.mp h).1

/-- A plain path is looked up in one step. -/
theorem Sound.stat_eq_ok (h : s.Sound) (hp : p.IsPlain) (hend : p.EndsInName) :
    s.stat p = .ok node ↔ s.node? p.place = some node := by
  rw [FileStore.stat_eq_ok]
  constructor
  · rintro ⟨l, hl, hnode⟩
    rwa [← eq_place_of_locate hp hend hl]
  · intro hnode
    refine ⟨p.place, ?_, hnode⟩
    rw [locate_plain hp hend]
    exact h.walk_eq_ok hnode

/-- A new node in a directory leaves a store sound, unless it takes the place of a directory. -/
theorem Sound.set (h : s.Sound) (hl : s.node? l = some .directory)
    (hshort : name.utf8ByteSize ≤ longestName) (hfree : s.node? (l.child name) ≠ some .directory) :
    (s.set (l.child name) node).Sound := by
  -- A child in the new store is the new node or was there before.
  have hnode {k : Location} {n : String} {found : Node}
      (hfound : (s.set (l.child name) node).node? (k.child n) = some found) :
      k.child n = l.child name ∨ s.node? (k.child n) = some found := by
    by_cases hsame : k.child n = l.child name
    · exact Or.inl hsame
    · rw [node?_set_of_ne s hsame] at hfound
      exact Or.inr hfound
  constructor
  · intro k n found hfound
    rcases hnode hfound with hsame | hold
    · obtain ⟨rfl, rfl⟩ := Location.child_inj.mp hsame
      rw [node?_set_of_ne s Location.ne_child, hl]
    · -- What was there lies in a directory, and so not below the new node.
      have hdir := h.parent hold
      have hne : k ≠ l.child name := by
        rintro rfl
        exact hfree hdir
      rw [node?_set_of_ne s hne, hdir]
  · intro k n found hfound
    rcases hnode hfound with hsame | hold
    · rwa [(Location.child_inj.mp hsame).2]
    · exact h.short hold

/-! ## §3 Making directories -/

/-- Nothing is lost, and what is new is a directory at a place where one may be. -/
structure Grows (s t : FileStore) (new : Location → Prop) : Prop where
  kept : ∀ {l : Location} {node : Node}, s.node? l = some node → t.node? l = some node
  added : ∀ {l : Location} {node : Node}, t.node? l = some node →
    s.node? l = some node ∨ node = .directory ∧ new l

namespace Grows

variable {new new' : Location → Prop}

/-- Every store grows from itself, by nothing. -/
theorem refl (s : FileStore) (new : Location → Prop) : s.Grows s new where
  kept h := h
  added h := Or.inl h

/-- What two changes made one after the other is what either made. -/
theorem trans {u : FileStore} (h : s.Grows t new) (h' : t.Grows u new')
    (hnew : ∀ l, new' l → new l) : s.Grows u new where
  kept hs := h'.kept (h.kept hs)
  added hu := by
    rcases h'.added hu with ht | ⟨rfl, hl⟩
    · exact h.added ht
    · exact Or.inr ⟨rfl, hnew _ hl⟩

/-- Growing makes directories, and neither makes nor changes a file. -/
theorem file_iff (h : s.Grows t new) {content : Bytes} :
    t.node? l = some (.file content) ↔ s.node? l = some (.file content) := by
  constructor
  · intro ht
    rcases h.added ht with hs | ⟨hnode, -⟩
    · exact hs
    · cases hnode
  · exact h.kept

end Grows

/-- A new directory is all that is new. -/
private theorem grows_set {new : Location → Prop} (hl : l.names ≠ []) (hfree : s.node? l = none)
    (hnew : new l) : s.Grows (s.set l .directory) new where
  kept {m node} h := by
    -- What was there stood elsewhere, for this place was free.
    have hne : m ≠ l := by
      rintro rfl
      rw [hfree] at h
      cases h
    rwa [node?_set_of_ne s hne]
  added {m node} h := by
    by_cases hsame : m = l
    · subst hsame
      rw [node?_set s hl] at h
      exact Or.inr ⟨(Option.some.inj h).symm, hnew⟩
    · rw [node?_set_of_ne s hsame] at h
      exact Or.inl h

/-- The places that are passed on the way down along names. -/
def OnWay (l : Location) (names : List String) (m : Location) : Prop :=
  ∃ init, init <+: names ∧ m = l.descend init

/-- A step on the way of the rest is one of the whole way. -/
private theorem onWay_child {names : List String} (h : OnWay (l.child name) names m) :
    OnWay l (name :: names) m := by
  obtain ⟨init, hinit, rfl⟩ := h
  exact ⟨name :: init, List.cons_prefix_cons.mpr ⟨rfl, hinit⟩, (l.descend_cons name init).symm⟩

/-- What making the directories along names from `l` on does. -/
structure Created (s : FileStore) (l : Location) (names : List String) (c : Change) : Prop where
  sound : c.store.Sound
  grows : s.Grows c.store (OnWay l names)
  reached : c.fault = none → c.store.node? (l.descend names) = some .directory
  succeeds : (∀ name ∈ names, name.utf8ByteSize ≤ longestName) →
    (∀ init, init <+: names → ∀ content, s.node? (l.descend init) ≠ some (.file content)) →
      c.fault = none

/-- Directories are made along the way, up to the first name that cannot be gone down. -/
theorem created_createSteps (hs : s.Sound) (hl : s.node? l = some .directory)
    (names : List String) :
    s.Created l names (s.createSteps l (names.map Path.Step.down)) := by
  induction names generalizing s l with
  | nil => exact ⟨hs, .refl s _, fun _ => by simpa [createSteps] using hl, fun _ _ => rfl⟩
  | cons name names ih =>
    -- Whatever stops the walk at this name, the store is as it was.
    have hstop {fault : FileFault}
        (hwhy : longestName < name.utf8ByteSize ∨
          ∃ content, s.node? (l.child name) = some (.file content)) :
        s.Created l (name :: names) ⟨s, some fault⟩ := by
      refine ⟨hs, .refl s _, fun h => absurd h (Option.some_ne_none fault),
        fun hshort hfree => ?_⟩
      rcases hwhy with hlong | ⟨content, hfile⟩
      · exact absurd (hshort name List.mem_cons_self) (Nat.not_le.mpr hlong)
      · have hfile' : s.node? (l.descend [name]) = some (.file content) := by
          rw [Location.descend_cons, Location.descend_nil, hfile]
        exact absurd hfile' (hfree [name] (by simp) content)
    -- Else it goes on from a store in which the directory is there.
    have hgo {t : FileStore} (ht : t.Sound) (hgrows : s.Grows t (OnWay l (name :: names)))
        (hdir : t.node? (l.child name) = some .directory) :
        s.Created l (name :: names) (t.createSteps (l.child name) (names.map Path.Step.down)) := by
      obtain ⟨hsound, hgrows', hreached, hsucceeds⟩ := ih ht hdir
      refine ⟨hsound, hgrows.trans hgrows' fun _ => onWay_child, ?_, ?_⟩
      · intro hfault
        rw [Location.descend_cons]
        exact hreached hfault
      · intro hshort hfree
        apply hsucceeds fun n hn => hshort n (List.mem_cons_of_mem name hn)
        intro init hinit content hfile
        rw [← Location.descend_cons] at hfile
        exact hfree (name :: init) (List.cons_prefix_cons.mpr ⟨rfl, hinit⟩) content
          (hgrows.file_iff.mp hfile)
    simp only [List.map_cons, createSteps]
    split
    next hlong => exact hstop (Or.inl hlong)
    next hshort =>
      split
      next hdir => exact hgo hs (.refl s _) hdir
      next content hfile => exact hstop (Or.inr ⟨content, hfile⟩)
      next hnone =>
        have hnames : (l.child name).names ≠ [] := by simp [Location.child]
        have hway : OnWay l (name :: names) (l.child name) :=
          ⟨[name], by simp, by rw [Location.descend_cons, Location.descend_nil]⟩
        apply hgo (hs.set hl (Nat.le_of_not_lt hshort) (by simp [hnone]))
        · exact grows_set hnames hnone hway
        · exact node?_set s hnames .directory

/-! ## §4 Putting files -/

/-- Writing a file puts it at the place that is found for it, unless there is a directory. -/
theorem write_ok_iff {content : Bytes} :
    s.write p content = .ok t ↔
      ∃ l, s.locateNew p = .ok l ∧ s.node? l ≠ some .directory ∧ t = s.set l (.file content) := by
  rw [write, bind_eq_ok]
  refine exists_congr fun l => and_congr_right fun _ => ?_
  cases s.node? l with
  | none => simp [pure, Except.pure, eq_comm]
  | some node =>
    cases node with
    | directory => simp
    | file old => simp [pure, Except.pure, eq_comm]

/-- A file is written where its path leads, unless a directory is there. -/
theorem write_eq_ok (hend : p.EndsInName) {content : Bytes} :
    s.write p content = .ok t ↔
      ∃ l, s.locate p = .ok l ∧ s.node? l ≠ some .directory ∧ t = s.set l (.file content) := by
  rw [write_ok_iff, locateNew, hend.namesDirectory, Bool.false_and, if_neg Bool.false_ne_true]

/-- A place for a new file is the one at which it will be looked up. -/
theorem locate_of_locateNew (h : s.locateNew p = .ok l) : s.locate p = .ok l := by
  unfold locateNew at h
  split at h
  · -- A path that names a directory is refused, whatever the walk finds.
    split at h <;> cases h
  · exact h

/-- A walk does not come by what is no directory, so it is the same when something else stands
there. -/
theorem walk_set (hl : s.node? l ≠ some .directory) {steps : List Path.Step} {k : Location}
    (h : s.walk m steps = .ok k) : (s.set l node).walk m steps = .ok k := by
  induction steps generalizing m with
  | nil => exact h
  | cons step rest ih =>
    -- A walk goes on from directories only, so it never stands at the place that changes.
    have hdir : s.node? m = some .directory := by
      simp only [walk] at h
      split at h
      next => cases h
      next => cases h
      next hdir => exact hdir
    have hne : m ≠ l := by
      rintro rfl
      exact hl hdir
    have hdir' : (s.set l node).node? m = some .directory := by rwa [node?_set_of_ne s hne]
    simp only [walk, hdir, hdir'] at h ⊢
    cases step with
    | here => exact ih h
    | up => exact ih h
    | down name =>
      dsimp only at h ⊢
      split_ifs at h ⊢
      exact ih h

/-- A file that was written is read as it was written. -/
theorem read_write {content : Bytes} (h : s.write p content = .ok t) :
    t.read p = .ok content := by
  obtain ⟨l, hl, hfree, rfl⟩ := write_ok_iff.mp h
  have hnames : l.names ≠ [] := by
    intro hnil
    exact hfree (if_pos hnil)
  -- The way to the new file is the way that was walked to write it.
  have hlocate : (s.set l (.file content)).locate p = .ok l := by
    have hold := locate_of_locateNew hl
    unfold locate at hold ⊢
    split_ifs at hold ⊢
    exact walk_set hfree hold
  exact read_eq_ok.mpr (FileStore.stat_eq_ok.mpr ⟨l, hlocate, node?_set s hnames _⟩)

section PutIn

variable {dir : Path} {content : Bytes}

/-- The directories of a file are made first. -/
private theorem putIn_eq (hdir : dir.IsPlain) (hend : dir.EndsInName) (p : Path) :
    s.putIn dir p content = (s.createSteps ⟨dir.isAbsolute, 0, []⟩
      (dir.entries.map Path.Step.down)).andThen (·.write p content) := by
  rw [putIn, createDirs, hdir.hasZero hend, if_neg Bool.false_ne_true, hdir.steps hend]

/-- In a directory that is there, a file is written at the place of its name. -/
private theorem write_child (hs : s.Sound) (hdir : dir.IsPlain) (hname : Path.IsName name)
    (hthere : s.node? dir.place = some .directory) :
    s.write (dir.join ⟨name⟩) content = .ok t ↔
      name.utf8ByteSize ≤ longestName ∧ s.node? (dir.place.child name) ≠ some .directory ∧
        t = s.set (dir.place.child name) (.file content) := by
  have hp := hdir.join hname.isPlain hname.isAbsolute
  have hend := hname.endsInName.join dir
  -- The walk comes to the directory, and its last step to the file.
  have hwalk : s.walk ⟨dir.isAbsolute, 0, []⟩ (dir.entries.map Path.Step.down) = .ok dir.place :=
    hs.walk_eq_ok hthere
  rw [write_eq_ok hend]
  simp only [locate_plain hp hend, Path.entries_join hname.isAbsolute, hname.entries,
    Path.isAbsolute_join hname.isAbsolute, List.map_append, List.map_singleton, walk_append]
  rw [hwalk]
  show (∃ l, s.walk dir.place [.down name] = .ok l ∧ _) ↔ _
  constructor
  · rintro ⟨l, hl, hfree, rfl⟩
    obtain ⟨-, hshort, rfl⟩ := walk_child.mp hl
    exact ⟨hshort, hfree, rfl⟩
  · rintro ⟨hshort, hfree, rfl⟩
    exact ⟨_, walk_child.mpr ⟨hthere, hshort, rfl⟩, hfree, rfl⟩

/-- Putting a file makes directories on the way. Then the file stands at its place, or there is a
fault and nothing else has changed. -/
theorem putIn_cases (hs : s.Sound) (hdir : dir.IsPlain) (hend : dir.EndsInName)
    (hname : Path.IsName name) (content : Bytes) :
    ∃ t, t.Sound ∧ s.Grows t (OnWay ⟨dir.isAbsolute, 0, []⟩ dir.entries) ∧
      ((s.putIn dir (dir.join ⟨name⟩) content).fault = none ∧
          t.node? dir.place = some .directory ∧ name.utf8ByteSize ≤ longestName ∧
          t.node? (dir.place.child name) ≠ some .directory ∧
          (s.putIn dir (dir.join ⟨name⟩) content).store
            = t.set (dir.place.child name) (.file content) ∨
        (s.putIn dir (dir.join ⟨name⟩) content).fault ≠ none ∧
          (s.putIn dir (dir.join ⟨name⟩) content).store = t) := by
  rw [putIn_eq hdir hend]
  obtain ⟨hsound, hgrows, hreached, -⟩ :=
    created_createSteps hs (l := ⟨dir.isAbsolute, 0, []⟩) (by simp [node?]) dir.entries
  generalize s.createSteps ⟨dir.isAbsolute, 0, []⟩ (dir.entries.map Path.Step.down) = c at *
  refine ⟨c.store, hsound, hgrows, ?_⟩
  unfold Change.andThen
  split
  next fault hfault => exact Or.inr ⟨by simp [hfault], rfl⟩
  next hfault =>
    -- Without a fault the directory is there, and the write sees nothing but its last name.
    have hthere : c.store.node? dir.place = some .directory := hreached hfault
    split
    next t hwrite =>
      obtain ⟨hshort, hfree, rfl⟩ := (write_child hsound hdir hname hthere).mp hwrite
      exact Or.inl ⟨rfl, hthere, hshort, hfree, rfl⟩
    next fault hwrite => exact Or.inr ⟨Option.some_ne_none fault, rfl⟩

/-- With names that are not too long, only what stands in the way can keep a file from being put:
a file where a directory has to be, or a directory where the file has to be. -/
theorem putIn_succeeds (hs : s.Sound) (hdir : dir.IsPlain) (hend : dir.EndsInName)
    (hname : Path.IsName name) (content : Bytes)
    (hshort : ∀ n ∈ dir.entries, n.utf8ByteSize ≤ longestName)
    (hlast : name.utf8ByteSize ≤ longestName)
    (hway : ∀ m, OnWay ⟨dir.isAbsolute, 0, []⟩ dir.entries m →
      ∀ content, s.node? m ≠ some (.file content))
    (hfree : s.node? (dir.place.child name) ≠ some .directory) :
    (s.putIn dir (dir.join ⟨name⟩) content).fault = none := by
  rw [putIn_eq hdir hend]
  obtain ⟨hsound, hgrows, hreached, hsucceeds⟩ :=
    created_createSteps hs (l := ⟨dir.isAbsolute, 0, []⟩) (by simp [node?]) dir.entries
  generalize s.createSteps ⟨dir.isAbsolute, 0, []⟩ (dir.entries.map Path.Step.down) = c at *
  -- The directories are made, and so the write finds its own there.
  have hfault := hsucceeds hshort fun init hinit => hway _ ⟨init, hinit, rfl⟩
  have hthere : c.store.node? dir.place = some .directory := hreached hfault
  have hfree' : c.store.node? (dir.place.child name) ≠ some .directory := by
    intro hnode
    rcases hgrows.added hnode with hold | ⟨-, init, hinit, hplace⟩
    · exact hfree hold
    · -- The place of the file lies below its directory, and not on the way to it.
      have hlength := congrArg (·.names.length) hplace
      simp [Location.child, Location.descend, Path.place] at hlength
      have hle := hinit.length_le
      omega
  have hwrite : c.store.write (dir.join ⟨name⟩) content = .ok _ :=
    (write_child hsound hdir hname hthere).mpr ⟨hlast, hfree', rfl⟩
  simp [Change.andThen, hfault, hwrite]

end PutIn

end FileStore

end Shuffle
