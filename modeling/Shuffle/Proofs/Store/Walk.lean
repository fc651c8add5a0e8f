import Mathlib
import Shuffle.Store.Files
import Shuffle.Proofs.Fallible
import Shuffle.Proofs.Store.Names

/-!
# What stands at the end of a walk

Looking a path up is walking it, and the last steps of a walk along names are the last names of the
place it ends at. So paths that end in different names lead to different places, and what stands at
different places is counted once each in what a store holds.

- `FileStore.walk_down` is the walk along names: every place before the last is a directory.
- `FileStore.locate_join` looks up an entry of a directory, and `FileStore.stat_sibling` another
  one.
- `FileStore.suffix_of_locate`: a path and the place that it leads to end in the same names.
- `FileStore.octets` counts a store, and `FileStore.sum_le_octets` a list of different places.
-/

namespace Shuffle

open Fallible

/-- The place that lies below another one along names. -/
def Location.descend (l : Location) (names : List String) : Location :=
  { l with names := l.names ++ names }

namespace Location

@[simp] theorem descend_nil (l : Location) : l.descend [] = l := by
  simp [descend]

/-- Names are gone down in one go or in two. -/
theorem descend_append (l : Location) (names more : List String) :
    l.descend (names ++ more) = (l.descend names).descend more := by
  simp [descend]

/-- The first name leads to a child, and the others go on from there. -/
theorem descend_cons (l : Location) (name : String) (names : List String) :
    l.descend (name :: names) = (l.child name).descend names := by
  simp [descend, child]

theorem descend_concat (l : Location) (names : List String) (name : String) :
    l.descend (names ++ [name]) = (l.descend names).child name := by
  simp [descend, child]

end Location

namespace FileStore

variable {s : FileStore} {l m : Location} {p : Path}

/-! ## §1 Walks -/

/-- A walk may be cut in two. -/
theorem walk_append (s : FileStore) (l : Location) (before after : List Path.Step) :
    s.walk l (before ++ after) = s.walk l before >>= fun m => s.walk m after := by
  induction before generalizing l with
  | nil => rfl
  | cons step before ih =>
    simp only [List.cons_append, walk]
    -- The first step is the same on both sides; where it fails, both do.
    cases s.node? l with
    | none => rfl
    | some node =>
      cases node with
      | file content => rfl
      | directory =>
        cases step with
        | here => exact ih l
        | up => exact ih l.parent
        | down name =>
          by_cases hlong : longestName < name.utf8ByteSize
          · simp [hlong, bind, Except.bind]
          · simpa [hlong] using ih (l.child name)

/-- A step down leads from a directory to a place with a name that is short enough. -/
theorem walk_child {name : String} :
    s.walk l [.down name] = .ok m ↔
      s.node? l = some .directory ∧ name.utf8ByteSize ≤ longestName ∧ m = l.child name := by
  simp only [walk]
  -- One goes down from directories only.
  cases s.node? l with
  | none => simp
  | some node =>
    cases node with
    | file content => simp
    | directory =>
      by_cases hlong : longestName < name.utf8ByteSize
      · simp [hlong]
      · simp [hlong, Nat.le_of_not_lt hlong, eq_comm]

/-- The walk down along names ends below its start, if no name is too long and each place before
the last is a directory. -/
theorem walk_down {names : List String} :
    s.walk l (names.map Path.Step.down) = .ok m ↔
      m = l.descend names ∧ (∀ name ∈ names, name.utf8ByteSize ≤ longestName) ∧
        ∀ init name rest, names = init ++ name :: rest →
          s.node? (l.descend init) = some .directory := by
  -- The last step is taken off, so that the directory it starts from is the end of a walk.
  induction names using List.reverseRecOn generalizing m with
  | nil => simp [walk, eq_comm]
  | append_singleton names name ih =>
    rw [List.map_append, walk_append, bind_eq_ok]
    simp only [ih, List.map_cons, List.map_nil, walk_child]
    constructor
    · rintro ⟨k, ⟨rfl, hshort, hdirs⟩, hdir, hname, rfl⟩
      refine ⟨(l.descend_concat names name).symm, ?_, ?_⟩
      · intro n hn
        rcases List.mem_append.mp hn with hn | hn
        · exact hshort n hn
        · rwa [List.mem_singleton.mp hn]
      · intro init n rest hsplit
        rcases List.eq_nil_or_concat rest with rfl | ⟨rest, n', rfl⟩
        · -- The last place before the end is where the shorter walk ended.
          obtain ⟨rfl, -⟩ := List.append_inj' hsplit rfl
          exact hdir
        · have hcut : names ++ [name] = (init ++ n :: rest) ++ [n'] := by simpa using hsplit
          exact hdirs init n rest (List.append_inj' hcut rfl).1
    · rintro ⟨rfl, hshort, hdirs⟩
      refine ⟨l.descend names, ⟨rfl, fun n hn => hshort n (List.mem_append_left _ hn), ?_⟩,
        hdirs names name [] rfl, hshort name (by simp), l.descend_concat names name⟩
      intro init n rest hsplit
      exact hdirs init n (rest ++ [name]) (by simp [hsplit])

/-! ## §2 Looking up -/

/-- Looking a path up ends a walk at a place where something stands. -/
theorem stat_eq_ok {node : Node} :
    s.stat p = .ok node ↔ ∃ l, s.locate p = .ok l ∧ s.node? l = some node := by
  rw [stat, bind_eq_ok]
  refine exists_congr fun l => and_congr_right fun _ => ?_
  cases s.node? l with
  | none => simp
  | some found => simp [pure, Except.pure]

/-- A path holds something when it has a status. -/
theorem holds_iff : s.holds p = true ↔ ∃ node, s.stat p = .ok node := by
  rw [holds]
  cases s.stat p with
  | error fault => simp [Except.isOk, Except.toBool]
  | ok node => simp [Except.isOk, Except.toBool]

/-- Only files are read, and they are read whole. -/
theorem read_eq_ok {content : Bytes} :
    s.read p = .ok content ↔ s.stat p = .ok (.file content) := by
  rw [read, bind_eq_ok]
  constructor
  · rintro ⟨node, hnode, hread⟩
    cases node with
    | directory => cases hread
    | file found =>
      cases hread
      exact hnode
  · intro hstat
    exact ⟨_, hstat, rfl⟩

/-- The place of an entry of a directory, by the walk to the directory. -/
theorem locate_join {dir : Path} {name : String} (hname : Path.IsName name) :
    s.locate (dir.join ⟨name⟩) =
      if (dir.entries.map Path.Step.ofName).any Path.Step.hasZero then .error .zeroCharacter
      else s.walk ⟨dir.isAbsolute, 0, []⟩ (dir.entries.map Path.Step.ofName ++ [.down name]) := by
  have hsteps : (dir.join ⟨name⟩).steps = dir.entries.map Path.Step.ofName ++ [.down name] := by
    rw [(hname.endsInName.join dir).steps, Path.entries_join hname.isAbsolute,
      hname.entries, List.map_append, List.map_singleton, hname.step]
  have hfull : (dir.join ⟨name⟩).text ≠ "" := (hname.endsInName.join dir).nonempty
  rw [locate, Path.hasZero, hsteps, Path.isAbsolute_join hname.isAbsolute, if_neg hfull]
  simp [Path.Step.hasZero, hname.noZero]

/-- If a directory has some entry, then looking for another one that is not there finds nothing
wrong but that. -/
theorem stat_sibling {dir : Path} {present other : String} {node : Node} {fault : FileFault}
    (hpresent : Path.IsName present) (hother : Path.IsName other)
    (hshort : other.utf8ByteSize ≤ longestName) (hfound : s.stat (dir.join ⟨present⟩) = .ok node)
    (hfault : s.stat (dir.join ⟨other⟩) = .error fault) : fault = .notFound := by
  obtain ⟨l, hl, -⟩ := stat_eq_ok.mp hfound
  rw [locate_join hpresent] at hl
  rw [stat, locate_join hother] at hfault
  split at hl
  · cases hl
  next hzero =>
    rw [if_neg hzero] at hfault
    -- Both walks come by the directory.
    rw [walk_append, bind_eq_ok] at hl
    obtain ⟨m, hm, hstep⟩ := hl
    obtain ⟨hdir, -, -⟩ := walk_child.mp hstep
    have hwalk := walk_child.mpr ⟨hdir, hshort, rfl⟩
    rw [walk_append, hm] at hfault
    simp only [bind, Except.bind, hwalk] at hfault
    split at hfault
    · cases hfault
    · exact (Except.error.inj hfault).symm

/-- The place at which a path ends has the last names of the path. -/
theorem suffix_of_locate {names : List String} (hnames : ∀ name ∈ names, Path.IsName name)
    (hend : p.EndsInName) (hsuffix : names <:+ p.entries)
    (h : s.locate p = .ok l) : names <:+ l.names := by
  obtain ⟨before, hbefore⟩ := hsuffix
  unfold locate at h
  split at h
  · cases h
  · split at h
    · cases h
    · -- Wherever the walk has got to before these names, from there it only goes down.
      rw [hend.steps, ← hbefore, List.map_append, Path.map_ofName hnames, walk_append,
        bind_eq_ok] at h
      obtain ⟨m, -, hdown⟩ := h
      obtain ⟨rfl, -, -⟩ := walk_down.mp hdown
      exact List.suffix_append m.names names

/-! ## §3 What a store holds -/

/-- The length of the file at a place. -/
def fileSize (s : FileStore) (l : Location) : Nat :=
  match s.node? l with
  | some (.file content) => content.length
  | _ => 0

/-- The length of all files together. -/
def octets (s : FileStore) : Nat :=
  ∑ l ∈ (s.nodes.map (·.1)).toFinset, s.fileSize l

/-- Files are among the nodes of a store, as the root is not. -/
theorem mem_nodes_of_file {content : Bytes} (h : s.node? l = some (.file content)) :
    (l, .file content) ∈ s.nodes := by
  unfold node? at h
  split at h
  · cases h
  · obtain ⟨⟨place, node⟩, hentry, rfl⟩ := Option.map_eq_some_iff.mp h
    have hplace : place = l := by simpa using List.find?_some hentry
    exact hplace ▸ List.mem_of_find?_eq_some hentry

/-- Only what is in the store has a size. -/
theorem mem_of_fileSize_ne_zero (h : s.fileSize l ≠ 0) : l ∈ (s.nodes.map (·.1)).toFinset := by
  unfold fileSize at h
  split at h
  next content hfile =>
    rw [List.mem_toFinset]
    exact List.mem_map_of_mem (mem_nodes_of_file hfile)
  next => contradiction

/-- Things that take no more than the files at different places take no more than the store. -/
theorem sum_le_octets {α : Type} {items : List α} {place : α → Location} {size : α → Nat}
    (hplaces : (items.map place).Nodup)
    (hsize : ∀ a ∈ items, size a ≤ s.fileSize (place a)) :
    (items.map size).sum ≤ s.octets := by
  have hfiles : (items.map size).sum ≤ ((items.map place).map s.fileSize).sum := by
    rw [List.map_map]
    exact List.sum_le_sum hsize
  apply hfiles.trans
  rw [← List.sum_toFinset s.fileSize hplaces]
  exact Finset.sum_le_sum_of_ne_zero fun l _ hl => mem_of_fileSize_ne_zero hl

end FileStore

end Shuffle
