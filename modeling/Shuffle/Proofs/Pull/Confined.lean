import Mathlib
import Shuffle.Proofs.Pull.Inquiry
import Shuffle.Proofs.Pull.Worker

/-!
# A request sees the output of the active application only

All that a query brings into a path are numbers, and they are written in decimal. So every path
that the service opens for a query goes down from the output tree of the active application, and
the answer depends on nothing else that is stored.

- `Layout.InTree` is a path in the output tree of an application.
- `FileChunk.ofAttempt_congr` says that the slice of an attempt depends on what stands at its paths.
- `PullService.exchange_confined`: the paths of a query lie in the tree, no other path is looked at,
  and they decide the answer.
-/

namespace Shuffle

open Fallible

/-- Two stores hold the same at a path: the same file, a directory, or nothing that can be
reached. -/
def FileStore.AgreeAt (a b : FileStore) (p : Path) : Prop :=
  ∀ node, a.stat p = .ok node ↔ b.stat p = .ok node

namespace FileStore.AgreeAt

variable {a b : FileStore} {p : Path}

theorem symm (h : a.AgreeAt b p) : b.AgreeAt a p := fun node => (h node).symm

/-- Stores that agree at a path both hold something there, or neither does. -/
theorem holds_eq (h : a.AgreeAt b p) : a.holds p = b.holds p := by
  rw [Bool.eq_iff_iff, holds_iff, holds_iff]
  exact exists_congr h

/-- What is there is found in both stores. -/
theorem stat_eq (h : a.AgreeAt b p) (hholds : a.holds p = true) : a.stat p = b.stat p := by
  obtain ⟨node, hnode⟩ := holds_iff.mp hholds
  rw [hnode, (h node).mp hnode]

/-- What cannot be reached is found in neither store. The reasons may differ. -/
theorem stat_error (h : a.AgreeAt b p) {fault : FileFault} (ha : a.stat p = .error fault) :
    ∃ fault', b.stat p = .error fault' := by
  cases hb : b.stat p with
  | error fault' => exact ⟨fault', rfl⟩
  | ok node =>
    rw [(h node).mpr hb] at ha
    cases ha

end FileStore.AgreeAt

/-! ## §1 Paths in a tree -/

namespace Layout

/-- A path that goes down from the output tree of an application, in some local directory. -/
def InTree (layout : Layout) (id : AppIdentity) (p : Path) : Prop :=
  ∃ d ∈ layout.localDirs, ∃ names, names ≠ [] ∧ (∀ name ∈ names, Path.IsName name) ∧
    p = (d.join (outputTree id)).below names

variable {layout : Layout} {id : AppIdentity} {stage : UInt32} {attempt : TaskAttempt} {d : Path}
  {name : String}

/-- The path of a file of an attempt goes down from the tree. -/
theorem inTree_file (hid : id.IsPlain) (hd : d ∈ layout.localDirs) (hname : Path.IsName name) :
    layout.InTree id ((d.join (taskDir id stage attempt)).join ⟨name⟩) := by
  have hnames := isName_attemptNames stage attempt
  refine ⟨d, hd, attemptNames stage attempt ++ [name], by simp, ?_, ?_⟩
  · intro n hn
    rcases List.mem_append.mp hn with hn | hn
    · exact hnames n hn
    · rwa [List.mem_singleton.mp hn]
  · rw [Path.below_concat, taskDir_eq,
      Path.join_below d (isAbsolute_outputTree hid) (endsInName_outputTree id) hnames]

variable {a b : FileStore}

/-- The first local directory with a file is the same if the stores agree at the file's paths. -/
theorem hashFile_congr {bucket : UInt32} (h : ∀ d ∈ layout.localDirs, a.AgreeAt b
      (d.join ((taskDir id stage attempt).join ⟨Decimal.numeral bucket.toNat⟩))) :
    layout.hashFile a id stage attempt bucket = layout.hashFile b id stage attempt bucket := by
  have hholds : ∀ p ∈ layout.candidates
      ((taskDir id stage attempt).join ⟨Decimal.numeral bucket.toNat⟩), a.holds p = b.holds p := by
    intro p hp
    obtain ⟨d, hd, rfl⟩ := List.mem_map.mp hp
    exact (h d hd).holds_eq
  rw [hashFile, hashFile, find, find, find?, find?, List.find?_congr hholds]

/-- The directory of a range output is found by its data file alone. -/
theorem rangeDir_congr (h : ∀ d ∈ layout.localDirs, a.AgreeAt b
      (d.join ((taskDir id stage attempt).join dataFile))) :
    layout.rangeDir a id stage attempt = layout.rangeDir b id stage attempt := by
  rw [rangeDir, rangeDir, List.find?_congr fun d hd => (h d hd).holds_eq]

end Layout

namespace FileChunk

variable {layout : Layout} {a b : FileStore} {id : AppIdentity} {request : FetchRequest}
  {attempt : TaskAttempt} {c : FileChunk} {dir p : Path}

/-! ## §2 The slice of an attempt -/

/-- What is searched lies in the tree of the application. -/
theorem inTree_of_searched (hid : id.IsPlain) (hp : p ∈ searched layout id request attempt) :
    layout.InTree id p := by
  obtain ⟨d, hd, hp⟩ := List.mem_flatMap.mp hp
  obtain ⟨name, hname, rfl⟩ := List.mem_map.mp hp
  exact Layout.inTree_file hid hd (isName_fileNames request name hname)

/-- The length of a file that is there is the same in stores that agree. -/
theorem fileLength_congr (h : a.AgreeAt b p) (hholds : a.holds p = true) :
    fileLength a p = fileLength b p := by
  rw [fileLength, fileLength, FileStore.length, FileStore.length, h.stat_eq hholds]

/-- An index beside data that is there is the same in stores that agree. If it is missing, nothing
else can be wrong with its path, for the directory has been walked to. -/
theorem openIndex_congr (hdata : a.AgreeAt b (dir.join Layout.dataFile))
    (hindex : a.AgreeAt b (dir.join Layout.indexFile))
    (hholds : a.holds (dir.join Layout.dataFile) = true) :
    openIndex a (dir.join Layout.indexFile) = openIndex b (dir.join Layout.indexFile) := by
  obtain ⟨node, hnode⟩ := FileStore.holds_iff.mp hholds
  have hnode' := (hdata node).mp hnode
  have hshort : "index".utf8ByteSize ≤ FileStore.longestName := by decide
  -- An index that is missing is missing in the same way, since the directory around it is there.
  have hsame : a.stat (dir.join Layout.indexFile) = b.stat (dir.join Layout.indexFile) := by
    cases hstat : a.stat (dir.join Layout.indexFile) with
    | ok found => exact ((hindex found).mp hstat).symm
    | error fault =>
      obtain ⟨fault', hstat'⟩ := hindex.stat_error hstat
      rw [hstat',
        FileStore.stat_sibling Layout.isName_output Layout.isName_index hshort hnode hstat,
        FileStore.stat_sibling Layout.isName_output Layout.isName_index hshort hnode' hstat']
  rw [openIndex, openIndex, FileStore.read, FileStore.read, hsame]

/-- A slice of data that is there depends on the data and the index only. -/
private theorem rangeChunk_congr (hdata : a.AgreeAt b (dir.join Layout.dataFile))
    (hindex : a.AgreeAt b (dir.join Layout.indexFile))
    (hholds : a.holds (dir.join Layout.dataFile) = true) (start stop : Bytes) (final : Bool) :
    rangeChunk a dir start stop final = rangeChunk b dir start stop final := by
  unfold rangeChunk
  dsimp only
  rw [fileLength_congr hdata hholds, openIndex_congr hdata hindex hholds]

/-- The slice of an attempt depends on what stands at its paths, and on nothing else. -/
theorem ofAttempt_congr (hid : id.IsPlain)
    (h : ∀ p ∈ searched layout id request attempt, a.AgreeAt b p) :
    ofAttempt layout a id request attempt = ofAttempt layout b id request attempt := by
  have hagree {d : Path} {name : String} (hd : d ∈ layout.localDirs)
      (hname : name ∈ fileNames request) : a.AgreeAt b
        (d.join ((Layout.taskDir id request.stage attempt).join ⟨name⟩)) := by
    rw [Layout.join_taskDir_join hid d (isName_fileNames request name hname)]
    exact h _ (mem_searched hd hname)
  unfold ofAttempt
  split
  next hkind =>
    -- Both stores lead to one file. Its length is looked up only then, when it is there.
    have hname : Decimal.numeral request.partition.toNat ∈ fileNames request := by
      simp [fileNames, hkind]
    rw [Layout.hashFile_congr fun d hd => hagree hd hname]
    cases hfile : layout.hashFile b id request.stage attempt request.partition with
    | error fault => rfl
    | ok p =>
      obtain ⟨d, hd, hp, hholds⟩ := Layout.find_eq_ok hfile
      have hsame := (hagree hd hname).symm
      rw [← hp] at hsame
      simp only [bind, Except.bind, wholeFile, fileLength_congr hsame hholds]
  next start stop final hkind =>
    -- Only the data decides on the directory, and the index is looked for beside it.
    have hdata : "output" ∈ fileNames request := by simp [fileNames, hkind]
    have hindex : "index" ∈ fileNames request := by simp [fileNames, hkind]
    rw [Layout.rangeDir_congr fun d hd => hagree hd hdata]
    cases hdir : layout.rangeDir b id request.stage attempt with
    | error fault => rfl
    | ok dir =>
      obtain ⟨d, hd, hp, hholds⟩ := Layout.rangeDir_eq_ok hdir
      have hsame := (hagree hd hdata).symm
      have hsame' := (hagree hd hindex).symm
      rw [Layout.join_taskDir_join hid d Layout.isName_output, ← hp] at hsame
      rw [Layout.join_taskDir_join hid d Layout.isName_index, ← hp] at hsame'
      rw [Layout.dataFile, Layout.join_taskDir_join hid d Layout.isName_output, ← hp] at hholds
      simp only [bind, Except.bind]
      exact (rangeChunk_congr hsame hsame' hholds start stop final).symm

/-- The file of a slice is the same in stores that agree at the paths of its attempt. -/
theorem stat_congr (hid : id.IsPlain) (h : ∀ p ∈ searched layout id request attempt, a.AgreeAt b p)
    (hslice : ofAttempt layout a id request attempt = .ok (some c)) :
    a.stat c.path = b.stat c.path := by
  obtain ⟨hdata, ⟨length, hlength, -⟩, -⟩ := inside_of_ofAttempt hslice
  apply (h c.path (mem_searched_of_dataPath hid hdata)).stat_eq
  rw [FileStore.holds_iff]
  unfold fileLength FileStore.length at hlength
  cases hstat : a.stat c.path with
  | ok node => exact ⟨node, rfl⟩
  | error fault => simp [hstat, Except.map] at hlength

end FileChunk

/-! ## §3 The paths of a query -/

namespace PullService

variable {s s' : PullService} {a b : FileStore} {query : String} {id : AppIdentity}
  {request : FetchRequest}

/-- The paths of a query lie in the output tree of the active application. -/
theorem inTree_of_opened (hid : ∀ id, s.registry.active = some id → id.IsPlain) :
    ∀ p ∈ s.opened query, ∃ id, s.registry.active = some id ∧ s.layout.InTree id p := by
  intro p hp
  unfold opened at hp
  split at hp
  next request id hparsed hactive =>
    obtain ⟨attempt, -, hp⟩ := List.mem_flatMap.mp hp
    exact ⟨id, hactive, FileChunk.inTree_of_searched (hid id hactive) hp⟩
  next => cases hp

/-- What stands at the paths of a query decides the answer. -/
theorem exchange_of_opened {target : RequestTarget} (hlayout : s.layout = s'.layout)
    (hbuffer : s.bufferSize = s'.bufferSize) (hregistry : s.registry = s'.registry)
    (hid : ∀ id, s.registry.active = some id → id.IsPlain)
    (h : ∀ p ∈ s.opened (target.query.getD ""), a.AgreeAt b p) (method : Method) :
    s.exchange a method target = s'.exchange b method target := by
  apply exchange_congr hbuffer (by rw [hregistry])
  intro id request hactive hparsed attempt hattempt
  rw [opened_eq hparsed hactive] at h
  have hagree : ∀ p ∈ FileChunk.searched s.layout id request attempt, a.AgreeAt b p :=
    fun p hp => h p (List.mem_flatMap.mpr ⟨attempt, hattempt, hp⟩)
  rw [← hlayout]
  exact ⟨FileChunk.ofAttempt_congr (hid id hactive) hagree,
    fun c hc => FileChunk.stat_congr (hid id hactive) hagree hc⟩

/-- **A request sees the output tree of the active application and nothing else.** Services that are
set up alike answer it alike from files that agree in the tree. All paths that are opened for it
lie in the tree, they decide the answer, and the slices of the answer are taken from them. The
service looks at no other path: written as a program that names what it looks at, it gives the same
answer and names only these. -/
theorem exchange_confined (hlayout : s.layout = s'.layout) (hbuffer : s.bufferSize = s'.bufferSize)
    (hregistry : s.registry = s'.registry)
    (hid : ∀ id, s.registry.active = some id → id.IsPlain) :
    (∀ a b : FileStore, (∀ id, s.registry.active = some id →
        ∀ p, s.layout.InTree id p → a.AgreeAt b p) →
      ∀ method target, s.exchange a method target = s'.exchange b method target) ∧
    ∀ target : RequestTarget,
      (∀ p ∈ s.opened (target.query.getD ""),
        ∃ id, s.registry.active = some id ∧ s.layout.InTree id p) ∧
      (∀ a b : FileStore, (∀ p ∈ s.opened (target.query.getD ""), a.AgreeAt b p) →
        ∀ method, s.exchange a method target = s'.exchange b method target) ∧
      (∀ store id request slices, s.Finds store (target.query.getD "") id request slices →
        ∀ c ∈ slices.reduceOption, c.path ∈ s.opened (target.query.getD "")) ∧
      ∀ store method, ((s.inquiry method target).run store).1 = s.exchange store method target ∧
        ∀ p ∈ ((s.inquiry method target).run store).2, p ∈ s.opened (target.query.getD "") := by
  refine ⟨fun a b hagree method target => ?_, fun target =>
    ⟨inTree_of_opened hid, fun a b => exchange_of_opened hlayout hbuffer hregistry hid,
      fun store id request slices hfinds => ?_,
      fun store method => (looks_inquiry hid method target).run_eq⟩⟩
  · apply exchange_of_opened hlayout hbuffer hregistry hid
    intro p hp
    obtain ⟨id, hactive, htree⟩ := inTree_of_opened hid p hp
    exact hagree id hactive p htree
  · exact mem_opened_of_resolve hid (resolve_eq_ok.mpr ⟨id, request, slices, hfinds, rfl⟩)

/-- Stores that were made by putting files agree in a tree if the places below it hold the same. -/
theorem agreeAt_of_node? {layout : Layout} (hplain : ∀ d ∈ layout.localDirs, d.IsPlain)
    (hid : id.IsPlain) (ha : a.Sound) (hb : b.Sound)
    (h : ∀ d ∈ layout.localDirs, ∀ names, names ≠ [] →
      a.node? (d.place.descend (Layout.treeNames id ++ names))
        = b.node? (d.place.descend (Layout.treeNames id ++ names))) :
    ∀ p, layout.InTree id p → a.AgreeAt b p := by
  rintro p ⟨d, hd, names, hne, hnames, rfl⟩ node
  have habs := Layout.isAbsolute_outputTree hid
  have hplainTree := ((hplain d hd).join (Layout.isPlain_outputTree hid) habs).below hnames
  have hend := Path.endsInName_below (d.join (Layout.outputTree id)) hnames hne
  rw [ha.stat_eq_ok hplainTree hend, hb.stat_eq_ok hplainTree hend, Path.place_below _ hnames,
    Path.place_join d habs, Layout.entries_outputTree hid, ← Location.descend_append,
    h d hd names hne]

/-- A worker with one file of output. -/
def plainWorker : Worker :=
  Worker.run ⟨[⟨"/a"⟩]⟩ 4 [.start ⟨"u", "x"⟩, .put 1 ⟨0, 0⟩ 5 [1, 2]]

/-- The same files, and one beside the local directory. -/
def secretStore : FileStore :=
  plainWorker.store.set ⟨true, 0, ["secret"]⟩ (.file [7])

/-- A file outside the tree does not show in any answer. -/
theorem exchange_confined_secret :
    plainWorker.service.registry.active = some ⟨"u", "x"⟩ ∧
      plainWorker.store.stat ⟨"/secret"⟩ = .error .notFound ∧
      secretStore.stat ⟨"/secret"⟩ = .ok (.file [7]) ∧
      ∀ query, plainWorker.service.exchange plainWorker.store .get ⟨"/", some query⟩
        = plainWorker.service.exchange secretStore .get ⟨"/", some query⟩ := by
  have hfiles : plainWorker.service.registry.active = some ⟨"u", "x"⟩ ∧
      plainWorker.store.stat ⟨"/secret"⟩ = .error .notFound ∧
      secretStore.stat ⟨"/secret"⟩ = .ok (.file [7]) ∧
      plainWorker.store.node? ⟨true, 0, ["secret"]⟩ ≠ some .directory := by
    decide +kernel
  obtain ⟨hactive, hmissing, hthere, hfree⟩ := hfiles
  refine ⟨hactive, hmissing, hthere, fun query => ?_⟩
  have hlayout : Layout.Separate ⟨[⟨"/a"⟩]⟩ := ⟨by decide, by decide, by decide⟩
  have htidy : plainWorker.Tidy := Worker.tidy_run hlayout 4 (by decide)
  have hid : ∀ id, plainWorker.service.registry.active = some id → id.IsPlain :=
    fun id => htidy.isPlain_active
  have hroot : plainWorker.store.node? ⟨true, 0, []⟩ = some .directory := rfl
  have hsound : secretStore.Sound := htidy.sound.set hroot (by decide) hfree
  have hplain := htidy.separate.plain
  apply (exchange_confined rfl rfl rfl hid).1
  intro id hactive'
  apply agreeAt_of_node? hplain (hid id hactive') htidy.sound hsound
  intro d hd names hne
  -- The file lies higher than all places of the tree.
  rw [secretStore, FileStore.node?_set_of_ne]
  intro hplace
  have hlength := congrArg (·.names.length) hplace
  simp only [Location.descend, Layout.treeNames, List.length_append, List.length_cons,
    List.length_nil] at hlength
  omega

end PullService

end Shuffle
