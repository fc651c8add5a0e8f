import Mathlib
import Shuffle.Pull.Service
import Shuffle.Proofs.Pull.Places
import Shuffle.Proofs.Store.Put

/-!
# Workers and the output they keep

A worker starts and stops applications, and its tasks put buckets of output into the directories
that the layout gives them. After any run the files of a worker are a map: one file for each bucket
that was put, with what was put last.

- `Worker.run` is a run, and `Worker.content?` the map.
- `Worker.Tidy` is the invariant: files stand exactly where the map says.
- `Worker.Tidy.put` is the step that changes files, and `Worker.tidy_run` the invariant of runs.
- `Worker.Tidy.put_succeeds`: every bucket can be put.
-/

namespace Shuffle

/-! ## §1 Where output stands -/

/-- What an attempt has put into one bucket, under an application. -/
structure OutputKey where
  id : AppIdentity
  stage : UInt32
  attempt : TaskAttempt
  bucket : UInt32
deriving DecidableEq, Repr

namespace OutputKey

/-- The directory of a bucket, from a local directory on. -/
def dir (key : OutputKey) : Path := Layout.taskDir key.id key.stage key.attempt

/-- The name of the file of a bucket. -/
def file (key : OutputKey) : String := Decimal.numeral key.bucket.toNat

/-- The names on the way to the directory. -/
def dirNames (key : OutputKey) : List String :=
  Layout.treeNames key.id ++ Layout.attemptNames key.stage key.attempt

/-- The names on the way to a bucket. -/
def names (key : OutputKey) : List String := key.dirNames ++ [key.file]

variable {key key' : OutputKey}

/-- The file of a bucket has a name of its own. -/
theorem isName_file (key : OutputKey) : Path.IsName key.file := Decimal.isName_numeral _

/-- The directory of an output is reached through eight names. -/
theorem entries_dir (h : key.id.IsPlain) : key.dir.entries = key.dirNames := by
  rw [dir, Layout.entries_taskDir, Layout.entries_outputTree h, dirNames]

theorem isAbsolute_dir (h : key.id.IsPlain) : key.dir.isAbsolute = false :=
  Layout.isAbsolute_taskDir h

theorem endsInName_dir (key : OutputKey) : key.dir.EndsInName :=
  Layout.endsInName_taskDir _ _ _

/-- The path of an output directory goes downwards only. -/
theorem isPlain_dir (h : key.id.IsPlain) : key.dir.IsPlain :=
  Layout.isPlain_taskDir h

/-- Only the user and the application can make a name too long. -/
theorem short_dirNames
    (h : ∀ name ∈ [key.id.user, key.id.app], name.utf8ByteSize ≤ FileStore.longestName) :
    ∀ name ∈ key.dirNames, name.utf8ByteSize ≤ FileStore.longestName := by
  have hstage := Decimal.utf8ByteSize_numeral_le key.stage
  have hattempt := key.attempt.utf8ByteSize_render_le
  have huser := h key.id.user (by simp)
  have happ := h key.id.app (by simp)
  have hlongest : FileStore.longestName = 255 := rfl
  simp only [dirNames, Layout.treeNames, Layout.attemptNames, List.cons_append, List.nil_append,
    List.forall_mem_cons, List.not_mem_nil, false_implies, implies_true, and_true]
  refine ⟨by decide, huser, by decide, happ, by decide, ?_, ?_, by decide⟩ <;> omega

theorem length_dirNames (key : OutputKey) : key.dirNames.length = 8 := rfl

/-- The names on the way determine the bucket. -/
theorem names_injective (h : key.names = key'.names) : key = key' := by
  obtain ⟨⟨user, app⟩, stage, attempt, bucket⟩ := key
  obtain ⟨⟨user', app'⟩, stage', attempt', bucket'⟩ := key'
  simp only [names, dirNames, Layout.treeNames, Layout.attemptNames, file, List.cons_append,
    List.nil_append, List.cons.injEq, true_and, and_true] at h
  obtain ⟨huser, happ, hstage, hattempt, hbucket⟩ := h
  have hstage' := UInt32.toNat_inj.mp (Decimal.numeral_injective hstage)
  have hbucket' := UInt32.toNat_inj.mp (Decimal.numeral_injective hbucket)
  rw [huser, happ, hstage', TaskAttempt.render_injective hattempt, hbucket']

end OutputKey

/-- Two paths of which one lies in the other. -/
def Path.Related (a b : Path) : Prop :=
  a.isAbsolute = b.isAbsolute ∧ (a.entries <+: b.entries ∨ b.entries <+: a.entries)

instance (a b : Path) : Decidable (a.Related b) := inferInstanceAs (Decidable (_ ∧ _))

namespace Layout

/-- Local directories as they can be used together: plain paths, none of which lies in another. A
store keeps absolute and relative paths apart, so where both are used the working directory is
assumed to lie apart from the absolute ones. -/
structure Separate (layout : Layout) : Prop where
  nonempty : layout.localDirs ≠ []
  plain : ∀ d ∈ layout.localDirs, d.IsPlain
  apart : layout.localDirs.Pairwise fun a b => ¬ a.Related b

/-- The local directory in which an attempt writes. -/
def home? (layout : Layout) (attempt : TaskAttempt) : Option Path :=
  layout.localDirs[attempt.task.toNat % layout.localDirs.length]?

/-- The place of a bucket. -/
def StandsAt (layout : Layout) (key : OutputKey) (l : Location) : Prop :=
  ∃ d, layout.home? key.attempt = some d ∧ l = d.place.descend key.names

variable {layout : Layout} {key key' : OutputKey} {attempt : TaskAttempt} {d d' : Path}
  {l m : Location}

/-- The directory in which an attempt is at home is a local one. -/
theorem mem_of_home? (h : layout.home? attempt = some d) : d ∈ layout.localDirs :=
  List.mem_of_getElem? h

/-- Every attempt is at home somewhere, since there is a local directory. -/
theorem Separate.exists_home? (h : layout.Separate) (attempt : TaskAttempt) :
    ∃ d, layout.home? attempt = some d := by
  have hpos : 0 < layout.localDirs.length := List.length_pos_iff.mpr h.nonempty
  exact ⟨_, List.getElem?_eq_getElem (Nat.mod_lt _ hpos)⟩

/-- Of two separate directories none is above the other. -/
theorem Separate.eq_of_related (h : layout.Separate) (hd : d ∈ layout.localDirs)
    (hd' : d' ∈ layout.localDirs) (hrelated : d.Related d') : d = d' := by
  by_contra hne
  have hsymm : Std.Symm fun a b : Path => ¬ a.Related b :=
    ⟨fun a b hab hba => hab ⟨hba.1.symm, hba.2.symm⟩⟩
  exact h.apart.forall hd hd' hne hrelated

/-- Places below local directories are told apart by the directories and the names. -/
theorem Separate.descend_inj (h : layout.Separate) (hd : d ∈ layout.localDirs)
    (hd' : d' ∈ layout.localDirs) {names names' : List String}
    (hlength : names.length = names'.length) :
    d.place.descend names = d'.place.descend names' ↔ d = d' ∧ names = names' := by
  constructor
  · intro hplace
    simp only [Location.descend, Path.place, Location.mk.injEq, true_and] at hplace
    obtain ⟨habs, hnames⟩ := hplace
    obtain ⟨hentries, hrest⟩ := List.append_inj' hnames hlength
    exact ⟨h.eq_of_related hd hd' ⟨habs, Or.inl (hentries ▸ List.prefix_rfl)⟩, hrest⟩
  · rintro ⟨rfl, rfl⟩
    rfl

/-- An output stands at one place. -/
theorem StandsAt.unique (h : layout.StandsAt key l) (h' : layout.StandsAt key m) : l = m := by
  obtain ⟨d, hd, rfl⟩ := h
  obtain ⟨d', hd', rfl⟩ := h'
  rw [Option.some.inj (hd.symm.trans hd')]

/-- Different buckets stand at different places. -/
theorem Separate.standsAt_inj (h : layout.Separate) (hl : layout.StandsAt key l)
    (hl' : layout.StandsAt key' l) : key = key' := by
  obtain ⟨d, hd, rfl⟩ := hl
  obtain ⟨d', hd', hplace⟩ := hl'
  have hlength : key.names.length = key'.names.length := rfl
  exact OutputKey.names_injective
    ((h.descend_inj (mem_of_home? hd) (mem_of_home? hd') hlength).mp hplace).2

/-- A place that is passed on the way to the directory of some bucket, or that is such a
directory. -/
def Passed (layout : Layout) (l : Location) : Prop :=
  ∃ d ∈ layout.localDirs, ∃ names, names.length = 8 ∧
    FileStore.OnWay ⟨d.isAbsolute, 0, []⟩ (d.entries ++ names) l

/-- No bucket stands at such a place, whatever its directory is: buckets lie deeper. -/
theorem Separate.not_passed (h : layout.Separate) (hd : d ∈ layout.localDirs)
    {names : List String} (hlength : names.length = 9) :
    ¬ layout.Passed (d.place.descend names) := by
  rintro ⟨d', hd', names', hlength', init, hinit, hplace⟩
  simp only [Location.descend, Path.place, Location.mk.injEq, true_and, List.nil_append] at hplace
  obtain ⟨habs, rfl⟩ := hplace
  -- Both local directories are passed on one way, so one lies in the other.
  have hway : d.entries <+: d'.entries ++ names' := (List.prefix_append _ _).trans hinit
  have hrelated := List.prefix_or_prefix_of_prefix hway (List.prefix_append d'.entries names')
  obtain rfl := h.eq_of_related hd hd' ⟨habs, hrelated⟩
  have hle := hinit.length_le
  simp only [List.length_append] at hle
  omega

/-- Outputs are put where their attempt is at home. -/
theorem outputDir_eq (h : layout.home? key.attempt = some d) :
    layout.outputDir key.id key.stage key.attempt = .ok (d.join key.dir) := by
  unfold home? at h
  rw [outputDir, h]
  rfl

end Layout

namespace OutputKey

variable {key : OutputKey} {d : Path}

/-- Below a plain local directory the path stays plain. -/
theorem isPlain_join (hd : d.IsPlain) (h : key.id.IsPlain) : (d.join key.dir).IsPlain :=
  hd.join (isPlain_dir h) (isAbsolute_dir h)

/-- The file of a bucket has its place below the local directory. -/
theorem place_file (d : Path) (h : key.id.IsPlain) :
    (d.join key.dir).place.child key.file = d.place.descend key.names := by
  rw [Path.place_join d (isAbsolute_dir h), entries_dir h, ← Location.descend_concat]
  rfl

/-- What is on the way to an output is passed. -/
theorem passed_of_onWay {layout : Layout} (hd : d ∈ layout.localDirs) (h : key.id.IsPlain)
    {l : Location} (hl : FileStore.OnWay ⟨(d.join key.dir).isAbsolute, 0, []⟩
      (d.join key.dir).entries l) : layout.Passed l := by
  rw [Path.isAbsolute_join (isAbsolute_dir h), Path.entries_join (isAbsolute_dir h),
    entries_dir h] at hl
  exact ⟨d, hd, key.dirNames, key.length_dirNames, hl⟩

end OutputKey

/-! ## §2 Runs -/

/-- A worker: its service, its files, and the buckets that were put, the last one in front. -/
structure Worker where
  service : PullService
  store : FileStore := {}
  puts : List (OutputKey × Bytes) := []

namespace Worker

/-- What happens on a worker. -/
inductive Step where
  | start (id : AppIdentity)
  | stop (app : String)
  /-- A task of the active application writes one bucket of its output. -/
  | put (stage : UInt32) (attempt : TaskAttempt) (bucket : UInt32) (content : Bytes)

/-- Notes that a bucket was put. -/
def note (w : Worker) (store : FileStore) (key : OutputKey) (content : Bytes) : Worker :=
  { w with store, puts := (key, content) :: w.puts }

/-- Puts a bucket into the output directory of an attempt. It counts if there was no fault. -/
def put (w : Worker) (stage : UInt32) (attempt : TaskAttempt) (bucket : UInt32)
    (content : Bytes) : Worker :=
  match w.service.registry.active with
  | none => w
  | some id =>
    match w.service.layout.outputDir id stage attempt with
    | .error _ => w
    | .ok dir =>
      let change := w.store.putIn dir (dir.join ⟨Decimal.numeral bucket.toNat⟩) content
      if change.fault = none then w.note change.store ⟨id, stage, attempt, bucket⟩ content
      else { w with store := change.store }

/-- One step. -/
def step (w : Worker) : Step → Worker
  | .start id => { w with service.registry := w.service.registry.start id }
  | .stop app => { w with service.registry := w.service.registry.stop app }
  | .put stage attempt bucket content => w.put stage attempt bucket content

/-- A run of a worker that has no files and no applications at first. -/
def run (layout : Layout) (bufferSize : Nat) (steps : List Step) : Worker :=
  steps.foldl step { service := { layout, bufferSize } }

/-- What was put last into a bucket. -/
def content? (w : Worker) (key : OutputKey) : Option Bytes :=
  (w.puts.find? (·.1 = key)).map (·.2)

/-- A note changes what is known of its own output. -/
theorem content?_note (w : Worker) (store : FileStore) (key : OutputKey) (content : Bytes)
    (key' : OutputKey) : (w.note store key content).content? key'
      = if key = key' then some content else w.content? key' := by
  by_cases h : key = key' <;> simp [note, content?, h]

/-- Only applications with plain names are started. -/
def Step.IsPlain : Step → Prop
  | .start id => id.IsPlain
  | _ => True

instance : DecidablePred Step.IsPlain
  | .start id => inferInstanceAs (Decidable id.IsPlain)
  | .stop _ => .isTrue trivial
  | .put .. => .isTrue trivial

/-- Files stand exactly where buckets were put, and hold what was put last. -/
structure Tidy (w : Worker) : Prop where
  separate : w.service.layout.Separate
  sound : w.store.Sound
  users : ∀ entry ∈ w.service.registry.users, Path.IsName entry.1 ∧ Path.IsName entry.2
  files : ∀ {l : Location} {content : Bytes}, w.store.node? l = some (.file content) ↔
    ∃ key, w.service.layout.StandsAt key l ∧ w.content? key = some content
  directories : ∀ {l : Location}, w.store.node? l = some .directory →
    l.names = [] ∨ w.service.layout.Passed l

namespace Tidy

variable {w : Worker} {id : AppIdentity}

/-- An application that is served has plain names. -/
theorem isPlain_active (h : w.Tidy) (hactive : w.service.registry.active = some id) :
    id.IsPlain := by
  obtain ⟨app, -, hactive⟩ := Option.bind_eq_some_iff.mp hactive
  obtain ⟨user, huser, hactive⟩ := Option.bind_eq_some_iff.mp hactive
  obtain ⟨⟨app', user'⟩, hentry, rfl⟩ := Option.map_eq_some_iff.mp huser
  have happ : app' = app := by simpa using List.find?_some hentry
  obtain ⟨happName, huserName⟩ := h.users _ (List.mem_of_find?_eq_some hentry)
  cases hactive
  exact ⟨huserName, happ ▸ happName⟩

/-- No directory stands where a bucket can stand: buckets lie deeper. -/
theorem node?_ne_directory (h : w.Tidy) {d : Path} (hd : d ∈ w.service.layout.localDirs)
    (key : OutputKey) : w.store.node? (d.place.descend key.names) ≠ some .directory := by
  intro hnode
  rcases h.directories hnode with hroot | hpassed
  · simp [Location.descend, OutputKey.names] at hroot
  · exact h.separate.not_passed hd rfl hpassed

/-- Applications come and go without the files. -/
theorem registry (h : w.Tidy) {registry : Registry}
    (husers : ∀ entry ∈ registry.users, Path.IsName entry.1 ∧ Path.IsName entry.2) :
    ({ w with service.registry := registry } : Worker).Tidy where
  separate := h.separate
  sound := h.sound
  users := husers
  files := h.files
  directories := h.directories

/-- New directories on the way to buckets are allowed. -/
private theorem grow (h : w.Tidy) {t : FileStore} {new : Location → Prop} (ht : t.Sound)
    (hgrows : w.store.Grows t new) (hnew : ∀ l, new l → w.service.layout.Passed l) :
    ({ w with store := t } : Worker).Tidy where
  separate := h.separate
  sound := ht
  users := h.users
  files := hgrows.file_iff.trans h.files
  directories hl := by
    rcases hgrows.added hl with hold | ⟨-, hl⟩
    · exact h.directories hold
    · exact Or.inr (hnew _ hl)

/-- The file of a bucket is replaced, and so is what the map has for the bucket. -/
private theorem note (h : w.Tidy) {key : OutputKey} {l : Location} {content : Bytes}
    (hl : w.service.layout.StandsAt key l) (hnames : l.names ≠ [])
    (hset : (w.store.set l (.file content)).Sound) :
    (w.note (w.store.set l (.file content)) key content).Tidy where
  separate := h.separate
  sound := hset
  users := h.users
  files {m found} := by
    show (w.store.set l (.file content)).node? m = _ ↔ _
    simp only [content?_note]
    by_cases hm : m = l
    · subst hm
      rw [FileStore.node?_set _ hnames, Option.some.injEq, Node.file.injEq]
      constructor
      · rintro rfl
        exact ⟨key, hl, if_pos rfl⟩
      · -- No other bucket stands there.
        rintro ⟨key', hl', hcontent⟩
        rw [if_pos (h.separate.standsAt_inj hl hl')] at hcontent
        exact Option.some.inj hcontent
    · rw [FileStore.node?_set_of_ne _ hm, h.files]
      refine exists_congr fun key' => and_congr_right fun hl' => ?_
      have hne : key ≠ key' := by
        rintro rfl
        exact hm (hl'.unique hl)
      rw [if_neg hne]
  directories {m} hm := by
    by_cases hml : m = l
    · subst hml
      have hnode := FileStore.node?_set w.store hnames (.file content)
      exact absurd (hnode.symm.trans hm) (by simp)
    · exact h.directories ((FileStore.node?_set_of_ne _ hml _).symm.trans hm)

/-- Putting a bucket is putting its file into its directory. -/
private theorem put_eq {key : OutputKey} {d : Path}
    (hactive : w.service.registry.active = some key.id)
    (hd : w.service.layout.home? key.attempt = some d) (content : Bytes) :
    w.put key.stage key.attempt key.bucket content =
      if (w.store.putIn (d.join key.dir) ((d.join key.dir).join ⟨key.file⟩) content).fault = none
      then w.note (w.store.putIn (d.join key.dir) ((d.join key.dir).join ⟨key.file⟩) content).store
        key content
      else { w with
        store := (w.store.putIn (d.join key.dir) ((d.join key.dir).join ⟨key.file⟩) content).store }
      := by
  rw [Worker.put, hactive]
  dsimp only
  rw [Layout.outputDir_eq hd]
  rfl

/-- Putting a bucket keeps a worker tidy, whether it succeeds or not. -/
theorem put (h : w.Tidy) (stage : UInt32) (attempt : TaskAttempt) (bucket : UInt32)
    (content : Bytes) : (w.put stage attempt bucket content).Tidy := by
  cases hactive : w.service.registry.active with
  | none =>
    rw [Worker.put, hactive]
    exact h
  | some id =>
    obtain ⟨d, hd⟩ := h.separate.exists_home? attempt
    have hmem := Layout.mem_of_home? hd
    let key : OutputKey := ⟨id, stage, attempt, bucket⟩
    have hid : key.id.IsPlain := h.isPlain_active hactive
    have hdir := OutputKey.isPlain_join (h.separate.plain d hmem) hid
    have hend := key.endsInName_dir.join d
    obtain ⟨t, ht, hgrows, hresult⟩ :=
      FileStore.putIn_cases h.sound hdir hend key.isName_file content
    have hgrown := h.grow ht hgrows fun l => OutputKey.passed_of_onWay hmem hid
    show (w.put key.stage key.attempt key.bucket content).Tidy
    rw [put_eq hactive hd content]
    -- Directories are made in any case, and the map grows only along with the file.
    rcases hresult with ⟨hfault, hthere, hshort, hfree, hstore⟩ | ⟨hfault, hstore⟩
    · rw [if_pos hfault, hstore]
      have hl : w.service.layout.StandsAt key ((d.join key.dir).place.child key.file) :=
        ⟨d, hd, OutputKey.place_file d hid⟩
      exact hgrown.note hl (by simp [Location.child]) (ht.set hthere hshort hfree)
    · rw [if_neg hfault, hstore]
      exact hgrown

/-- With names that are not too long, every bucket can be put: no file is in the way of a
directory, and no directory in the place of a file. -/
theorem put_succeeds (h : w.Tidy) {key : OutputKey}
    (hactive : w.service.registry.active = some key.id)
    (hshort : ∀ name ∈ [key.id.user, key.id.app], name.utf8ByteSize ≤ FileStore.longestName)
    (hdirs : ∀ d ∈ w.service.layout.localDirs, ∀ name ∈ d.entries,
      name.utf8ByteSize ≤ FileStore.longestName) (content : Bytes) :
    (w.put key.stage key.attempt key.bucket content).content? key = some content := by
  obtain ⟨d, hd⟩ := h.separate.exists_home? key.attempt
  have hmem := Layout.mem_of_home? hd
  have hid : key.id.IsPlain := h.isPlain_active hactive
  have hdir := OutputKey.isPlain_join (h.separate.plain d hmem) hid
  have hend := key.endsInName_dir.join d
  -- Nothing is in the way: no name is too long, no file stands on the way, no directory at its end.
  have hfault :
      (w.store.putIn (d.join key.dir) ((d.join key.dir).join ⟨key.file⟩) content).fault = none := by
    apply FileStore.putIn_succeeds h.sound hdir hend key.isName_file content
    · intro name hname
      rw [Path.entries_join (OutputKey.isAbsolute_dir hid), OutputKey.entries_dir hid] at hname
      rcases List.mem_append.mp hname with hname | hname
      · exact hdirs d hmem name hname
      · exact OutputKey.short_dirNames hshort name hname
    · exact (Decimal.utf8ByteSize_numeral_le _).trans (by decide)
    · -- Files stand deeper than any directory.
      intro m hm content' hfile
      obtain ⟨key', ⟨d', hd', rfl⟩, -⟩ := h.files.mp hfile
      exact h.separate.not_passed (Layout.mem_of_home? hd') rfl
        (OutputKey.passed_of_onWay hmem hid hm)
    · rw [OutputKey.place_file d hid]
      exact h.node?_ne_directory hmem key
  rw [put_eq hactive hd content, if_pos hfault, content?_note, if_pos rfl]

/-- Every step keeps a worker tidy. -/
theorem step (h : w.Tidy) {step : Step} (hstep : step.IsPlain) : (w.step step).Tidy := by
  cases step with
  | start id =>
    apply h.registry
    intro entry hentry
    rcases List.mem_cons.mp hentry with rfl | hentry
    · exact ⟨hstep.app, hstep.user⟩
    · exact h.users entry (List.mem_of_mem_filter hentry)
  | stop app =>
    apply h.registry
    intro entry hentry
    exact h.users entry (List.mem_of_mem_filter hentry)
  | put stage attempt bucket content => exact h.put stage attempt bucket content

end Tidy

/-- A run does not change how a worker is set up. -/
theorem service_run (layout : Layout) (bufferSize : Nat) (steps : List Step) :
    (run layout bufferSize steps).service.layout = layout ∧
      (run layout bufferSize steps).service.bufferSize = bufferSize := by
  -- No step touches the settings, whether it succeeds or not.
  have hstep (w : Worker) (step : Step) : (w.step step).service.layout = w.service.layout ∧
      (w.step step).service.bufferSize = w.service.bufferSize := by
    cases step with
    | start id => exact ⟨rfl, rfl⟩
    | stop app => exact ⟨rfl, rfl⟩
    | put stage attempt bucket content =>
      show (w.put stage attempt bucket content).service.layout = _ ∧
        (w.put stage attempt bucket content).service.bufferSize = _
      unfold Worker.put
      split
      · exact ⟨rfl, rfl⟩
      · split
        · exact ⟨rfl, rfl⟩
        · dsimp only
          split <;> exact ⟨rfl, rfl⟩
  induction steps using List.reverseRecOn with
  | nil => exact ⟨rfl, rfl⟩
  | append_singleton steps step ih =>
    obtain ⟨hlayout, hbuffer⟩ := hstep (run layout bufferSize steps) step
    rw [run, List.foldl_append]
    exact ⟨hlayout.trans ih.1, hbuffer.trans ih.2⟩

/-- A worker is tidy after every run. -/
theorem tidy_run {layout : Layout} (hlayout : layout.Separate) (bufferSize : Nat)
    {steps : List Step} (hsteps : ∀ step ∈ steps, step.IsPlain) :
    (run layout bufferSize steps).Tidy := by
  have hstart : ({ service := { layout, bufferSize } } : Worker).Tidy :=
    { separate := hlayout
      sound := FileStore.sound_empty
      users := by simp
      files := by
        intro l content
        by_cases hl : l.names = [] <;> simp [FileStore.node?, content?, hl]
      directories := by
        intro l hl
        by_cases hnames : l.names = []
        · exact Or.inl hnames
        · simp [FileStore.node?, hnames] at hl }
  -- From here on the run may start at any tidy worker.
  unfold run
  generalize ({ service := { layout, bufferSize } } : Worker) = w at hstart
  induction steps generalizing w with
  | nil => exact hstart
  | cons step rest ih =>
    obtain ⟨hstep, hrest⟩ := List.forall_mem_cons.mp hsteps
    exact ih hrest _ (hstart.step hstep)

end Worker

end Shuffle
