import Mathlib
import Shuffle.Proofs.Pull.Exchange
import Shuffle.Proofs.Pull.Worker

/-!
# Output that was put can be fetched

The service looks for a bucket in all local directories, and tasks write each bucket into one of
them. On a tidy worker the bucket is found there and nowhere else. So a fetch of a bucket is
answered from the map of what was put, and what was put under other keys does not matter.

- `Worker.Tidy.stat_eq_ok`: what the service finds at the paths of a bucket.
- `Worker.AnswersBucket` is the answer to a fetch, in terms of the map.
- `Worker.run_serves_puts` is the answer after any run.
-/

namespace Shuffle

open Fallible

/-- The path of a bucket, from a local directory on. -/
def OutputKey.path (key : OutputKey) : Path := key.dir.join ⟨key.file⟩

/-- The bucket of an attempt that a request asks for. -/
def FetchRequest.key (request : FetchRequest) (id : AppIdentity) (attempt : TaskAttempt) :
    OutputKey :=
  ⟨id, request.stage, attempt, request.partition⟩

namespace Worker

/-- A fetch from the service of a worker. -/
def get (w : Worker) (query? : Option String) : Exchange :=
  w.service.exchange w.store .get ⟨"/", query?⟩

variable {w : Worker} {id : AppIdentity} {request : FetchRequest} {attempt : TaskAttempt}
  {key : OutputKey} {content : Bytes} {d : Path}

namespace Tidy

/-! ## §1 Finding a bucket -/

/-- A bucket is found in the local directory of its attempt, if it was put, and nowhere else. -/
theorem stat_eq_ok (h : w.Tidy) (hid : key.id.IsPlain) (hd : d ∈ w.service.layout.localDirs)
    {node : Node} :
    w.store.stat (d.join key.path) = .ok node ↔
      w.service.layout.home? key.attempt = some d ∧
        ∃ content, w.content? key = some content ∧ node = .file content := by
  have hname := key.isName_file
  have habs : key.path.isAbsolute = false := by
    rw [OutputKey.path, Path.isAbsolute_join hname.isAbsolute, OutputKey.isAbsolute_dir hid]
  have hentries : key.path.entries = key.names := by
    rw [OutputKey.path, Path.entries_join hname.isAbsolute, OutputKey.entries_dir hid,
      hname.entries]
    rfl
  have hplain : key.path.IsPlain := (OutputKey.isPlain_dir hid).join hname.isPlain hname.isAbsolute
  have hend : (d.join key.path).EndsInName := (hname.endsInName.join key.dir).join d
  rw [h.sound.stat_eq_ok ((h.separate.plain d hd).join hplain habs) hend, Path.place_join d habs,
    hentries]
  constructor
  · intro hnode
    cases node with
    | directory => exact absurd hnode (h.node?_ne_directory hd key)
    | file content =>
      obtain ⟨key', ⟨d', hd', hplace⟩, hcontent⟩ := h.files.mp hnode
      -- The file that stands there is that of some bucket, and the place tells of which one.
      have hlength : key.names.length = key'.names.length := rfl
      obtain ⟨rfl, hnames⟩ :=
        (h.separate.descend_inj hd (Layout.mem_of_home? hd') hlength).mp hplace
      obtain rfl := OutputKey.names_injective hnames
      exact ⟨hd', content, hcontent, rfl⟩
  · rintro ⟨hhome, content, hcontent, rfl⟩
    exact h.files.mpr ⟨key, ⟨d, hhome, rfl⟩, hcontent⟩

/-- The service finds a bucket that was put. -/
theorem hashFile_eq_ok (h : w.Tidy) (hid : key.id.IsPlain)
    (hhome : w.service.layout.home? key.attempt = some d)
    (hcontent : w.content? key = some content) :
    w.service.layout.hashFile w.store key.id key.stage key.attempt key.bucket
      = .ok (d.join key.path) := by
  have hmem := Layout.mem_of_home? hhome
  have hholds : w.store.holds (d.join key.path) = true :=
    FileStore.holds_iff.mpr ⟨_, (h.stat_eq_ok hid hmem).mpr ⟨hhome, content, hcontent, rfl⟩⟩
  have hfound : w.service.layout.find? w.store key.path = some (d.join key.path) := by
    cases hfind : w.service.layout.find? w.store key.path with
    | none =>
      have hnone := List.find?_eq_none.mp hfind (d.join key.path) (List.mem_map_of_mem hmem)
      exact absurd hholds hnone
    | some p =>
      -- Whatever comes first is in the directory of the attempt.
      obtain ⟨d', hd', rfl⟩ := List.mem_map.mp (List.mem_of_find?_eq_some hfind)
      obtain ⟨node, hnode⟩ := FileStore.holds_iff.mp (List.find?_some hfind)
      have hhome' := ((h.stat_eq_ok hid hd').mp hnode).1
      rw [Option.some.inj (hhome.symm.trans hhome')]
  show w.service.layout.find w.store key.path = _
  rw [Layout.find, hfound]

/-- The service finds no bucket that was not put. -/
theorem hashFile_eq_error (h : w.Tidy) (hid : key.id.IsPlain) (hcontent : w.content? key = none) :
    w.service.layout.hashFile w.store key.id key.stage key.attempt key.bucket
      = .error (.missing (w.service.layout.candidates key.path)) := by
  -- A file at any of the candidates would be what the run has stored for the key.
  have hfound : w.service.layout.find? w.store key.path = none := by
    apply List.find?_eq_none.mpr
    intro p hp hholds
    obtain ⟨d, hd, rfl⟩ := List.mem_map.mp hp
    obtain ⟨node, hnode⟩ := FileStore.holds_iff.mp hholds
    obtain ⟨-, content, hsome, -⟩ := (h.stat_eq_ok hid hd).mp hnode
    rw [hcontent] at hsome
    cases hsome
  show w.service.layout.find w.store key.path = _
  rw [Layout.find, hfound]

/-- The slice of an attempt whose bucket was put is the file of the bucket. -/
theorem ofAttempt_eq_ok (h : w.Tidy) (hid : id.IsPlain) (hkind : request.kind = .hash)
    (hhome : w.service.layout.home? attempt = some d)
    (hcontent : w.content? (request.key id attempt) = some content) :
    FileChunk.ofAttempt w.service.layout w.store id request attempt
        = .ok (FileChunk.make? (d.join (request.key id attempt).path) 0
          (UInt64.ofNat content.length)) ∧
      w.store.stat (d.join (request.key id attempt).path) = .ok (.file content) := by
  have hstat : w.store.stat (d.join (request.key id attempt).path) = .ok (.file content) :=
    (h.stat_eq_ok hid (Layout.mem_of_home? hhome)).mpr ⟨hhome, content, hcontent, rfl⟩
  have hid' : (request.key id attempt).id.IsPlain := hid
  have hfile := h.hashFile_eq_ok hid' hhome hcontent
  refine ⟨?_, hstat⟩
  unfold FileChunk.ofAttempt
  rw [hkind]
  -- The file is found where the attempt is at home, and its length is taken there.
  refine bind_eq_ok.mpr ⟨_, hfile, ?_⟩
  simp [FileChunk.wholeFile, FileChunk.fileLength, FileStore.length, hstat, Except.map]

/-- An output that was never put is missing, and the fault names all places where it was looked for.
-/
theorem ofAttempt_eq_error (h : w.Tidy) (hid : id.IsPlain) (hkind : request.kind = .hash)
    (hcontent : w.content? (request.key id attempt) = none) :
    FileChunk.ofAttempt w.service.layout w.store id request attempt = .error
      (.missing (w.service.layout.candidates (request.key id attempt).path)) := by
  have hid' : (request.key id attempt).id.IsPlain := hid
  have hfile := h.hashFile_eq_error hid' hcontent
  unfold FileChunk.ofAttempt
  rw [hkind]
  exact bind_eq_error.mpr (Or.inl hfile)

/-! ## §2 Answers -/

/-- A file as a slice holds its content, unless it is empty. -/
private theorem make?_whole {store : FileStore} {p : Path}
    (hstat : store.stat p = .ok (.file content)) (hlength : content.length < UInt64.size) :
    (∀ c ∈ FileChunk.make? p 0 (UInt64.ofNat content.length), c.Present store content) ∧
      (FileChunk.make? p 0 (UInt64.ofNat content.length)).toList.flatMap
        (FileChunk.octetsIn store) = content := by
  have htoNat := UInt64.toNat_ofNat_of_lt' hlength
  unfold FileChunk.make?
  split
  -- An empty file makes no slice, and its content is nothing.
  next hzero =>
    rw [hzero] at htoNat
    simp [List.eq_nil_of_length_eq_zero htoNat.symm]
  next hne =>
    have hpresent : (⟨p, 0, UInt64.ofNat content.length⟩ : FileChunk).Present store content :=
      { file := hstat
        within := by simp [htoNat]
        positive := Nat.pos_of_ne_zero fun hzero => hne (UInt64.toNat_inj.mp hzero)
        seekable := by simp }
    simp [hpresent, hpresent.octetsIn_eq, FileChunk.octets, htoNat]

/-- If all buckets of a request were put, each attempt has a slice. The slices are what was put,
as long as 64 bits can count it. -/
private theorem found_of_contents (h : w.Tidy) (hid : id.IsPlain) (hkind : request.kind = .hash)
    {attempts : List TaskAttempt} {contents : List Bytes}
    (hcontents : List.Forall₂ (fun a content => w.content? (request.key id a) = some content)
      attempts contents) :
    ∃ slices, List.Forall₂ (fun a slice =>
        FileChunk.ofAttempt w.service.layout w.store id request a = .ok slice) attempts slices ∧
      (contents.flatten.length < UInt64.size →
        (∀ c ∈ slices.reduceOption, ∃ content, c.Present w.store content) ∧
        slices.reduceOption.flatMap (FileChunk.octetsIn w.store) = contents.flatten) := by
  induction hcontents with
  | nil => exact ⟨[], .nil, by simp⟩
  | @cons a content attempts contents hcontent hrest ih =>
    obtain ⟨slices, hslices, hwhole⟩ := ih
    obtain ⟨d, hd⟩ := h.separate.exists_home? a
    obtain ⟨hslice, hstat⟩ := h.ofAttempt_eq_ok hid hkind hd hcontent
    refine ⟨_, .cons hslice hslices, fun hlength => ?_⟩
    rw [List.flatten_cons, List.length_append] at hlength
    obtain ⟨hpresent, hcontent⟩ := make?_whole hstat (by omega)
    obtain ⟨hpresents, hcontents⟩ := hwhole (by omega)
    generalize FileChunk.make? _ _ _ = slice at hpresent hcontent ⊢
    cases slice with
    | none =>
      -- An empty bucket adds nothing.
      have hempty : content = [] := hcontent.symm
      rw [List.reduceOption_cons_of_none, hempty]
      exact ⟨hpresents, hcontents⟩
    | some c =>
      rw [List.reduceOption_cons_of_some]
      refine ⟨List.forall_mem_cons.mpr ⟨⟨content, hpresent c rfl⟩, hpresents⟩, ?_⟩
      have hoctets : c.octetsIn w.store = content := by simpa using hcontent
      rw [List.flatMap_cons, List.flatten_cons, hoctets, hcontents]

variable {query? : Option String}

/-- An attempt that has put nothing makes the fetch fail, whatever the others have put. -/
private theorem get_of_missing (h : w.Tidy)
    (hparsed : FetchRequest.ofQuery (query?.getD "") = .ok request) (hkind : request.kind = .hash)
    (hactive : w.service.registry.active = some id)
    (hmissing : ∃ a ∈ request.attempts, w.content? (request.key id a) = none) :
    (w.get query?).response.status = 404 ∧
      ∃ message, (w.get query?).response.body = .text message := by
  have hid := h.isPlain_active hactive
  have hfind : (request.attempts.find? fun a => w.content? (request.key id a) = none).isSome := by
    simpa using hmissing
  obtain ⟨lowest, hlowest⟩ := Option.isSome_iff_exists.mp hfind
  obtain ⟨hnone, before, after, hsplit, hbefore⟩ := List.find?_eq_some_iff_append.mp hlowest
  -- The attempts before the lowest one that lacks its bucket have slices.
  have hok : ∀ a ∈ before, ∃ slice,
      FileChunk.ofAttempt w.service.layout w.store id request a = .ok slice := by
    intro a ha
    have hput : w.content? (request.key id a) ≠ none := by simpa using hbefore a ha
    obtain ⟨content, hcontent⟩ := Option.ne_none_iff_exists'.mp hput
    obtain ⟨d, hd⟩ := h.separate.exists_home? a
    exact ⟨_, (h.ofAttempt_eq_ok hid hkind hd hcontent).1⟩
  have hfailed := h.ofAttempt_eq_error hid hkind (of_decide_eq_true hnone)
  rw [get, PullService.exchange_refused (.attempt hparsed hactive hsplit hok hfailed)]
  exact ⟨rfl, _, rfl⟩

/-- Else the answer has what was put, or it says that there is nothing. -/
private theorem get_of_contents (h : w.Tidy)
    (hparsed : FetchRequest.ofQuery (query?.getD "") = .ok request) (hkind : request.kind = .hash)
    (hactive : w.service.registry.active = some id) {contents : List Bytes}
    (hcontents : List.Forall₂ (fun a content => w.content? (request.key id a) = some content)
      request.attempts contents) (hlength : contents.flatten.length < UInt64.size) :
    if contents.flatten = [] then w.get query? = ⟨.empty 204, [], none⟩
    else (w.get query?).response.status = 200 ∧ (w.get query?).received = contents.flatten ∧
      (w.get query?).response.contentLength = contents.flatten.length ∧
      (w.get query?).fault = none := by
  obtain ⟨slices, hslices, hwhole⟩ :=
    h.found_of_contents (h.isPlain_active hactive) hkind hcontents
  obtain ⟨hpresent, hflat⟩ := hwhole hlength
  have hfinds : w.service.Finds w.store (query?.getD "") id request slices :=
    ⟨hparsed, hactive, hslices⟩
  have hsize := FileChunk.length_flatMap_octetsIn hpresent
  rw [hflat] at hsize
  have hlt : FileChunk.size slices.reduceOption < UInt64.size := hsize ▸ hlength
  -- The lengths add up without overflow, since all contents fit one answer.
  have htotal := FileChunk.toNat_total_of_lt hlt
  rw [← hsize] at htotal
  split
  next hempty =>
    rw [hempty] at htotal
    exact PullService.exchange_empty hfinds (UInt64.toNat_inj.mp htotal)
  next hne =>
    have hnonzero : FileChunk.total slices.reduceOption ≠ 0 := by
      intro hzero
      rw [hzero] at htotal
      exact hne (List.eq_nil_of_length_eq_zero htotal.symm)
    have hchunks : slices.reduceOption ≠ [] := by
      intro hnil
      rw [hnil] at hflat
      exact hne hflat.symm
    rw [get, PullService.exchange_slices hfinds hnonzero,
      Transfer.run_present w.service.bufferSize hpresent hchunks hlt]
    exact ⟨rfl, hflat, htotal, rfl⟩

/-- Two tidy workers with the same buckets of a request answer it alike, whatever else they have. -/
private theorem get_congr {w' : Worker} (h : w.Tidy) (h' : w'.Tidy)
    (hlayout : w.service.layout = w'.service.layout)
    (hbuffer : w.service.bufferSize = w'.service.bufferSize)
    (hparsed : FetchRequest.ofQuery (query?.getD "") = .ok request) (hkind : request.kind = .hash)
    (hactive : w.service.registry.active = some id)
    (hactive' : w'.service.registry.active = some id)
    (hsame : ∀ a ∈ request.attempts,
      w.content? (request.key id a) = w'.content? (request.key id a)) :
    w.get query? = w'.get query? := by
  have hid := h.isPlain_active hactive
  apply PullService.exchange_congr hbuffer (hactive.trans hactive'.symm)
  intro id' request' hactive₂ hparsed₂ a ha
  obtain rfl := Option.some.inj (hactive.symm.trans hactive₂)
  obtain rfl := Except.ok.inj (hparsed.symm.trans hparsed₂)
  -- One attempt in both workers: missing in both, or put with one content.
  have hcontents := hsame a ha
  cases hcontent : w.content? (request.key id a) with
  | none =>
    rw [hcontent] at hcontents
    rw [h.ofAttempt_eq_error hid hkind hcontent, h'.ofAttempt_eq_error hid hkind hcontents.symm,
      hlayout]
    refine ⟨rfl, fun c hc => ?_⟩
    cases hc
  | some content =>
    rw [hcontent] at hcontents
    obtain ⟨d, hd⟩ := h.separate.exists_home? a
    obtain ⟨hslice, hstat⟩ := h.ofAttempt_eq_ok hid hkind hd hcontent
    obtain ⟨hslice', hstat'⟩ := h'.ofAttempt_eq_ok hid hkind (hlayout ▸ hd) hcontents.symm
    rw [hslice, hslice']
    refine ⟨rfl, fun c hc => ?_⟩
    obtain ⟨-, rfl⟩ := FileChunk.make?_eq_some.mp (Except.ok.inj hc)
    rw [hstat, hstat']

end Tidy

/-! ## §3 Runs -/

/-- The answer to a fetch of a bucket, from what was put into the bucket by each attempt. -/
structure AnswersBucket (w : Worker) (id : AppIdentity) (request : FetchRequest) (e : Exchange) :
    Prop where
  ascending : request.attempts.Pairwise fun a b => TaskAttempt.le a b = true ∧ a ≠ b
  missing : (∃ a ∈ request.attempts, w.content? (request.key id a) = none) →
    e.response.status = 404 ∧ ∃ message, e.response.body = .text message
  empty : ∀ contents, List.Forall₂ (fun a content => w.content? (request.key id a) = some content)
    request.attempts contents → contents.flatten = [] → e = ⟨.empty 204, [], none⟩
  /-- What was put last by each attempt arrives, in the order of the attempts. A service counts
  octets in 64 bits. -/
  whole : ∀ contents, List.Forall₂ (fun a content => w.content? (request.key id a) = some content)
    request.attempts contents → contents.flatten ≠ [] → contents.flatten.length < UInt64.size →
      e.response.status = 200 ∧ e.received = contents.flatten ∧
        e.response.contentLength = contents.flatten.length ∧ e.fault = none

/-- Output that was put during a run can be fetched after it. A fetch of a bucket is answered from
what the attempts have put last under the active application; every bucket can be put, if the names
of the user, the application and the directories are not too long; and runs that differ in other
buckets only cannot be told apart by the fetch. -/
theorem run_serves_puts {layout : Layout} (hlayout : layout.Separate) (bufferSize : Nat)
    {steps : List Step} (hsteps : ∀ step ∈ steps, step.IsPlain) {query? : Option String}
    (hparsed : FetchRequest.ofQuery (query?.getD "") = .ok request) (hkind : request.kind = .hash)
    (hactive : (run layout bufferSize steps).service.registry.active = some id) :
    (run layout bufferSize steps).AnswersBucket id request
        ((run layout bufferSize steps).get query?) ∧
      ((∀ name ∈ [id.user, id.app], name.utf8ByteSize ≤ FileStore.longestName) →
        (∀ d ∈ layout.localDirs, ∀ name ∈ d.entries,
          name.utf8ByteSize ≤ FileStore.longestName) →
        ∀ stage attempt bucket content,
          (run layout bufferSize (steps ++ [.put stage attempt bucket content])).content?
            ⟨id, stage, attempt, bucket⟩ = some content) ∧
      ∀ steps' : List Step, (∀ step ∈ steps', step.IsPlain) →
        (run layout bufferSize steps').service.registry.active = some id →
        (∀ a ∈ request.attempts, (run layout bufferSize steps).content? (request.key id a)
          = (run layout bufferSize steps').content? (request.key id a)) →
        (run layout bufferSize steps).get query? = (run layout bufferSize steps').get query? := by
  have htidy := tidy_run hlayout bufferSize hsteps
  obtain ⟨hservice, hbuffer⟩ := service_run layout bufferSize steps
  refine ⟨⟨PullService.pairwise_attempts hparsed, htidy.get_of_missing hparsed hkind hactive,
    ?_, ?_⟩, ?_, ?_⟩
  · intro contents hcontents hempty
    have hget := htidy.get_of_contents hparsed hkind hactive hcontents (by simp [hempty])
    rwa [if_pos hempty] at hget
  · intro contents hcontents hne hlength
    have hget := htidy.get_of_contents hparsed hkind hactive hcontents hlength
    rwa [if_neg hne] at hget
  · intro hshort hdirs stage attempt bucket content
    -- The put comes last in the run, and succeeds unless a name is too long.
    let key : OutputKey := ⟨id, stage, attempt, bucket⟩
    have hkey : (run layout bufferSize steps).service.registry.active = some key.id := hactive
    rw [run, List.foldl_append]
    exact htidy.put_succeeds hkey hshort (by rwa [hservice]) content
  · intro steps' hsteps' hactive' hsame
    obtain ⟨hservice', hbuffer'⟩ := service_run layout bufferSize steps'
    exact htidy.get_congr (tidy_run hlayout bufferSize hsteps') (hservice.trans hservice'.symm)
      (hbuffer.trans hbuffer'.symm) hparsed hkind hactive hactive' hsame

/-- A worker with two local directories. -/
def twoDirs : Layout := ⟨[⟨"/a"⟩, ⟨"/b/"⟩]⟩

/-- The application is stopped and started again, and another one puts the same bucket in between.
One bucket is put twice. -/
def busySteps : List Step :=
  [.start ⟨"u", "x"⟩, .put 1 ⟨1, 0⟩ 5 [9], .put 1 ⟨0, 2⟩ 5 [1], .start ⟨"v", "y"⟩,
    .put 1 ⟨0, 2⟩ 5 [7], .stop "x", .stop "y", .put 1 ⟨0, 2⟩ 5 [8], .start ⟨"u", "x"⟩,
    .put 1 ⟨1, 0⟩ 5 [2, 3]]

/-- Two attempts of one bucket are answered as one body, in the order of the attempts. -/
theorem run_serves_puts_busy :
    ∃ e, (run twoDirs 4 busySteps).get (some "sid=1&p=5&type=h&ta=1_0,0_2") = e ∧
      e.response.status = 200 ∧ e.received = [1, 2, 3] ∧ e.response.contentLength = 3 ∧
      e.fault = none := by
  have hlayout : twoDirs.Separate := ⟨by decide, by decide, by decide⟩
  have hsteps : ∀ step ∈ busySteps, step.IsPlain := by decide
  have hparsed : FetchRequest.ofQuery "sid=1&p=5&type=h&ta=1_0,0_2"
      = .ok ⟨1, 5, .hash, [⟨0, 2⟩, ⟨1, 0⟩]⟩ := by cbv
  -- The run is evaluated once. What the service answers then follows from the theorem.
  have hrun : (run twoDirs 4 busySteps).service.registry.active = some ⟨"u", "x"⟩ ∧
      (run twoDirs 4 busySteps).content? ⟨⟨"u", "x"⟩, 1, ⟨0, 2⟩, 5⟩ = some [1] ∧
      (run twoDirs 4 busySteps).content? ⟨⟨"u", "x"⟩, 1, ⟨1, 0⟩, 5⟩ = some [2, 3] := by
    decide +kernel
  obtain ⟨hactive, hfirst, hsecond⟩ := hrun
  have hcontents : List.Forall₂ (fun a content => (run twoDirs 4 busySteps).content?
      ((⟨1, 5, .hash, [⟨0, 2⟩, ⟨1, 0⟩]⟩ : FetchRequest).key ⟨"u", "x"⟩ a) = some content)
      [⟨0, 2⟩, ⟨1, 0⟩] [[1], [2, 3]] := .cons hfirst (.cons hsecond .nil)
  obtain ⟨hanswer, -⟩ := @run_serves_puts _ _ _ hlayout 4 _ hsteps (some _) hparsed rfl hactive
  obtain ⟨hstatus, hreceived, hlength, hfault⟩ :=
    hanswer.whole _ hcontents (by decide) (by decide)
  exact ⟨_, rfl, hstatus, hreceived, hlength, hfault⟩

end Worker

end Shuffle
