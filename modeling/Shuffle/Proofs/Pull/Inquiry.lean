import Mathlib
import Shuffle.Proofs.Pull.Complete

/-!
# The service as a program that names the paths it looks at

The functions of the service are given all files at once, and say nothing of those that they use.
Here the same service is written as a program that comes to see a file only by naming its path. A
run of the program gives its answer together with all paths that were named, so nothing that is
looked at is left out of the record.

- `Inquiry` are such programs, and `Inquiry.run` runs one on the files of a store.
- `Inquiry.Looks` relates a program to its answer and to the paths that it may name.
- `PullService.inquiry` is the service. `PullService.looks_inquiry` says that it answers as the
  service does, and names only paths of the attempts of its query.
-/

namespace Shuffle

open Fallible

/-! ## §1 Programs -/

/-- A program that looks at files. What it does next may depend on what stands at the paths that it
has named, and on nothing else. -/
inductive Inquiry (α : Type) where
  | done (answer : α)
  | look (path : Path) (next : Except FileFault Node → Inquiry α)

namespace Inquiry

variable {ε α β : Type}

/-- The answer of a program on the files of a store, and the paths that it names on the way. -/
def run (store : FileStore) : Inquiry α → α × List Path
  | .done answer => (answer, [])
  | .look path next =>
    let (answer, paths) := run store (next (store.stat path))
    (answer, path :: paths)

/-- Goes on with the answer of a program. -/
protected def bind : Inquiry α → (α → Inquiry β) → Inquiry β
  | .done answer, rest => rest answer
  | .look path next, rest => .look path fun found => (next found).bind rest

/-- Makes something of the answer of a program. -/
def map (f : α → β) (program : Inquiry α) : Inquiry β := program.bind fun answer => .done (f answer)

instance : Monad Inquiry where
  pure := .done
  bind := Inquiry.bind

instance : LawfulMonad Inquiry :=
  LawfulMonad.mk' Inquiry
    (fun program => by
      induction program with
      | done answer => rfl
      | look path next ih => exact congrArg (Inquiry.look path) (funext ih))
    (fun _ _ => rfl)
    (fun program _ _ => by
      induction program with
      | done answer => rfl
      | look path next ih => exact congrArg (Inquiry.look path) (funext ih))

/-- Looks at one path and makes something of what is there. -/
def see (path : Path) (f : Except FileFault Node → α) : Inquiry α :=
  .look path fun found => .done (f found)

/-- On the files of a store a program comes to an answer, and names only paths that are allowed. -/
inductive Looks (store : FileStore) (allowed : Path → Prop) : Inquiry α → α → Prop
  | done (answer : α) : Looks store allowed (.done answer) answer
  | look {path : Path} {next : Except FileFault Node → Inquiry α} {answer : α}
    (hpath : allowed path) (hnext : Looks store allowed (next (store.stat path)) answer) :
    Looks store allowed (.look path next) answer

variable {store : FileStore} {allowed : Path → Prop}

/-- A run of such a program has that answer, and its record has only these paths. -/
theorem Looks.run_eq {program : Inquiry α} {answer : α} (h : Looks store allowed program answer) :
    (program.run store).1 = answer ∧ ∀ p ∈ (program.run store).2, allowed p := by
  induction h with
  | done answer => exact ⟨rfl, by simp [run]⟩
  | look hpath hnext ih =>
    refine ⟨ih.1, ?_⟩
    simp only [run, List.forall_mem_cons]
    exact ⟨hpath, ih.2⟩

/-- What a program has not named does not matter to it. -/
theorem run_congr {a b : FileStore} {program : Inquiry α}
    (h : ∀ p ∈ (program.run a).2, a.stat p = b.stat p) : program.run a = program.run b := by
  induction program with
  | done answer => rfl
  | look path next ih =>
    simp only [run, List.forall_mem_cons] at h
    simp only [run, ← h.1, ih (a.stat path) h.2]

/-- One look at an allowed path names nothing else. -/
theorem Looks.see {path : Path} {f : Except FileFault Node → α} {answer : α}
    (hpath : allowed path) (h : f (store.stat path) = answer) :
    Looks store allowed (see path f) answer :=
  h ▸ .look hpath (.done _)

/-- What is named along the way is named by one of the two programs. -/
theorem Looks.bind {program : Inquiry α} {answer : α} {rest : α → Inquiry β} {last : β}
    (h : Looks store allowed program answer) (hrest : Looks store allowed (rest answer) last) :
    Looks store allowed (program >>= rest) last := by
  induction h with
  | done answer => exact hrest
  | look hpath hnext ih => exact .look hpath (ih hrest)

/-- What is made of an answer looks at nothing. -/
theorem Looks.map {program : Inquiry α} {answer : α} (h : Looks store allowed program answer)
    (f : α → β) : Looks store allowed (program.map f) (f answer) :=
  h.bind (.done _)

/-- What may fail is done step by step, up to the first fault. -/
theorem Looks.andThen {program : ExceptT ε Inquiry α} {result : Except ε α}
    {rest : α → ExceptT ε Inquiry β} {next : α → Except ε β}
    (h : Looks store allowed program.run result)
    (hrest : ∀ a, result = .ok a → Looks store allowed (rest a).run (next a)) :
    Looks store allowed (program >>= rest).run (result >>= next) := by
  rw [ExceptT.run_bind]
  refine h.bind ?_
  cases result with
  | error fault => exact .done _
  | ok a => exact hrest a rfl

/-- The rounds of a loop are done one after the other. -/
theorem Looks.mapM {f : α → ExceptT ε Inquiry β} {g : α → Except ε β} {items : List α}
    (h : ∀ a ∈ items, Looks store allowed (f a).run (g a)) :
    Looks store allowed (items.mapM f).run (items.mapM g) := by
  induction items with
  | nil =>
    rw [List.mapM_nil, List.mapM_nil]
    exact .done _
  | cons a rest ih =>
    obtain ⟨ha, hrest⟩ := List.forall_mem_cons.mp h
    rw [List.mapM_cons, List.mapM_cons]
    exact ha.andThen fun b _ => (ih hrest).andThen fun bs _ => .done _

/-! ## §2 Finding slices -/

/-- The first item at whose path anything is. -/
def firstHeld (path : α → Path) : List α → Inquiry (Option α)
  | [] => .done none
  | a :: rest => .look (path a) fun found =>
    if found.isOk then .done (some a) else firstHeld path rest

/-- The first item that is there, found by looking at one path after the other. -/
theorem looks_firstHeld (path : α → Path) {items : List α} (h : ∀ a ∈ items, allowed (path a)) :
    Looks store allowed (firstHeld path items) (items.find? fun a => store.holds (path a)) := by
  induction items with
  | nil => exact .done none
  | cons a rest ih =>
    obtain ⟨ha, hrest⟩ := List.forall_mem_cons.mp h
    refine .look ha ?_
    rw [List.find?_cons]
    -- Only when nothing is at this path, the next one is looked at.
    cases hholds : store.holds (path a) with
    | false =>
      rw [FileStore.holds] at hholds
      rw [hholds]
      exact ih hrest
    | true =>
      rw [FileStore.holds] at hholds
      rw [hholds]
      exact .done (some a)

variable {layout : Layout} {id : AppIdentity} {request : FetchRequest} {attempt : TaskAttempt}

/-- The file of a hash bucket. -/
def hashFile (layout : Layout) (id : AppIdentity) (stage : UInt32) (attempt : TaskAttempt)
    (bucket : UInt32) : ExceptT PullFault Inquiry Path :=
  let paths :=
    layout.candidates ((Layout.taskDir id stage attempt).join ⟨Decimal.numeral bucket.toNat⟩)
  .mk <| (firstHeld (·) paths).map fun
    | some path => .ok path
    | none => .error (.missing paths)

/-- The directory of sorted output. -/
def rangeDir (layout : Layout) (id : AppIdentity) (stage : UInt32) (attempt : TaskAttempt) :
    ExceptT PullFault Inquiry Path :=
  let dir := Layout.taskDir id stage attempt
  let relative := dir.join Layout.dataFile
  .mk <| (firstHeld (Path.join · relative) layout.localDirs).map fun
    | some d => .ok (d.join dir)
    | none => .error (.missing (layout.candidates relative))

/-- The length of a file. -/
def fileLength (path : Path) : ExceptT PullFault Inquiry UInt64 :=
  .mk <| see path fun
    | .ok .directory => .ok (UInt64.ofNat FileStore.directoryLength)
    | .ok (.file content) => .ok (UInt64.ofNat content.length)
    | .error fault => .error (.ofFile path fault)

/-- The index in a file. -/
def openIndex (path : Path) : ExceptT PullFault Inquiry Index :=
  .mk <| see path fun
    | .ok .directory => .error (.ofFile path .isDirectory)
    | .ok (.file content) => (Index.ofFile content).mapError .index
    | .error fault => .error (.ofFile path fault)

/-- The slice that a range request asks for in a directory. -/
def rangeChunk (dir : Path) (start stop : Bytes) (final : Bool) :
    ExceptT PullFault Inquiry (Option FileChunk) := do
  let data := dir.join Layout.dataFile
  let length ← fileLength data
  let index ← openIndex (dir.join Layout.indexFile)
  .mk (.done (FileChunk.sliceOf index data length start stop final))

/-- A file as one slice. -/
def wholeFile (path : Path) : ExceptT PullFault Inquiry (Option FileChunk) :=
  .mk <| (fileLength path).run.map (Except.map (FileChunk.make? path 0))

/-- The slice of one attempt. -/
def ofAttempt (layout : Layout) (id : AppIdentity) (request : FetchRequest)
    (attempt : TaskAttempt) : ExceptT PullFault Inquiry (Option FileChunk) :=
  match request.kind with
  | .hash => do wholeFile (← hashFile layout id request.stage attempt request.partition)
  | .range start stop final => do
    rangeChunk (← rangeDir layout id request.stage attempt) start stop final

/-- The file of a bucket is looked for in each local directory. -/
theorem looks_hashFile {stage bucket : UInt32} (h : ∀ d ∈ layout.localDirs, allowed
      (d.join ((Layout.taskDir id stage attempt).join ⟨Decimal.numeral bucket.toNat⟩))) :
    Looks store allowed (hashFile layout id stage attempt bucket).run
      (layout.hashFile store id stage attempt bucket) := by
  refine (looks_firstHeld (·) fun p hp => ?_).map _
  obtain ⟨d, hd, rfl⟩ := List.mem_map.mp hp
  exact h d hd

/-- The directory of a range output is looked for by its data file. -/
theorem looks_rangeDir {stage : UInt32} (h : ∀ d ∈ layout.localDirs, allowed
      (d.join ((Layout.taskDir id stage attempt).join Layout.dataFile))) :
    Looks store allowed (rangeDir layout id stage attempt).run
      (layout.rangeDir store id stage attempt) :=
  (looks_firstHeld _ h).map _

/-- The length of a file is found by looking at the file. -/
theorem looks_fileLength {path : Path} (h : allowed path) :
    Looks store allowed (fileLength path).run (FileChunk.fileLength store path) := by
  refine .see h ?_
  rw [FileChunk.fileLength, FileStore.length]
  rcases store.stat path with fault | _ | content <;> rfl

/-- An index is read from its own file. -/
theorem looks_openIndex {path : Path} (h : allowed path) :
    Looks store allowed (openIndex path).run (FileChunk.openIndex store path) := by
  refine .see h ?_
  rw [FileChunk.openIndex, FileStore.read]
  rcases store.stat path with fault | _ | content <;> rfl

/-- A slice of a range output takes a look at its index and at its data file. -/
theorem looks_rangeChunk {dir : Path} (hdata : allowed (dir.join Layout.dataFile))
    (hindex : allowed (dir.join Layout.indexFile)) (start stop : Bytes) (final : Bool) :
    Looks store allowed (rangeChunk dir start stop final).run
      (FileChunk.rangeChunk store dir start stop final) :=
  (looks_fileLength hdata).andThen fun _ _ => (looks_openIndex hindex).andThen fun _ _ => .done _

end Inquiry

/-- A file of an attempt may be looked for by its whole path, or in the directory of the attempt. -/
theorem Layout.join_taskDir_join {id : AppIdentity} (hid : id.IsPlain) {stage : UInt32}
    {attempt : TaskAttempt} (d : Path) {name : String} (hname : Path.IsName name) :
    d.join ((taskDir id stage attempt).join ⟨name⟩)
      = (d.join (taskDir id stage attempt)).join ⟨name⟩ :=
  (Path.join_join d (isAbsolute_taskDir hid) (endsInName_taskDir id stage attempt)
    hname.isAbsolute).symm

namespace FileChunk

variable {layout : Layout} {store : FileStore} {id : AppIdentity} {request : FetchRequest}
  {attempt : TaskAttempt} {p : Path} {allowed : Path → Prop}

/-! ## §3 The paths of an attempt -/

/-- The names of the files in which the output of an attempt is looked for. -/
def fileNames (request : FetchRequest) : List String :=
  match request.kind with
  | .hash => [Decimal.numeral request.partition.toNat]
  | .range .. => ["output", "index"]

/-- The paths at which the service looks for the output of an attempt. -/
def searched (layout : Layout) (id : AppIdentity) (request : FetchRequest)
    (attempt : TaskAttempt) : List Path :=
  layout.localDirs.flatMap fun d => (fileNames request).map fun name =>
    (d.join (Layout.taskDir id request.stage attempt)).join ⟨name⟩

/-- The files of a request have plain names. -/
theorem isName_fileNames (request : FetchRequest) :
    ∀ name ∈ fileNames request, Path.IsName name := by
  unfold fileNames
  split
  · simp [Decimal.isName_numeral]
  · simp [Layout.isName_output, Layout.isName_index]

/-- A file of a request, below a local directory, is one of those that are searched. -/
theorem mem_searched {d : Path} {name : String} (hd : d ∈ layout.localDirs)
    (hname : name ∈ fileNames request) :
    (d.join (Layout.taskDir id request.stage attempt)).join ⟨name⟩
      ∈ searched layout id request attempt :=
  List.mem_flatMap.mpr ⟨d, hd, List.mem_map_of_mem hname⟩

/-- The data of an attempt is at one of its paths. -/
theorem mem_searched_of_dataPath (hid : id.IsPlain)
    (h : layout.dataPath store id request attempt = .ok p) :
    p ∈ searched layout id request attempt := by
  unfold Layout.dataPath at h
  split at h
  next hkind =>
    obtain ⟨d, hd, hp, -⟩ := Layout.find_eq_ok h
    have hname : Decimal.numeral request.partition.toNat ∈ fileNames request := by
      simp [fileNames, hkind]
    rw [hp, Layout.join_taskDir_join hid d (isName_fileNames request _ hname)]
    exact mem_searched hd hname
  -- The data file is in the directory that it was found by.
  next start stop final hkind =>
    obtain ⟨dir, hdir, hp⟩ := map_eq_ok.mp h
    obtain ⟨d, hd, hd', -⟩ := Layout.rangeDir_eq_ok hdir
    rw [← hp, hd']
    exact mem_searched hd (by simp [fileNames, hkind])

/-- No other path is named for an attempt. -/
theorem looks_ofAttempt (hid : id.IsPlain)
    (h : ∀ p ∈ searched layout id request attempt, allowed p) :
    Inquiry.Looks store allowed (Inquiry.ofAttempt layout id request attempt).run
      (ofAttempt layout store id request attempt) := by
  -- Joined in either order, the parts of the path are the same path.
  have hfile {d : Path} {name : String} (hd : d ∈ layout.localDirs)
      (hname : name ∈ fileNames request) :
      allowed (d.join ((Layout.taskDir id request.stage attempt).join ⟨name⟩)) := by
    rw [Layout.join_taskDir_join hid d (isName_fileNames request name hname)]
    exact h _ (mem_searched hd hname)
  rw [Inquiry.ofAttempt, ofAttempt]
  cases hkind : request.kind with
  | hash =>
    have hname : Decimal.numeral request.partition.toNat ∈ fileNames request := by
      simp [fileNames, hkind]
    refine (Inquiry.looks_hashFile fun d hd => hfile hd hname).andThen fun p hp => ?_
    have hpath : layout.dataPath store id request attempt = .ok p := by
      rw [Layout.dataPath, hkind]
      exact hp
    exact (Inquiry.looks_fileLength (h p (mem_searched_of_dataPath hid hpath))).map _
  | range start stop final =>
    have hdata : "output" ∈ fileNames request := by simp [fileNames, hkind]
    have hindex : "index" ∈ fileNames request := by simp [fileNames, hkind]
    refine (Inquiry.looks_rangeDir fun d hd => hfile hd hdata).andThen fun dir hdir => ?_
    obtain ⟨d, hd, rfl, -⟩ := Layout.rangeDir_eq_ok hdir
    exact Inquiry.looks_rangeChunk (h _ (mem_searched hd hdata)) (h _ (mem_searched hd hindex))
      start stop final

end FileChunk

/-! ## §4 Answering -/

namespace Inquiry

variable {store : FileStore} {allowed : Path → Prop}

/-- The slices that a query asks for. -/
def resolve (s : PullService) (query : String) : ExceptT PullFault Inquiry (List FileChunk) := do
  let request ← .mk (.done ((FetchRequest.ofQuery query).mapError (PullFault.query query)))
  match s.registry.active with
  | none => .mk (.done (.error .noApplication))
  | some id => return (← request.attempts.mapM (ofAttempt s.layout id request)).filterMap fun c => c

/-- The answer to a query. -/
def fetch (s : PullService) (query : String) : Inquiry (Response × PullService) :=
  (resolve s query).run.map s.answer

/-- The answer to a request. -/
def handle (s : PullService) (method : Method) (target : RequestTarget) :
    Inquiry (Response × PullService) :=
  if target.path ≠ "/" then .done (.empty 404, s)
  else
    match method with
    | .other => .done (.wrongMethod, s)
    | .get => fetch s (target.query.getD "")
    | .head => (fetch s (target.query.getD "")).map fun (response, s) => (response.withoutBody, s)

/-- The octets of a slice, from what stands at its path. -/
def sliceOf (found : Except FileFault Node) (offset length : Nat) : Except FileFault Bytes := do
  let node ← found
  if FileStore.largestOffset < offset then .error .invalidArgument
  else if length = 0 then return []
  else
    match node with
    | .directory => .error .isDirectory
    | .file content => return (content.drop offset).take length

/-- What comes out of slices, one after the other. -/
def events (bufferSize : Nat) : List FileChunk → Inquiry (List Transfer.Event)
  | [] => .done []
  | chunk :: rest => .look chunk.path fun found =>
    let here :=
      match sliceOf found chunk.offset.toNat chunk.length.toNat with
      | .ok bytes => (Transfer.blocks bufferSize bytes).map .block
      | .error fault => [.failed fault]
    (events bufferSize rest).map (here ++ ·)

/-- The body of an answer, and the fault that it ends in. -/
def deliver (s : PullService) : ResponseBody → Inquiry (Bytes × Option TransferFault)
  | .text content => .done (Bytes.ofText content, none)
  | .chunks chunks => (events s.bufferSize chunks).map fun events =>
    let d := Transfer.follow (FileChunk.total chunks) 0 none events
    (d.body, d.fault)

/-- Sending looks at the file of each slice. -/
theorem looks_events {bufferSize : Nat} {chunks : List FileChunk}
    (h : ∀ c ∈ chunks, allowed c.path) : Looks store allowed (events bufferSize chunks)
      (chunks.flatMap (Transfer.events store bufferSize)) := by
  induction chunks with
  | nil => exact .done []
  | cons chunk rest ih =>
    obtain ⟨hchunk, hrest⟩ := List.forall_mem_cons.mp h
    exact .look hchunk ((ih hrest).map _)

end Inquiry

namespace PullService

variable {s : PullService} {store : FileStore} {query : String} {id : AppIdentity}
  {request : FetchRequest} {chunks : List FileChunk}

/-- A request whose answer is read to its end, as a program that looks at files. -/
def inquiry (s : PullService) (method : Method) (target : RequestTarget) : Inquiry Exchange := do
  let answer ← Inquiry.handle s method target
  let delivery ← Inquiry.deliver answer.2 answer.1.body
  return ⟨answer.1, delivery.1, delivery.2⟩

/-- The paths that the service may open for a query: those of the attempts of its request. -/
def opened (s : PullService) (query : String) : List Path :=
  match FetchRequest.ofQuery query, s.registry.active with
  | .ok request, some id => request.attempts.flatMap (FileChunk.searched s.layout id request)
  | _, _ => []

/-- The footprint of a query that is served is that of all its attempts. -/
theorem opened_eq (hparsed : FetchRequest.ofQuery query = .ok request)
    (hactive : s.registry.active = some id) :
    s.opened query = request.attempts.flatMap (FileChunk.searched s.layout id request) := by
  rw [opened, hparsed, hactive]

/-- The slices of an answer are taken from them. -/
theorem mem_opened_of_resolve (hid : ∀ id, s.registry.active = some id → id.IsPlain)
    (h : s.resolve store query = .ok chunks) : ∀ c ∈ chunks, c.path ∈ s.opened query := by
  obtain ⟨id, request, slices, hfinds, rfl⟩ := resolve_eq_ok.mp h
  intro c hc
  obtain ⟨attempt, hattempt, hslice⟩ := hfinds.exists_attempt hc
  have hdata := (FileChunk.inside_of_ofAttempt hslice).1
  rw [opened_eq hfinds.parsed hfinds.active]
  exact List.mem_flatMap.mpr ⟨attempt, hattempt,
    FileChunk.mem_searched_of_dataPath (hid id hfinds.active) hdata⟩

/-- Finding the slices looks at no other files. -/
theorem looks_resolve (hid : ∀ id, s.registry.active = some id → id.IsPlain) :
    Inquiry.Looks store (· ∈ s.opened query) (Inquiry.resolve s query).run
      (s.resolve store query) := by
  refine .andThen (.done _) fun request hparsed => ?_
  rw [mapError_eq_ok] at hparsed
  cases hactive : s.registry.active with
  | none => exact .done _
  | some id =>
    refine .andThen (.mapM fun attempt hattempt => ?_) fun slices _ => .done _
    refine FileChunk.looks_ofAttempt (hid id hactive) fun p hp => ?_
    rw [opened_eq hparsed hactive]
    exact List.mem_flatMap.mpr ⟨attempt, hattempt, hp⟩

/-- Answering looks at no other files, whatever the method and the path of the request. -/
theorem looks_handle (hid : ∀ id, s.registry.active = some id → id.IsPlain) (method : Method)
    (target : RequestTarget) :
    Inquiry.Looks store (· ∈ s.opened (target.query.getD "")) (Inquiry.handle s method target)
      (s.handle store method target) := by
  unfold Inquiry.handle handle
  split_ifs
  · exact .done _
  · cases method with
    | other => exact .done _
    | get => exact (looks_resolve hid).map _
    | head => exact ((looks_resolve hid).map _).map _

/-- An answer has only slices that were found for its query. -/
theorem resolve_of_body {method : Method} {target : RequestTarget}
    (h : (s.handle store method target).1.body = .chunks chunks) :
    s.resolve store (target.query.getD "") = .ok chunks := by
  -- Only an answer to `GET` has slices in its body, and these were resolved.
  have hfetch (h : (s.fetch store (target.query.getD "")).1.body = .chunks chunks) :
      s.resolve store (target.query.getD "") = .ok chunks := by
    unfold fetch answer at h
    split at h
    · cases h
    next found hfound =>
      split_ifs at h
      · cases h
      · rw [hfound, ResponseBody.chunks.inj h]
  unfold handle at h
  split_ifs at h
  · cases h
  · cases method with
    | other => cases h
    | get => exact hfetch h
    | head => cases h

/-- Delivering a body looks at no other files, when its slices are of these. -/
theorem looks_deliver {body : ResponseBody} {allowed : Path → Prop}
    (h : ∀ chunks, body = .chunks chunks → ∀ c ∈ chunks, allowed c.path) (s : PullService) :
    Inquiry.Looks store allowed (Inquiry.deliver s body)
      ((s.deliver store body).1, (s.deliver store body).2.1) := by
  cases body with
  | text content => exact .done _
  | chunks chunks => exact (Inquiry.looks_events (h chunks rfl)).map _

/-- **The service is this program, and names no path but those of the attempts of its query.** -/
theorem looks_inquiry (hid : ∀ id, s.registry.active = some id → id.IsPlain) (method : Method)
    (target : RequestTarget) :
    Inquiry.Looks store (· ∈ s.opened (target.query.getD "")) (s.inquiry method target)
      (s.exchange store method target) := by
  have hbody : ∀ chunks, (s.handle store method target).1.body = .chunks chunks →
      ∀ c ∈ chunks, c.path ∈ s.opened (target.query.getD "") :=
    fun chunks h => mem_opened_of_resolve hid (resolve_of_body h)
  exact (looks_handle hid method target).bind ((looks_deliver hbody _).bind (.done _))

end PullService

end Shuffle
