import Mathlib
import Shuffle.Proofs.Pull.Exchange
import Shuffle.Proofs.Pull.Places
import Shuffle.Proofs.Pull.Sending

/-!
# A fetch is answered completely or not at all

Every slice that an attempt resolves to lies in the data file of the attempt, and different
attempts have different files. So the slices of a request are no longer than the store, their
lengths can be added up in 64 bits, and the transfer finds all octets that were announced.

- `FileChunk.present_of_ofAttempt`: a slice is there when it is found.
- `FileChunk.size_le_octets`: the slices of a request are no longer than all files together.
- `PullService.exchange_complete` is the answer to any fetch.
-/

namespace Shuffle

open Fallible

/-- A store whose files can be addressed: their lengths fit in 64 bits together, and each can be
sought through to its end. Offsets of files are signed, so no system makes a longer one. -/
structure FileStore.Addressable (store : FileStore) : Prop where
  total : store.octets < UInt64.size
  seekable : ∀ l content, store.node? l = some (.file content) →
    content.length ≤ FileStore.largestOffset

namespace FileChunk

variable {layout : Layout} {store : FileStore} {id : AppIdentity} {request : FetchRequest}
  {attempt : TaskAttempt} {c : FileChunk}

/-! ## §1 Slices lie in their files -/

/-- A slice lies in the file that it was taken from, as long as that is when it is looked at. -/
structure Inside (store : FileStore) (c : FileChunk) : Prop where
  within : ∃ length, fileLength store c.path = .ok length ∧
    c.offset.toNat + c.length.toNat ≤ length.toNat
  positive : 0 < c.length.toNat

private theorem toNat_pos {n : UInt64} (h : n ≠ 0) : 0 < n.toNat :=
  Nat.pos_iff_ne_zero.mpr fun hzero => h (UInt64.toNat_inj.mp hzero)

/-- A whole file is a slice of itself. -/
theorem inside_of_wholeFile {path : Path} (h : wholeFile store path = .ok (some c)) :
    c.path = path ∧ c.Inside store := by
  obtain ⟨length, hlength, hmake⟩ := map_eq_ok.mp h
  obtain ⟨hne, rfl⟩ := make?_eq_some.mp hmake
  exact ⟨rfl, ⟨length, hlength, by simp⟩, toNat_pos hne⟩

/-- Where a slice ends that an index gives, in a file with `length` octets. -/
def stopIn (index : Index) (length : UInt64) (last : Tuple) (final : Bool) : UInt64 :=
  if final then length else (index.lookup? last).getD length

/-- A slice that an index gives: it is between the offsets that the index has for two keys, and
these are in order and within the file. -/
structure Cut (index : Index) (length : UInt64) (first last : Tuple) (final : Bool)
    (c : FileChunk) : Prop where
  found : index.lookup? first = some c.offset
  lt_stop : c.offset < stopIn index length last final
  stop_le : stopIn index length last final ≤ length
  length_eq : c.length = stopIn index length last final - c.offset

/-- The difference of the offsets does not wrap around. -/
theorem Cut.toNat_length {index : Index} {length : UInt64} {first last : Tuple} {final : Bool}
    (h : c.Cut index length first last final) :
    c.offset.toNat < c.offset.toNat + c.length.toNat ∧
      c.offset.toNat + c.length.toNat ≤ length.toNat := by
  have hlt := UInt64.lt_iff_toNat_lt.mp h.lt_stop
  have hle := UInt64.le_iff_toNat_le.mp h.stop_le
  rw [h.length_eq, UInt64.toNat_sub_of_le _ _ (UInt64.le_of_lt h.lt_stop)]
  omega

section SliceBetween

variable {index : Index} {data : Path} {length : UInt64} {first last : Tuple} {final : Bool}

/-- The offsets of an index are checked against the file. -/
theorem cut_of_sliceBetween (h : sliceBetween index data length first last final = .ok (some c)) :
    c.path = data ∧ c.Cut index length first last final := by
  unfold sliceBetween at h
  split at h
  · cases h
  next start hstart =>
    rw [← stopIn] at h
    dsimp only at h
    split at h
    · cases h
    next hchecked =>
      obtain ⟨hne, rfl⟩ := make?_eq_some.mp (Except.ok.inj h)
      simp only [not_or, UInt64.not_lt] at hchecked
      obtain ⟨-, hstop, horder⟩ := hchecked
      refine ⟨rfl, hstart, ?_, hstop, rfl⟩
      -- Offsets that are equal have no slice between them.
      refine UInt64.lt_of_le_of_ne horder fun heq => hne ?_
      rw [← heq, UInt64.sub_self]

/-- If they do not pass, the index is at fault. -/
theorem kind_of_sliceBetween {fault : PullFault}
    (h : sliceBetween index data length first last final = .error fault) : fault.kind = .index := by
  unfold sliceBetween at h
  split at h
  · cases h
    rfl
  · rw [← stopIn] at h
    dsimp only at h
    split at h
    · cases h
      rfl
    · cases h

/-- A slice between two keys ends within the data, whatever the index says. -/
theorem inside_of_sliceBetween (hlength : fileLength store data = .ok length)
    (h : sliceBetween index data length first last final = .ok (some c)) :
    c.path = data ∧ c.Inside store := by
  obtain ⟨rfl, hcut⟩ := cut_of_sliceBetween h
  obtain ⟨hlt, hle⟩ := hcut.toNat_length
  exact ⟨rfl, ⟨length, hlength, hle⟩, by omega⟩

end SliceBetween

/-- A slice of a range output lies within its data file. -/
theorem inside_of_rangeChunk {dir : Path} {start stop : Bytes} {final : Bool}
    (h : rangeChunk store dir start stop final = .ok (some c)) :
    c.path = dir.join Layout.dataFile ∧ c.Inside store := by
  obtain ⟨length, hlength, h⟩ := bind_eq_ok.mp h
  obtain ⟨index, -, h⟩ := bind_eq_ok.mp h
  obtain ⟨⟨first, last⟩, -, h⟩ := bind_eq_ok.mp h
  dsimp only at h
  split at h
  · -- Out of order there is a fault, and out of scope no slice.
    split at h
    · cases h
    · split at h
      · cases h
      · exact inside_of_sliceBetween hlength h
  · cases h

/-- The slice of an attempt lies in the data of the attempt. -/
theorem inside_of_ofAttempt (h : ofAttempt layout store id request attempt = .ok (some c)) :
    layout.dataPath store id request attempt = .ok c.path ∧ c.Inside store := by
  unfold ofAttempt at h
  split at h
  next hkind =>
    obtain ⟨path, hpath, h⟩ := bind_eq_ok.mp h
    obtain ⟨rfl, hinside⟩ := inside_of_wholeFile h
    refine ⟨?_, hinside⟩
    rw [Layout.dataPath, hkind]
    exact hpath
  -- The same steps find the directory, and the slice is one of its data file.
  next start stop final hkind =>
    obtain ⟨dir, hdir, h⟩ := bind_eq_ok.mp h
    obtain ⟨hpath, hinside⟩ := inside_of_rangeChunk h
    refine ⟨?_, hinside⟩
    rw [Layout.dataPath, hkind]
    exact map_eq_ok.mpr ⟨dir, hdir, hpath.symm⟩

/-- A slice within a file is there to be read. -/
theorem Inside.present (h : c.Inside store) (hstore : store.Addressable)
    (hfile : store.stat c.path ≠ .ok .directory) : ∃ content, c.Present store content := by
  obtain ⟨length, hlength, hwithin⟩ := h.within
  unfold fileLength FileStore.length at hlength
  cases hstat : store.stat c.path with
  | error fault => simp [hstat, Except.map] at hlength
  | ok node =>
    cases node with
    | directory => exact absurd hstat hfile
    | file content =>
      obtain ⟨l, -, hnode⟩ := FileStore.stat_eq_ok.mp hstat
      -- A file that can be sought through is shorter than 64 bits count.
      have hseek := hstore.seekable l content hnode
      have heq : length = UInt64.ofNat content.length := by
        simpa [hstat, Except.map, eq_comm] using hlength
      have hshort : content.length < UInt64.size := by
        apply Nat.lt_of_le_of_lt hseek
        decide
      rw [heq, UInt64.toNat_ofNat_of_lt' hshort] at hwithin
      exact ⟨content, hstat, hwithin, h.positive, by omega⟩

/-! ## §2 Slices of different attempts -/

/-- The slice that an attempt resolves to, if it does and if there is one. -/
def ofAttempt? (layout : Layout) (store : FileStore) (id : AppIdentity) (request : FetchRequest)
    (attempt : TaskAttempt) : Option FileChunk :=
  (ofAttempt layout store id request attempt).toOption.join

/-- A slice that an attempt has was found without a fault. -/
theorem ofAttempt_of_mem (h : c ∈ ofAttempt? layout store id request attempt) :
    ofAttempt layout store id request attempt = .ok (some c) := by
  unfold ofAttempt? at h
  cases hattempt : ofAttempt layout store id request attempt with
  | error fault => simp [hattempt, Except.toOption] at h
  | ok slice => simpa [hattempt, Except.toOption] using h

/-- The slices that are served are those that the attempts have. -/
theorem reduceOption_of_found {attempts : List TaskAttempt} {slices : List (Option FileChunk)}
    (h : List.Forall₂ (fun a slice => ofAttempt layout store id request a = .ok slice)
      attempts slices) :
    slices.reduceOption = attempts.filterMap (ofAttempt? layout store id request) := by
  induction h with
  | nil => rfl
  | cons hfound hrest ih =>
    rename_i a slice attempts slices
    have hslice : ofAttempt? layout store id request a = slice := by
      simp [ofAttempt?, hfound, Except.toOption]
    cases slice with
    | none => rw [List.reduceOption_cons_of_none, List.filterMap_cons_none hslice, ih]
    | some c => rw [List.reduceOption_cons_of_some, List.filterMap_cons_some hslice, ih]

/-- Slices of different attempts lie in different files, and so they are no longer than all files
together. -/
theorem size_le_octets {attempts : List TaskAttempt} (hattempts : attempts.Nodup)
    (hpresent : ∀ c ∈ attempts.filterMap (ofAttempt? layout store id request),
      ∃ content, c.Present store content) :
    size (attempts.filterMap (ofAttempt? layout store id request)) ≤ store.octets := by
  -- The place of each slice that is there.
  set place : FileChunk → Location := fun c => (store.locate c.path).toOption.getD ⟨true, 0, []⟩
    with hplace
  have hlocate {c : FileChunk} (hc : c ∈ attempts.filterMap (ofAttempt? layout store id request)) :
      ∃ content, c.Present store content ∧ store.locate c.path = .ok (place c) ∧
        store.node? (place c) = some (.file content) := by
    obtain ⟨content, hpresent⟩ := hpresent c hc
    obtain ⟨l, hl, hnode⟩ := FileStore.stat_eq_ok.mp hpresent.file
    have hhere : place c = l := by simp [hplace, hl, Except.toOption]
    exact ⟨content, hpresent, by rw [hhere, hl], by rw [hhere, hnode]⟩
  have hplaces : ((attempts.filterMap (ofAttempt? layout store id request)).map place).Nodup := by
    rw [List.Nodup, List.pairwise_map, List.pairwise_filterMap]
    apply hattempts.imp_of_mem
    intro a b ha hb hne c hc c' hc' hsame
    obtain ⟨-, -, hl, -⟩ := hlocate (List.mem_filterMap.mpr ⟨a, ha, hc⟩)
    obtain ⟨-, -, hl', -⟩ := hlocate (List.mem_filterMap.mpr ⟨b, hb, hc'⟩)
    have hdata := (inside_of_ofAttempt (ofAttempt_of_mem hc)).1
    have hdata' := (inside_of_ofAttempt (ofAttempt_of_mem hc')).1
    exact hne (Layout.attempt_of_locate hdata hdata' hl (hsame ▸ hl'))
  apply FileStore.sum_le_octets hplaces
  intro c hc
  obtain ⟨content, hpresent, -, hnode⟩ := hlocate hc
  have hwithin := hpresent.within
  rw [FileStore.fileSize, hnode]
  show c.length.toNat ≤ content.length
  omega

end FileChunk

/-! ## §3 The answer -/

namespace PullService

/-- No attempt of a query has a directory where its data should be: that path is a file, or nothing
is there. -/
def FilesOnly (s : PullService) (store : FileStore) (query : String) : Prop :=
  ∀ id request, s.registry.active = some id → FetchRequest.ofQuery query = .ok request →
    ∀ attempt ∈ request.attempts, ∀ p, s.layout.dataPath store id request attempt = .ok p →
      store.stat p ≠ .ok .directory

/-- The answer to a fetch is complete, or it has no octets of output. -/
structure CompleteOrNone (s : PullService) (store : FileStore) (query : String) (e : Exchange) :
    Prop where
  /-- A fetch succeeds exactly if all attempts resolve and there are octets to send. -/
  succeeds : e.response.status = 200 ↔ ∃ id request slices,
    s.Finds store query id request slices ∧ 0 < FileChunk.size slices.reduceOption
  /-- Then the slices of all attempts arrive, in the order of the attempts, and as many octets as
  were announced. -/
  complete : ∀ id request slices, s.Finds store query id request slices →
    0 < FileChunk.size slices.reduceOption →
      request.attempts.Pairwise (fun a b => TaskAttempt.le a b = true ∧ a ≠ b) ∧
      (∀ c ∈ slices.reduceOption, ∃ content, c.Present store content) ∧
      e.received = slices.reduceOption.flatMap (FileChunk.octetsIn store) ∧
      e.response.contentLength = e.received.length ∧ e.fault = none
  empty : ∀ id request slices, s.Finds store query id request slices →
    FileChunk.size slices.reduceOption = 0 → e = ⟨.empty 204, [], none⟩
  /-- A fault is answered with its status and its words, and with no octets of output. -/
  refused : ∀ fault, s.Refuses store query fault →
    e = ⟨.plain fault.status fault.message, Bytes.ofText fault.message, none⟩
  unparsable : (∃ fault, FetchRequest.ofQuery query = .error fault) → e.response.status = 400
  idle : ∀ request, FetchRequest.ofQuery query = .ok request → s.registry.active = none →
    e.response.status = 404
  /-- There is no other way for a fetch to end. -/
  settled : (∃ id request slices, s.Finds store query id request slices) ∨
    ∃ fault, s.Refuses store query fault

variable {s : PullService} {store : FileStore} {query : String} {id : AppIdentity}
  {request : FetchRequest} {slices : List (Option FileChunk)}

/-- No fault is reported as a success. -/
private theorem status_ne_success (fault : PullFault) : fault.status ≠ 200 := by
  rw [PullFault.status]
  cases fault.kind <;> decide

/-- Slices that a query finds are there. -/
theorem Finds.present (h : s.Finds store query id request slices) (hstore : store.Addressable)
    (hfiles : s.FilesOnly store query) :
    ∀ c ∈ slices.reduceOption, ∃ content, c.Present store content := by
  intro c hc
  obtain ⟨attempt, hattempt, hslice⟩ := h.exists_attempt hc
  obtain ⟨hdata, hinside⟩ := FileChunk.inside_of_ofAttempt hslice
  exact hinside.present hstore (hfiles id request h.active h.parsed attempt hattempt _ hdata)

/-- The lengths of slices that a query finds can be added up in 64 bits. -/
theorem Finds.size_lt (h : s.Finds store query id request slices) (hstore : store.Addressable)
    (hfiles : s.FilesOnly store query) : FileChunk.size slices.reduceOption < UInt64.size := by
  have hpresent := h.present hstore hfiles
  have hnodup : request.attempts.Nodup := (pairwise_attempts h.parsed).imp And.right
  rw [FileChunk.reduceOption_of_found h.found] at hpresent ⊢
  exact Nat.lt_of_le_of_lt (FileChunk.size_le_octets hnodup hpresent) hstore.total

/-- A fetch from files that stay as they are is answered completely or not at all, whatever the
query, the indexes and the size of the buffer. -/
theorem fetch_completeOrNone (s : PullService) (store : FileStore) (query? : Option String)
    (hstore : store.Addressable) (hfiles : s.FilesOnly store (query?.getD "")) :
    s.CompleteOrNone store (query?.getD "") (s.exchange store .get ⟨"/", query?⟩) := by
  -- The total in 64 bits is the number of octets, so the one is zero exactly if the other is.
  have htotal {id request slices} (h : s.Finds store (query?.getD "") id request slices) :
      FileChunk.total slices.reduceOption = 0 ↔ FileChunk.size slices.reduceOption = 0 := by
    rw [← UInt64.toNat_inj, FileChunk.toNat_total_of_lt (h.size_lt hstore hfiles)]
    rfl
  have hsettled : (∃ id request slices, s.Finds store (query?.getD "") id request slices) ∨
      ∃ fault, s.Refuses store (query?.getD "") fault := by
    cases hresolve : s.resolve store (query?.getD "") with
    | error fault => exact Or.inr ⟨fault, resolve_eq_error.mp hresolve⟩
    | ok chunks =>
      obtain ⟨id, request, slices, hfinds, -⟩ := resolve_eq_ok.mp hresolve
      exact Or.inl ⟨id, request, slices, hfinds⟩
  refine ⟨⟨?_, ?_⟩, ?_, ?_, ?_, ?_, ?_, hsettled⟩
  · intro hstatus
    rcases hsettled with ⟨id, request, slices, hfinds⟩ | ⟨fault, hrefuses⟩
    · refine ⟨id, request, slices, hfinds, Nat.pos_of_ne_zero fun hzero => ?_⟩
      rw [exchange_empty hfinds ((htotal hfinds).mpr hzero)] at hstatus
      cases hstatus
    · rw [exchange_refused hrefuses] at hstatus
      exact absurd hstatus (status_ne_success fault)
  · rintro ⟨id, request, slices, hfinds, hpos⟩
    rw [exchange_slices hfinds fun hzero => hpos.ne' ((htotal hfinds).mp hzero)]
    rfl
  · -- What was announced is what the slices hold, and all of it arrives.
    intro id request slices hfinds hpos
    have hpresent := hfinds.present hstore hfiles
    have hsize := hfinds.size_lt hstore hfiles
    have hne : slices.reduceOption ≠ [] := by
      intro hnil
      rw [hnil] at hpos
      exact absurd hpos (Nat.lt_irrefl 0)
    rw [exchange_slices hfinds fun hzero => hpos.ne' ((htotal hfinds).mp hzero),
      Transfer.run_present s.bufferSize hpresent hne hsize]
    refine ⟨pairwise_attempts hfinds.parsed, hpresent, rfl, ?_, rfl⟩
    show (FileChunk.total slices.reduceOption).toNat = _
    rw [FileChunk.length_flatMap_octetsIn hpresent, FileChunk.toNat_total_of_lt hsize]
  · intro id request slices hfinds hzero
    exact exchange_empty hfinds ((htotal hfinds).mpr hzero)
  · intro fault hrefuses
    exact exchange_refused hrefuses
  · rintro ⟨fault, hparsed⟩
    rw [exchange_refused (.unparsable hparsed)]
    rfl
  · intro request hparsed hactive
    rw [exchange_refused (.idle hparsed hactive)]
    rfl

/-- Two attempts have written to two local directories. -/
def twoDisks : FileStore :=
  (((({} : FileStore).put ⟨"/a/usercache/u/appcache/x/output/1/0_0/output/5"⟩ [1, 2]).store).put
    ⟨"/b/usercache/u/appcache/x/output/1/1_3/output/5"⟩ [3]).store

/-- A service over both, with its application started. -/
def twoDiskService : PullService :=
  { layout := ⟨[⟨"/a"⟩, ⟨"/b"⟩]⟩, bufferSize := 1, registry := Registry.start {} ⟨"u", "x"⟩ }

/-- Both attempts are asked for in the wrong order, and one of them twice. -/
def twoDiskQuery : String := "sid=1&p=5&type=h&ta=1_3,0_0&ta=1_3"

/-- One attempt on each of two disks, answered as one body. -/
theorem fetch_completeOrNone_two_disks :
    ∃ e, twoDiskService.exchange twoDisks .get ⟨"/", some twoDiskQuery⟩ = e ∧
      e.response.status = 200 ∧ e.response.contentLength = e.received.length ∧
      e.received = [1, 2, 3] ∧ e.fault = none := by
  let request : FetchRequest := ⟨1, 5, .hash, [⟨0, 0⟩, ⟨1, 3⟩]⟩
  let first : FileChunk := ⟨⟨"/a/usercache/u/appcache/x/output/1/0_0/output/5"⟩, 0, 2⟩
  let second : FileChunk := ⟨⟨"/b/usercache/u/appcache/x/output/1/1_3/output/5"⟩, 0, 1⟩
  have hdisks :
      FileChunk.ofAttempt twoDiskService.layout twoDisks ⟨"u", "x"⟩ request ⟨0, 0⟩
        = .ok (some first) ∧
      FileChunk.ofAttempt twoDiskService.layout twoDisks ⟨"u", "x"⟩ request ⟨1, 3⟩
        = .ok (some second) ∧
      (∀ entry ∈ twoDisks.nodes, entry.2 ∈ [.directory, .file [1, 2], .file [3]]) ∧
      twoDisks.octets < UInt64.size ∧
      twoDisks.read first.path = .ok [1, 2] ∧ twoDisks.read second.path = .ok [3] := by
    decide +kernel
  obtain ⟨hfirst, hsecond, hnodes, htotal, hread, hread'⟩ := hdisks
  have hfinds : twoDiskService.Finds twoDisks twoDiskQuery ⟨"u", "x"⟩ request _ :=
    { parsed := by cbv
      active := rfl
      found := .cons hfirst (.cons hsecond .nil) }
  -- Both files are short, and so are all files together.
  have hstore : twoDisks.Addressable := by
    refine ⟨htotal, fun l content hfile => ?_⟩
    have hnode := hnodes _ (FileStore.mem_nodes_of_file hfile)
    simp only [List.mem_cons, Node.file.injEq, List.not_mem_nil, reduceCtorEq, or_false,
      false_or] at hnode
    rcases hnode with rfl | rfl <;> decide
  -- At the places of the attempts there are files, and no directories.
  have hfiles : twoDiskService.FilesOnly twoDisks twoDiskQuery := by
    intro id request' hactive hparsed attempt hattempt p hp
    obtain rfl := Option.some.inj (hfinds.active.symm.trans hactive)
    obtain rfl := Except.ok.inj (hfinds.parsed.symm.trans hparsed)
    rcases List.mem_pair.mp hattempt with rfl | rfl
    · rw [← Except.ok.inj ((FileChunk.inside_of_ofAttempt hfirst).1.symm.trans hp),
        FileStore.read_eq_ok.mp hread]
      simp
    · rw [← Except.ok.inj ((FileChunk.inside_of_ofAttempt hsecond).1.symm.trans hp),
        FileStore.read_eq_ok.mp hread']
      simp
  have hwhole := fetch_completeOrNone twoDiskService twoDisks (some twoDiskQuery) hstore hfiles
  obtain ⟨-, -, hreceived, hlength, hfault⟩ := hwhole.complete _ _ _ hfinds (by decide)
  refine ⟨_, rfl, hwhole.succeeds.mpr ⟨_, _, _, hfinds, by decide⟩, hlength, ?_, hfault⟩
  rw [hreceived]
  simp [FileChunk.octetsIn, hread, hread', FileChunk.octets, first, second]

end PullService

end Shuffle
