import Mathlib
import Shuffle.Proofs.Pull.Accounting

/-!
# Transfers report what was delivered

Whoever starts a transfer is told once how it went: when the last announced octet has been read, or
when the transfer fails. The report is right whatever has become of the files since the slices were
found, and it does not depend on the size of the buffer, as little as what is delivered does.

- `Transfer.reports` are the reports of a transfer while it is read.
- `Transfer.Reported`: all octets arrived and their number is reported, or a fault ends the body and
  is reported.
- `Transfer.run_reported`: a transfer is reported, in one way for all buffers.
-/

namespace Shuffle

open Fallible

/-! ## §1 Reports -/

namespace Transfer

/-- The reports that are made while events are followed. One is made at the block with which the
announced octets are complete, at a fault and at the end, but only as long as one is `due`. -/
def reports (expected : UInt64) : (sent : UInt64) → (due : Bool) → List Event →
    List (Except TransferFault UInt64)
  | sent, due, .block bytes :: rest =>
    let sent := sent + UInt64.ofNat bytes.length
    if due && expected ≤ sent then .ok sent :: reports expected sent false rest
    else reports expected sent due rest
  | _, due, .failed fault :: _ => if due then [.error (.file fault)] else []
  | sent, due, [] => if due then [.error (.ended sent expected)] else []

/-- Nothing is reported after a report. -/
theorem reports_not_due (expected sent : UInt64) (es : List Event) :
    reports expected sent false es = [] := by
  induction es generalizing sent with
  | nil => rfl
  | cons event rest ih =>
    cases event with
    | failed fault => rfl
    | block b => exact ih _

/-- An outcome that is decided stays. -/
theorem outcome_follow_some (expected sent n : UInt64) (es : List Event) :
    (follow expected sent (some n) es).outcome = .ok n := by
  induction es generalizing sent with
  | nil => rfl
  | cons event rest ih =>
    cases event with
    | failed fault => rfl
    | block b => exact ih _

/-- One report is made, and it is the outcome of the delivery. -/
theorem reports_eq_outcome (expected sent : UInt64) (es : List Event) :
    reports expected sent true es = [(follow expected sent none es).outcome] := by
  induction es generalizing sent with
  | nil => rfl
  | cons event rest ih =>
    cases event with
    | failed fault => rfl
    | block b =>
      by_cases hdone : expected ≤ sent + UInt64.ofNat b.length
      · simp [reports, follow, hdone, reports_not_due, outcome_follow_some]
      · simp [reports, follow, hdone, ih]

end Transfer

/-! ## §2 Slices that files still hold -/

/-- The file of a slice holds all octets of the slice. -/
def FileChunk.Held (store : FileStore) (c : FileChunk) : Prop :=
  ∃ content, store.stat c.path = .ok (.file content) ∧
    c.offset.toNat + c.length.toNat ≤ content.length

/-- A slice that is held can be sent, unless its offset cannot be sought to. -/
theorem FileChunk.exists_present_iff {store : FileStore} {c : FileChunk}
    (hpos : 0 < c.length.toNat) : (∃ content, c.Present store content) ↔
      c.Held store ∧ c.offset.toNat ≤ FileStore.largestOffset := by
  constructor
  · rintro ⟨content, h⟩
    exact ⟨⟨content, h.file, h.within⟩, h.seekable⟩
  · rintro ⟨⟨content, hfile, hwithin⟩, hseek⟩
    exact ⟨content, hfile, hwithin, hpos, hseek⟩

namespace Transfer

variable {store : FileStore} {bufferSize : Nat} {c : FileChunk} {chunks : List FileChunk}

/-- A slice that comes out whole is in its file. -/
theorem present_of_octets (hpos : 0 < c.length.toNat)
    (h : octets (events store bufferSize c) = c.length.toNat) :
    ∃ content, c.Present store content := by
  unfold events at h
  cases hslice : store.slice c.path c.offset.toNat c.length.toNat with
  | error fault =>
    rw [hslice] at h
    exact absurd h (Nat.ne_of_lt hpos)
  | ok bytes =>
    rw [hslice] at h
    dsimp only at h
    rw [octets_blocks, flatten_blocks] at h
    -- Octets were read, so the path leads to a file, and its offset was sought to.
    obtain ⟨node, hnode, hread⟩ := bind_eq_ok.mp hslice
    split_ifs at hread with hfar hzero
    · omega
    · cases node with
      | directory => cases hread
      | file content =>
        obtain rfl := Except.ok.inj hread
        rw [List.length_take, List.length_drop] at h
        exact ⟨content, hnode, by omega, hpos, Nat.not_lt.mp hfar⟩

/-- If as many octets come as slices have, each slice is in its file. -/
theorem present_of_octets_flatMap (hpos : ∀ c ∈ chunks, 0 < c.length.toNat)
    (h : FileChunk.size chunks ≤ octets (chunks.flatMap (events store bufferSize))) :
    ∀ c ∈ chunks, ∃ content, c.Present store content := by
  induction chunks with
  | nil => simp
  | cons c rest ih =>
    obtain ⟨hc, hrest⟩ := List.forall_mem_cons.mp hpos
    rw [List.flatMap_cons, octets_append] at h
    have hsize : FileChunk.size (c :: rest) = c.length.toNat + FileChunk.size rest := by
      simp [FileChunk.size]
    -- Neither the first slice nor the others bring more than their share.
    have hfirst := (suited_events store bufferSize hc).room
    have hothers := (suited_flatMap_events store bufferSize hrest).room
    have hone : octets (events store bufferSize c) = c.length.toNat := by omega
    exact List.forall_mem_cons.mpr ⟨present_of_octets hc hone, ih hrest (by omega)⟩

/-! ## §3 What is delivered and reported -/

/-- A transfer went as it was reported. If each file still holds its slice, all octets arrived and
their number is reported; if not, the same fault ends the body and is reported. -/
structure Reported (store : FileStore) (chunks : List FileChunk) (d : Delivery)
    (told : List (Except TransferFault UInt64)) : Prop where
  once : told = [d.outcome]
  whole_iff : (d.outcome = .ok (FileChunk.total chunks) ∧ d.fault = none) ↔
    ∀ c ∈ chunks, c.Held store ∧ c.offset.toNat ≤ FileStore.largestOffset
  body_eq : d.fault = none → d.body = chunks.flatMap (FileChunk.octetsIn store) ∧
    d.body.length = (FileChunk.total chunks).toNat
  cut : (¬ ∀ c ∈ chunks, c.Held store ∧ c.offset.toNat ≤ FileStore.largestOffset) →
    ∃ fault, d.fault = some fault ∧ d.outcome = .error fault ∧
      d.body.length < (FileChunk.total chunks).toNat

/-- A transfer without a fault came from files that still hold their slices. -/
private theorem present_of_run (hne : chunks ≠ []) (hpos : ∀ c ∈ chunks, 0 < c.length.toNat)
    (hsize : FileChunk.size chunks < UInt64.size) (h : (run store bufferSize chunks).fault = none) :
    ∀ c ∈ chunks, ∃ content, c.Present store content := by
  cases run_settles store bufferSize hpos hne hsize with
  | cut fault hfault houtcome hlength => rw [hfault] at h; cases h
  | whole hfault houtcome hlength =>
    -- As many octets arrived as the slices have, so as many came out of the files.
    rw [run_eq_closing store bufferSize hpos hne hsize, body_closing] at hlength
    exact present_of_octets_flatMap hpos (hlength ▸ length_joined_le _)

/-- **A transfer is reported once, and as it went.** The slices were found before, and their files
may have been removed, shortened, extended or replaced since. What arrives and what is reported is
the same for all sizes of the buffer. -/
theorem run_reported (store : FileStore) {chunks : List FileChunk} (hne : chunks ≠ [])
    (hpos : ∀ c ∈ chunks, 0 < c.length.toNat) (hsize : FileChunk.size chunks < UInt64.size)
    (bufferSize : Nat) :
    Reported store chunks (run store bufferSize chunks)
        (reports (FileChunk.total chunks) 0 true (chunks.flatMap (events store bufferSize))) ∧
      ∀ bufferSize', run store bufferSize' chunks = run store bufferSize chunks := by
  -- A slice can be read when its file holds it and the place can be sought.
  have hheld : (∀ c ∈ chunks, ∃ content, c.Present store content) ↔
      ∀ c ∈ chunks, c.Held store ∧ c.offset.toNat ≤ FileStore.largestOffset :=
    forall₂_congr fun c hc => FileChunk.exists_present_iff (hpos c hc)
  refine ⟨⟨reports_eq_outcome _ _ _, ?whole, ?body, ?cut⟩, ?buffers⟩
  case whole =>
    rw [← hheld]
    constructor
    · rintro ⟨-, hfault⟩
      exact present_of_run hne hpos hsize hfault
    · intro hpresent
      rw [run_present bufferSize hpresent hne hsize]
      exact ⟨rfl, rfl⟩
  case body =>
    intro hfault
    have hpresent := present_of_run hne hpos hsize hfault
    rw [run_present bufferSize hpresent hne hsize]
    exact ⟨rfl, by rw [FileChunk.length_flatMap_octetsIn hpresent,
      FileChunk.toNat_total_of_lt hsize]⟩
  case cut =>
    intro hlost
    cases run_settles store bufferSize hpos hne hsize with
    | whole hfault houtcome hlength =>
      exact absurd (hheld.mp (present_of_run hne hpos hsize hfault)) hlost
    | cut fault hfault houtcome hlength =>
      exact ⟨fault, hfault, houtcome, by rw [FileChunk.toNat_total_of_lt hsize]; exact hlength⟩
  case buffers =>
    intro bufferSize'
    rw [run_eq_closing store bufferSize' hpos hne hsize,
      run_eq_closing store bufferSize hpos hne hsize,
      joined_events_congr store bufferSize' bufferSize]

/-- Two files, of which the first one had three octets. -/
def shortenedStore : FileStore :=
  ⟨[(⟨false, 0, ["a"]⟩, .file [1, 2]), (⟨false, 0, ["b"]⟩, .file [3, 4, 5])]⟩

/-- The slices as they were before the first file lost an octet. -/
def shortenedSlices : List FileChunk := [⟨⟨"a"⟩, 0, 3⟩, ⟨⟨"b"⟩, 1, 2⟩]

/-- A lacking octet is noticed, with either buffer, although the second file follows. -/
theorem run_reported_shortened :
    ∃ fault, (run shortenedStore 2 shortenedSlices).fault = some fault ∧
      reports 5 0 true (shortenedSlices.flatMap (events shortenedStore 2)) = [.error fault] ∧
      run shortenedStore 1 shortenedSlices = run shortenedStore 2 shortenedSlices := by
  have hpos : ∀ c ∈ shortenedSlices, 0 < c.length.toNat := by decide
  obtain ⟨hreported, hbuffers⟩ :=
    run_reported shortenedStore (List.cons_ne_nil _ _) hpos (by decide) 2
  -- The first file has become shorter than its slice.
  have hlost : ¬ ∀ c ∈ shortenedSlices,
      c.Held shortenedStore ∧ c.offset.toNat ≤ FileStore.largestOffset := by
    intro h
    obtain ⟨⟨content, hfile, hwithin⟩, -⟩ := h ⟨⟨"a"⟩, 0, 3⟩ List.mem_cons_self
    have hcontent : shortenedStore.stat ⟨"a"⟩ = .ok (.file [1, 2]) := rfl
    cases hfile.symm.trans hcontent
    exact absurd hwithin (by decide)
  obtain ⟨fault, hfault, houtcome, -⟩ := hreported.cut hlost
  exact ⟨fault, hfault, houtcome ▸ hreported.once, hbuffers 1⟩

end Transfer

end Shuffle
