import Mathlib
import Shuffle.Proofs.Pull.Complete

/-!
# Counters account for every fetch

A service counts a fetch that has no body when it answers, and one with a body when the body has
been read. In between, files may change and other fetches may come, so that the octets that were
announced need not be there any more. Whatever happens, a fetch is counted once: as served if it was
answered without octets or if all announced octets arrived, and as failed otherwise.

- `Transfer.run_settles`: a transfer either sends what was announced, or ends in a fault and lacks
  octets.
- `Ledger` is a service with the answers that are still to be read and the fetches that are over.
- `Ledger.counters_account` compares counters with fetches after any run.
-/

namespace Shuffle

open Fallible

/-! ## §1 Transfers from files that may have changed -/

/-- A transfer that lacked some octets has sent them all, or has met a fault before. -/
inductive Delivery.Settles (expected : UInt64) (lacking : Nat) (d : Delivery) : Prop where
  | whole (fault : d.fault = none) (outcome : d.outcome = .ok expected)
    (length : d.body.length = lacking)
  | cut (fault : TransferFault) (ends : d.fault = some fault) (outcome : d.outcome = .error fault)
    (length : d.body.length < lacking)

namespace Transfer

/-- The transfer settles by the block with which nothing lacks any more, or by what ends it
before. -/
theorem follow_settles {expected sent : UInt64} {es : List Event} (hlacks : sent < expected)
    (h : Suited (expected.toNat - sent.toNat) es) :
    (follow expected sent none es).Settles expected (expected.toNat - sent.toNat) := by
  rw [follow_eq_closing hlacks h]
  have hlt := UInt64.lt_iff_toNat_lt.mp hlacks
  have hroom := (length_joined_le es).trans h.room
  have hbound := expected.toNat_lt
  cases hfault : (joined es).2 with
  -- A fault ends the body before its promised length.
  | some fault =>
    have hclosing : closing expected sent (joined es)
        = ⟨(joined es).1, some (.file fault), .error (.file fault)⟩ := by
      rw [← Prod.eta (joined es), hfault]
      rfl
    rw [hclosing]
    exact .cut _ rfl rfl ((length_joined_le es).trans_lt (h.short ⟨fault, mem_of_joined hfault⟩))
  -- Without a fault the body may still end early, when its file has become shorter.
  | none =>
    have hsent : (sent + UInt64.ofNat (joined es).1.length).toNat
        = sent.toNat + (joined es).1.length := by
      rw [UInt64.toNat_add, UInt64.toNat_ofNat']
      omega
    have hclosing : closing expected sent (joined es)
        = closing expected sent ((joined es).1, none) := by
      rw [← hfault]
    rw [hclosing, closing]
    split
    case isTrue hdone =>
      have hle := UInt64.le_iff_toNat_le.mp hdone
      exact .whole rfl rfl (by dsimp only; omega)
    case isFalse hmore =>
      have hless := UInt64.lt_iff_toNat_lt.mp (UInt64.not_le.mp hmore)
      exact .cut _ rfl rfl (by dsimp only; omega)

/-- A transfer either sends what was announced, or ends in a fault and lacks octets. It does not
matter what became of the files. -/
theorem run_settles (store : FileStore) (bufferSize : Nat) {chunks : List FileChunk}
    (hpos : ∀ c ∈ chunks, 0 < c.length.toNat) (hne : chunks ≠ [])
    (hsize : FileChunk.size chunks < UInt64.size) :
    (run store bufferSize chunks).Settles (FileChunk.total chunks) (FileChunk.size chunks) := by
  have htotal := FileChunk.toNat_total_of_lt hsize
  have hlacks := FileChunk.total_pos hpos hne hsize
  have hsuited := suited_flatMap_events store bufferSize hpos
  rw [← htotal] at hsuited ⊢
  exact follow_settles hlacks hsuited

end Transfer

/-! ## §2 Fetches that are over -/

namespace Exchange

/-- All octets that were announced have arrived. -/
def isWhole (e : Exchange) : Bool :=
  e.response.status == 200 && e.received.length == e.response.contentLength

/-- Is this a fetch that went well? -/
def isServed (e : Exchange) : Bool := e.response.status == 204 || e.isWhole

/-- The length of an answer has 64 bits. -/
def Fits (e : Exchange) : Prop :=
  match e.response.body with
  | .text _ => True
  | .chunks slices => FileChunk.size slices < UInt64.size

instance (e : Exchange) : Decidable e.Fits := by
  unfold Fits
  split <;> infer_instance

end Exchange

/-- An answer to a fetch. -/
inductive Response.Answers : Response → Prop where
  | empty : Answers (.empty 204)
  | refused (fault : PullFault) : Answers (.plain fault.status fault.message)
  | slices {chunks : List FileChunk} (nonempty : chunks ≠ [])
    (positive : ∀ c ∈ chunks, 0 < c.length.toNat) : Answers (.slices chunks)

/-- A service at work: its files, the answers whose bodies are still to be read, and the fetches
that are over. -/
structure Ledger where
  service : PullService
  store : FileStore
  pending : List Response := []
  fetches : List Exchange := []

namespace Ledger

/-- What happens to a service. -/
inductive Step where
  | start (id : AppIdentity)
  | stop (app : String)
  /-- Files change in any way. -/
  | change (store : FileStore)
  | fetch (query? : Option String)
  /-- The body of one of the answers is read to its end or to its first fault. -/
  | read (i : Nat)

/-- Is a step a fetch? -/
def Step.isFetch : Step → Bool
  | .fetch _ => true
  | _ => false

/-- Reads the body of an answer. -/
def settle (l : Ledger) (response : Response) (rest : List Response) : Ledger :=
  let d := l.service.deliver l.store response.body
  { l with service := d.2.2, pending := rest, fetches := l.fetches ++ [⟨response, d.1, d.2.1⟩] }

/-- One step. -/
def step (l : Ledger) : Step → Ledger
  | .start id => { l with service.registry := l.service.registry.start id }
  | .stop app => { l with service.registry := l.service.registry.stop app }
  | .change store => { l with store }
  | .fetch query? =>
    let answer := l.service.handle l.store .get ⟨"/", query?⟩
    { l with service := answer.2, pending := l.pending ++ [answer.1] }
  | .read i =>
    match l.pending[i]? with
    | none => l
    | some response => l.settle response (l.pending.eraseIdx i)

/-- A run. -/
def run (l : Ledger) (steps : List Step) : Ledger := steps.foldl step l

/-- How many fetches there were, with those that are not over. -/
def total (l : Ledger) : Nat := l.fetches.length + l.pending.length

/-- How many fetches count as served by now. Answers without octets count at once. -/
def served (l : Ledger) : Nat :=
  l.fetches.countP (·.isServed) + l.pending.countP (·.status == 204)

/-- How many fetches count as failed by now. Answers with slices do not count yet. -/
def failed (l : Ledger) : Nat :=
  l.fetches.countP (!·.isServed) + l.pending.countP fun r => r.status != 204 && r.status != 200

/-- The octets of all fetches that arrived whole. -/
def octets (l : Ledger) : Nat := ((l.fetches.filter (·.isWhole)).map (·.received.length)).sum

/-- The counters say what has become of the fetches. Sums that do not fit in 64 bits are excepted,
since an answer announces them wrongly. -/
structure Accounts (l : Ledger) : Prop where
  answers : ∀ r ∈ l.pending, r.Answers
  faults : ∀ e ∈ l.fetches, e.response.status = 200 → (e.fault = none ↔ e.isWhole = true)
  counters : l.service.counters
    = ⟨UInt64.ofNat l.octets, UInt64.ofNat l.served, UInt64.ofNat l.failed⟩

variable {l : Ledger}

/-- Reading an answer that is not there does nothing. -/
theorem step_read_none {i : Nat} (h : l.pending[i]? = none) : l.step (.read i) = l := by
  simp only [step, h]

/-- Reading an answer settles it and takes it off the list. -/
theorem step_read_some {i : Nat} {response : Response} (h : l.pending[i]? = some response) :
    l.step (.read i) = l.settle response (l.pending.eraseIdx i) := by
  simp only [step, h]

/-- Each fetch adds one answer, and no other step adds or loses one. -/
theorem total_step (l : Ledger) (step : Step) :
    (l.step step).total = l.total + if step.isFetch then 1 else 0 := by
  cases step with
  | start id => rfl
  | stop app => rfl
  | change store => rfl
  | fetch query? =>
    show l.fetches.length + (l.pending ++ [_]).length = _
    rw [List.length_append, List.length_singleton, ← Nat.add_assoc]
    rfl
  | read i =>
    cases hresponse : l.pending[i]? with
    | none =>
      rw [step_read_none hresponse]
      rfl
    | some response =>
      -- A fetch that is read to its end moves from the pending ones to the others.
      have hi := (List.getElem?_eq_some_iff.mp hresponse).1
      rw [step_read_some hresponse]
      simp only [settle, total, Step.isFetch, List.length_append, List.length_singleton,
        List.length_eraseIdx_of_lt hi, Bool.false_eq_true, if_false]
      omega

/-- Every fetch is over or still to be read. -/
theorem total_run (l : Ledger) (steps : List Step) :
    (l.run steps).total = l.total + steps.countP (·.isFetch) := by
  induction steps generalizing l with
  | nil => rfl
  | cons step rest ih =>
    rw [run, List.foldl_cons, ← run, ih, total_step, List.countP_cons]
    omega

/-- Fetches that are over stay so. -/
theorem fetches_prefix_run (l : Ledger) (steps : List Step) :
    l.fetches <+: (l.run steps).fetches := by
  induction steps generalizing l with
  | nil => exact List.prefix_rfl
  | cons step rest ih =>
    have hstep : l.fetches <+: (l.step step).fetches := by
      -- Only the end of a reading adds to the record, and it adds at the end.
      cases step with
      | read i =>
        cases hresponse : l.pending[i]? with
        | none => rw [step_read_none hresponse]
        | some response =>
          rw [step_read_some hresponse]
          exact List.prefix_append _ _
      | _ => exact List.prefix_rfl
    exact hstep.trans (ih (l.step step))

/-! ## §3 What one step leaves to be true -/

/-- Every refusal has a status of an error. -/
private theorem status_refused (fault : PullFault) : 400 ≤ fault.status := by
  rw [PullFault.status]
  cases fault.kind <;> decide

/-- Slices that a query finds have octets. -/
private theorem positive_of_resolve {s : PullService} {store : FileStore} {query : String}
    {chunks : List FileChunk} (h : s.resolve store query = .ok chunks) :
    ∀ c ∈ chunks, 0 < c.length.toNat := by
  obtain ⟨id, request, slices, hfinds, rfl⟩ := PullService.resolve_eq_ok.mp h
  intro c hc
  obtain ⟨attempt, -, hslice⟩ := hfinds.exists_attempt hc
  exact (FileChunk.inside_of_ofAttempt hslice).2.positive

/-- A fetch is answered at once, and counted at once unless there are slices to be read. -/
theorem Accounts.fetch (h : l.Accounts) (query? : Option String) :
    (l.step (.fetch query?)).Accounts := by
  have hhandle : l.service.handle l.store .get ⟨"/", query?⟩
      = l.service.fetch l.store (query?.getD "") := by
    simp only [PullService.handle, ne_eq, not_true_eq_false, if_false]
  -- The new answer is added to those that are still to be read.
  have hanswers {r : Response} (hr : r.Answers) : ∀ r' ∈ l.pending ++ [r], r'.Answers := by
    intro r' hr'
    rcases List.mem_append.mp hr' with hr' | hr'
    · exact h.answers r' hr'
    · rwa [List.mem_singleton.mp hr']
  rw [step, hhandle, PullService.fetch]
  unfold PullService.answer
  split
  next fault hresolve =>
    have hstatus := status_refused fault
    have hempty : fault.status ≠ 204 := by omega
    have hslices : fault.status ≠ 200 := by omega
    refine ⟨hanswers (.refused fault), h.faults, ?_⟩
    simp [octets, served, failed, Response.plain, h.counters, Counters.addFailure, hempty, hslices,
      ← Nat.add_assoc, UInt64.ofNat_add]
  next chunks hresolve =>
    split
    next htotal =>
      refine ⟨hanswers .empty, h.faults, ?_⟩
      simp [octets, served, failed, Response.empty, h.counters, Counters.addEmpty, ← Nat.add_assoc,
        UInt64.ofNat_add]
    next htotal =>
      have hne : chunks ≠ [] := fun hnil => htotal (by rw [hnil]; rfl)
      refine ⟨hanswers (.slices hne (positive_of_resolve hresolve)), h.faults, ?_⟩
      simp [octets, served, failed, Response.slices, h.counters]

section Settle

variable {response : Response} {rest : List Response} {e : Exchange}

/-- Another fetch that is over keeps to the rule on faults. -/
private theorem Accounts.faults_append (h : l.Accounts)
    (he : e.response.status = 200 → (e.fault = none ↔ e.isWhole = true)) :
    ∀ e' ∈ l.fetches ++ [e], e'.response.status = 200 →
      (e'.fault = none ↔ e'.isWhole = true) := by
  intro e' he'
  rcases List.mem_append.mp he' with he' | he'
  · exact h.faults e' he'
  · rwa [List.mem_singleton.mp he']

/-- What the counters say does not depend on the order of the answers. -/
private theorem Accounts.counters_perm (h : l.Accounts)
    (hperm : l.pending.Perm (response :: rest)) :
    l.service.counters = ⟨UInt64.ofNat l.octets,
      UInt64.ofNat (l.fetches.countP (·.isServed)
        + (response :: rest).countP (·.status == 204)),
      UInt64.ofNat (l.fetches.countP (!·.isServed)
        + (response :: rest).countP fun r => r.status != 204 && r.status != 200)⟩ := by
  rw [h.counters, served, failed, hperm.countP_eq, hperm.countP_eq]

/-- What is left to be read was answered as before. -/
private theorem Accounts.answers_rest (h : l.Accounts) (hperm : l.pending.Perm (response :: rest)) :
    ∀ r ∈ rest, r.Answers := fun r hr =>
  h.answers r (hperm.mem_iff.mpr (List.mem_cons_of_mem response hr))

/-- Slices count by how their transfer settles. -/
theorem Accounts.settle_slices (h : l.Accounts) {chunks : List FileChunk}
    (hperm : l.pending.Perm (.slices chunks :: rest)) (hne : chunks ≠ [])
    (hpos : ∀ c ∈ chunks, 0 < c.length.toNat) (hsize : FileChunk.size chunks < UInt64.size) :
    (l.settle (.slices chunks) rest).Accounts := by
  have hcounters := h.counters_perm hperm
  have htotal := FileChunk.toNat_total_of_lt hsize
  have hsettled := Transfer.run_settles l.store l.service.bufferSize hpos hne hsize
  have hsettle : ∀ d, d = Transfer.run l.store l.service.bufferSize chunks →
      l.settle (.slices chunks) rest
        = { l with
            service.counters := l.service.counters.addBody d.outcome
            pending := rest
            fetches := l.fetches ++ [⟨.slices chunks, d.body, d.fault⟩] } := by
    rintro d rfl
    rfl
  generalize Transfer.run l.store l.service.bufferSize chunks = d at hsettled hsettle
  rw [hsettle d rfl]
  have hwhole : (Exchange.mk (.slices chunks) d.body d.fault).isWhole = true ↔
      d.body.length = FileChunk.size chunks := by
    simp [Exchange.isWhole, Response.slices, htotal]
  -- What is counted of the fetch is known, so the fetch itself does not matter any more.
  generalize he : Exchange.mk (.slices chunks) d.body d.fault = e at hwhole
  have hstatus : e.response.status = 200 := by
    rw [← he]
    rfl
  have hfault : e.fault = d.fault := by rw [← he]
  have hreceived : e.received = d.body := by rw [← he]
  cases hsettled with
  | whole hnone houtcome hlength =>
    replace hwhole := hwhole.mpr hlength
    have hserved : e.isServed = true := by simp [Exchange.isServed, hwhole]
    have hsent : UInt64.ofNat e.received.length = FileChunk.total chunks := by
      rw [hreceived, hlength, ← htotal, UInt64.ofNat_toNat]
    refine ⟨h.answers_rest hperm, h.faults_append fun _ => ?_, ?_⟩
    · exact iff_of_true (hfault.trans hnone) hwhole
    · simp [hcounters, houtcome, Counters.addBody, octets, served, failed, hserved, hwhole, hsent,
        Response.slices, UInt64.ofNat_add, UInt64.add_assoc, UInt64.add_comm 1]
  | cut fault hsome houtcome hlength =>
    have hcut : e.isWhole = false := by
      rw [Bool.eq_false_iff, ne_eq, hwhole]
      exact hlength.ne
    have hfailed : e.isServed = false := by simp [Exchange.isServed, hcut, hstatus]
    refine ⟨h.answers_rest hperm, h.faults_append fun _ => ?_, ?_⟩
    · exact iff_of_false (by simp [hfault, hsome]) (by simp [hcut])
    · simp [hcounters, houtcome, Counters.addBody, Counters.addFailure, octets, served, failed,
        hfailed, hcut, Response.slices, UInt64.ofNat_add, UInt64.add_assoc, UInt64.add_comm 1]

/-- A body is counted when it has been read. -/
theorem Accounts.settle (h : l.Accounts) (hperm : l.pending.Perm (response :: rest))
    (hfits : ∀ e ∈ (l.settle response rest).fetches, e.Fits) :
    (l.settle response rest).Accounts := by
  have hcounters := h.counters_perm hperm
  cases h.answers response (hperm.mem_iff.mpr List.mem_cons_self) with
  -- Only an answer with slices moves a counter when its body is read.
  | empty =>
    refine ⟨h.answers_rest hperm, h.faults_append nofun, ?_⟩
    simp [Ledger.settle, PullService.deliver, hcounters, octets, served, failed, Exchange.isServed,
      Exchange.isWhole, Response.empty, Nat.add_assoc, Nat.add_comm 1]
  | refused fault =>
    have hstatus := status_refused fault
    have hempty : fault.status ≠ 204 := by omega
    have hslices : fault.status ≠ 200 := by omega
    refine ⟨h.answers_rest hperm, h.faults_append fun hstatus => absurd hstatus hslices, ?_⟩
    simp [Ledger.settle, PullService.deliver, hcounters, octets, served, failed, Exchange.isServed,
      Exchange.isWhole, Response.plain, hempty, hslices, Nat.add_assoc,
      Nat.add_comm 1]
  | slices hne hpos =>
    apply h.settle_slices hperm hne hpos
    exact hfits _ (List.mem_append_right _ (List.mem_singleton_self _))

end Settle

/-- Any step leaves the counters true. -/
theorem Accounts.step (h : l.Accounts) (step : Step) (hfits : ∀ e ∈ (l.step step).fetches, e.Fits) :
    (l.step step).Accounts := by
  cases step with
  | start id => exact ⟨h.answers, h.faults, h.counters⟩
  | stop app => exact ⟨h.answers, h.faults, h.counters⟩
  | change store => exact ⟨h.answers, h.faults, h.counters⟩
  | fetch query? => exact h.fetch query?
  | read i =>
    cases hresponse : l.pending[i]? with
    | none => rwa [step_read_none hresponse]
    | some response =>
      obtain ⟨hi, rfl⟩ := List.getElem?_eq_some_iff.mp hresponse
      rw [step_read_some hresponse] at hfits ⊢
      exact h.settle (List.getElem_cons_eraseIdx_perm hi).symm hfits

/-- Any run leaves the counters true. -/
theorem Accounts.run (h : l.Accounts) (steps : List Step)
    (hfits : ∀ e ∈ (l.run steps).fetches, e.Fits) : (l.run steps).Accounts := by
  induction steps generalizing l with
  | nil => exact h
  | cons step rest ih =>
    have hstep := h.step step fun e he =>
      hfits e ((fetches_prefix_run (l.step step) rest).subset he)
    exact ih hstep hfits

/-! ## §4 Whole runs -/

/-- **Counters account for every fetch.** A service starts to count from zero; applications come and
go, files change in any way, also between an answer and the reading of its body, and in the end all
bodies have been read. Then each fetch is over, and has been counted once: as served if it was
answered without octets or if all announced octets arrived, and as failed otherwise. The octets
counted are those of the answers that arrived whole, which are the answers with octets that did not
end in a fault. Numbers that the service counts or announces have 64 bits. -/
theorem counters_account {service : PullService} (hzero : service.counters = {})
    (store : FileStore) {steps : List Step} {l : Ledger}
    (hl : l = (Ledger.mk service store [] []).run steps) (hread : l.pending = [])
    (hfits : ∀ e ∈ l.fetches, e.Fits) (hserved : l.fetches.countP (·.isServed) < UInt64.size)
    (hfailed : l.fetches.countP (!·.isServed) < UInt64.size)
    (hoctets : ((l.fetches.filter (·.isWhole)).map (·.received.length)).sum < UInt64.size) :
    l.fetches.length = steps.countP (·.isFetch) ∧
      l.service.counters.served.toNat + l.service.counters.failed.toNat
        = steps.countP (·.isFetch) ∧
      l.service.counters.served.toNat = l.fetches.countP (·.isServed) ∧
      l.service.counters.bytes.toNat
        = ((l.fetches.filter (·.isWhole)).map (·.received.length)).sum ∧
      ∀ e ∈ l.fetches, e.response.status = 200 → (e.fault = none ↔ e.isWhole = true) := by
  have hstart : (Ledger.mk service store [] []).Accounts := ⟨nofun, nofun, hzero⟩
  have haccounts : l.Accounts := hl ▸ hstart.run steps (hl ▸ hfits)
  have htotal := total_run (Ledger.mk service store [] []) steps
  -- No answer is left to be read, so all fetches are settled.
  have hover : l.fetches.length = steps.countP (·.isFetch) := by
    rw [← hl, total, hread] at htotal
    simpa [total] using htotal
  have hcounters := haccounts.counters
  rw [served, failed, octets, hread] at hcounters
  simp only [List.countP_nil, Nat.add_zero] at hcounters
  refine ⟨hover, ?_, ?_, ?_, haccounts.faults⟩
  · have hboth := l.fetches.length_eq_countP_add_countP (·.isServed)
    rw [hcounters, UInt64.toNat_ofNat_of_lt' hserved, UInt64.toNat_ofNat_of_lt' hfailed, ← hover]
    simpa using hboth.symm
  · rw [hcounters, UInt64.toNat_ofNat_of_lt' hserved]
  · rw [hcounters, UInt64.toNat_ofNat_of_lt' hoctets]

/-- One bucket has octets and one has none. -/
def twoBuckets : FileStore :=
  (((({} : FileStore).put ⟨"/a/usercache/u/appcache/x/output/1/0_0/output/5"⟩ [1, 2]).store).put
    ⟨"/a/usercache/u/appcache/x/output/1/0_0/output/6"⟩ []).store

/-- A bucket is fetched twice. Its file goes away before the second answer is read. -/
def lossySteps : List Step :=
  [.fetch (some "sid=1&p=5&type=h&ta=0_0"), .start ⟨"u", "x"⟩,
    .fetch (some "sid=1&p=5&type=h&ta=0_0"), .fetch (some "sid=1&p=6&type=h&ta=0_0"),
    .fetch (some "sid=1&p=5&type=h&ta=0_0"), .read 1, .read 1, .change {}, .fetch none, .read 1,
    .read 0, .read 0]

/-- Five fetches are counted, two of them as served. -/
theorem counters_account_lossy :
    ∃ l, l = (Ledger.mk { layout := ⟨[⟨"/a"⟩]⟩, bufferSize := 1 } twoBuckets [] []).run lossySteps ∧
      l.service.counters.served.toNat = 2 ∧ l.service.counters.bytes.toNat = 2 ∧
      l.service.counters.served.toNat + l.service.counters.failed.toNat = 5 := by
  -- The ledger is named first: the run is evaluated once, not in every fact about it.
  obtain ⟨l, hl⟩ : ∃ l, l
      = (Ledger.mk { layout := ⟨[⟨"/a"⟩]⟩, bufferSize := 1 } twoBuckets [] []).run lossySteps :=
    ⟨_, rfl⟩
  have hrun : l.pending = [] ∧ (∀ e ∈ l.fetches, e.Fits) ∧ l.fetches.countP (·.isServed) = 2 ∧
      l.fetches.countP (!·.isServed) = 3 ∧
      ((l.fetches.filter (·.isWhole)).map (·.received.length)).sum = 2 := by
    rw [hl]
    decide +kernel
  obtain ⟨hread, hfits, hserved, hfailed, hoctets⟩ := hrun
  have hcounted := counters_account rfl twoBuckets hl hread hfits (by rw [hserved]; decide)
    (by rw [hfailed]; decide) (by rw [hoctets]; decide)
  obtain ⟨-, htotal, hserved', hoctets', -⟩ := hcounted
  exact ⟨l, hl, hserved'.trans hserved, hoctets'.trans hoctets, htotal.trans (by decide)⟩

end Ledger

end Shuffle
