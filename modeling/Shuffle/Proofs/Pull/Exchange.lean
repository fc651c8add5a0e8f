import Mathlib
import Shuffle.Pull.Service
import Shuffle.Proofs.Fallible
import Shuffle.Proofs.Ordered
import Shuffle.Proofs.Pull.Sending

/-!
# What a client sees of a fetch

A fetch is a request whose answer is read to its end while the files stay as they are. Its answer
is decided by what the query asks for: the slices of all attempts, or the first fault on the way to
them.

- `PullService.exchange` is a request with its answer.
- `PullService.Finds` says that each attempt of a query has a slice, and `PullService.Refuses`
  which fault comes first.
- `PullService.exchange_slices`, `exchange_empty` and `exchange_refused` are the three ways in which
  a fetch ends.
- `PullService.exchange_congr` says when two services cannot be told apart.
-/

namespace Shuffle

open Fallible

/-- What a client sees of a request: the answer, the octets that came after it, and the fault that
they ended in. -/
structure Exchange where
  response : Response
  received : Bytes
  fault : Option TransferFault

namespace PullService

/-- A request whose answer is read to its end. Files do not change in between. -/
def exchange (s : PullService) (store : FileStore) (method : Method) (target : RequestTarget) :
    Exchange :=
  let answer := s.handle store method target
  let delivery := answer.2.deliver store answer.1.body
  ⟨answer.1, delivery.1, delivery.2.1⟩

variable {s : PullService} {store : FileStore} {query : String} {id : AppIdentity}
  {request : FetchRequest} {fault : PullFault} {chunks : List FileChunk}

/-! ## §1 What a query asks for -/

/-- A query asks for output of the active application, and each attempt of its request has a slice
or, without octets, none. -/
structure Finds (s : PullService) (store : FileStore) (query : String) (id : AppIdentity)
    (request : FetchRequest) (slices : List (Option FileChunk)) : Prop where
  parsed : FetchRequest.ofQuery query = .ok request
  active : s.registry.active = some id
  found : List.Forall₂ (fun attempt slice =>
    FileChunk.ofAttempt s.layout store id request attempt = .ok slice) request.attempts slices

/-- The fault that a query meets first: it is no request, no application is active, or an attempt
has no slice while all before it have one. -/
inductive Refuses (s : PullService) (store : FileStore) (query : String) : PullFault → Prop where
  | unparsable {fault : RequestError} (parsed : FetchRequest.ofQuery query = .error fault) :
    Refuses s store query (.query query fault)
  | idle {request : FetchRequest} (parsed : FetchRequest.ofQuery query = .ok request)
    (active : s.registry.active = none) : Refuses s store query .noApplication
  | attempt {id : AppIdentity} {request : FetchRequest} {before after : List TaskAttempt}
    {lowest : TaskAttempt} {fault : PullFault} (parsed : FetchRequest.ofQuery query = .ok request)
    (active : s.registry.active = some id) (split : request.attempts = before ++ lowest :: after)
    (found : ∀ a ∈ before, ∃ slice, FileChunk.ofAttempt s.layout store id request a = .ok slice)
    (failed : FileChunk.ofAttempt s.layout store id request lowest = .error fault) :
    Refuses s store query fault

/-- The attempts of a request that was read are in ascending order, once each. -/
theorem pairwise_attempts (h : FetchRequest.ofQuery query = .ok request) :
    request.attempts.Pairwise fun a b => TaskAttempt.le a b = true ∧ a ≠ b := by
  obtain ⟨attempts, -, h⟩ := bind_eq_ok.mp h
  obtain ⟨stage, -, h⟩ := bind_eq_ok.mp h
  obtain ⟨partition, -, h⟩ := bind_eq_ok.mp h
  obtain ⟨code, -, h⟩ := bind_eq_ok.mp h
  split at h
  · cases h
  · split at h
    · cases h
    · obtain ⟨kind, -, h⟩ := bind_eq_ok.mp h
      cases h
      -- A parsed request has its attempts as a set, whatever their order in the query.
      exact Ordered.pairwise_toSet Ordered.linear_attempt attempts

/-- A query resolves to the slices of its attempts, in their order and without the empty ones. -/
theorem resolve_eq_ok :
    s.resolve store query = .ok chunks ↔ ∃ id request slices,
      s.Finds store query id request slices ∧ chunks = slices.reduceOption := by
  rw [resolve, bind_eq_ok]
  simp only [mapError_eq_ok]
  constructor
  · -- The steps of the resolver, taken apart one by one.
    rintro ⟨request, hparsed, h⟩
    split at h
    · cases h
    next id hactive =>
      obtain ⟨slices, hslices, h⟩ := bind_eq_ok.mp h
      cases h
      exact ⟨id, request, slices, ⟨hparsed, hactive, mapM_eq_ok.mp hslices⟩, rfl⟩
  · rintro ⟨id, request, slices, hfinds, rfl⟩
    refine ⟨request, hfinds.parsed, ?_⟩
    rw [hfinds.active]
    exact bind_eq_ok.mpr ⟨slices, mapM_eq_ok.mpr hfinds.found, rfl⟩

/-- A query fails at its text, at the application, or at the first attempt that fails. -/
theorem resolve_eq_error : s.resolve store query = .error fault ↔ s.Refuses store query fault := by
  rw [resolve, bind_eq_error]
  simp only [mapError_eq_error, mapError_eq_ok]
  constructor
  · rintro (⟨fault, hparsed, rfl⟩ | ⟨request, hparsed, h⟩)
    · exact .unparsable hparsed
    · split at h
      next hactive =>
        cases h
        exact .idle hparsed hactive
      next id hactive =>
        rcases bind_eq_error.mp h with h | ⟨slices, -, h⟩
        · -- The round of the attempts that stopped is the first one that could not go on.
          obtain ⟨before, lowest, after, hsplit, hfound, hfailed⟩ := mapM_eq_error.mp h
          exact .attempt hparsed hactive hsplit hfound hfailed
        · cases h
  · intro h
    cases h with
    | unparsable hparsed => exact Or.inl ⟨_, hparsed, rfl⟩
    | idle hparsed hactive => exact Or.inr ⟨_, hparsed, by rw [hactive]⟩
    | attempt hparsed hactive hsplit hfound hfailed =>
      refine Or.inr ⟨_, hparsed, ?_⟩
      rw [hactive]
      exact bind_eq_error.mpr (Or.inl (mapM_eq_error.mpr ⟨_, _, _, hsplit, hfound, hfailed⟩))

/-- Every slice that a query finds is that of an attempt. -/
theorem Finds.exists_attempt {slices : List (Option FileChunk)} {c : FileChunk}
    (h : s.Finds store query id request slices) (hc : c ∈ slices.reduceOption) :
    ∃ a ∈ request.attempts, FileChunk.ofAttempt s.layout store id request a = .ok (some c) := by
  have hmem := List.reduceOption_mem_iff.mp hc
  obtain ⟨i, hi, hslice⟩ := List.getElem_of_mem hmem
  have hlength := h.found.length_eq
  refine ⟨request.attempts[i], List.getElem_mem _, ?_⟩
  rw [← hslice]
  exact h.found.get (hlength ▸ hi) hi

/-! ## §2 How a fetch ends -/

variable {query? : Option String}

/-- A request by `GET` is answered and its body delivered. -/
private theorem exchange_of_fetch {response : Response} {s' : PullService}
    (h : s.fetch store (query?.getD "") = (response, s')) :
    s.exchange store .get ⟨"/", query?⟩ = ⟨response, (s'.deliver store response.body).1,
      (s'.deliver store response.body).2.1⟩ := by
  simp only [exchange, handle, ne_eq, not_true_eq_false, if_false, h]

/-- A refused query gets a status and a message, whatever the files hold. -/
theorem exchange_refused (h : s.Refuses store (query?.getD "") fault) :
    s.exchange store .get ⟨"/", query?⟩
      = ⟨.plain fault.status fault.message, Bytes.ofText fault.message, none⟩ := by
  have hfetch : s.fetch store (query?.getD "")
      = (.plain fault.status fault.message, { s with counters := s.counters.addFailure }) := by
    rw [fetch, resolve_eq_error.mpr h, answer]
  exact exchange_of_fetch hfetch

/-- When no octet is to be sent, the answer says so by its status. -/
theorem exchange_empty {slices : List (Option FileChunk)}
    (h : s.Finds store (query?.getD "") id request slices)
    (htotal : FileChunk.total slices.reduceOption = 0) :
    s.exchange store .get ⟨"/", query?⟩ = ⟨.empty 204, [], none⟩ := by
  have hfetch : s.fetch store (query?.getD "")
      = (.empty 204, { s with counters := s.counters.addEmpty }) := by
    simp only [fetch, answer, resolve_eq_ok.mpr ⟨id, request, slices, h, rfl⟩, htotal, if_true]
  have hbody : Bytes.ofText "" = [] := by cbv
  rw [exchange_of_fetch hfetch, Response.empty, deliver, hbody]

/-- Slices that have octets are the answer, and the body is what the transfer sends of them. -/
theorem exchange_slices {slices : List (Option FileChunk)}
    (h : s.Finds store (query?.getD "") id request slices)
    (htotal : FileChunk.total slices.reduceOption ≠ 0) :
    s.exchange store .get ⟨"/", query?⟩
      = ⟨.slices slices.reduceOption, (Transfer.run store s.bufferSize slices.reduceOption).body,
        (Transfer.run store s.bufferSize slices.reduceOption).fault⟩ := by
  have hfetch : s.fetch store (query?.getD "") = (.slices slices.reduceOption, s) := by
    simp only [fetch, answer, resolve_eq_ok.mpr ⟨id, request, slices, h, rfl⟩, htotal, if_false]
  exact exchange_of_fetch hfetch

/-! ## §3 Fetches that look the same -/

variable {s' : PullService} {store' : FileStore} {target : RequestTarget}

/-- The resolver knows the files through the slices of the attempts alone. -/
private theorem resolve_congr (hactive : s.registry.active = s'.registry.active)
    (hattempts : ∀ id request, s.registry.active = some id →
      FetchRequest.ofQuery query = .ok request → ∀ a ∈ request.attempts,
        FileChunk.ofAttempt s.layout store id request a
          = FileChunk.ofAttempt s'.layout store' id request a) :
    s.resolve store query = s'.resolve store' query := by
  rw [resolve, resolve, ← hactive]
  cases hparsed : FetchRequest.ofQuery query with
  | error fault => rfl
  | ok request =>
    cases hid : s.registry.active with
    | none => rfl
    | some id =>
      show FileChunk.resolve s.layout store id request
        = FileChunk.resolve s'.layout store' id request
      rw [FileChunk.resolve, FileChunk.resolve,
        mapM_congr fun a ha => hattempts id request hid hparsed a ha]

/-- A client cannot tell services apart that find the same slices, if the files of these slices are
the same. -/
theorem exchange_congr (hbuffer : s.bufferSize = s'.bufferSize)
    (hactive : s.registry.active = s'.registry.active)
    (hattempts : ∀ id request, s.registry.active = some id →
      FetchRequest.ofQuery (target.query.getD "") = .ok request → ∀ a ∈ request.attempts,
        FileChunk.ofAttempt s.layout store id request a
            = FileChunk.ofAttempt s'.layout store' id request a ∧
          ∀ c, FileChunk.ofAttempt s.layout store id request a = .ok (some c) →
            store.stat c.path = store'.stat c.path) (method : Method) :
    s.exchange store method target = s'.exchange store' method target := by
  have hresolve : s.resolve store (target.query.getD "")
      = s'.resolve store' (target.query.getD "") :=
    resolve_congr hactive fun id request hid hparsed a ha =>
      (hattempts id request hid hparsed a ha).1
  unfold exchange handle
  by_cases hpath : target.path = "/"
  case neg =>
    -- Other paths are answered without a look at the files.
    simp only [ne_eq, hpath, not_false_eq_true, if_true]
    rfl
  case pos =>
    simp only [ne_eq, hpath, not_true_eq_false, if_false]
    cases hchunks : s.resolve store (target.query.getD "") with
    | error fault =>
      rw [hchunks] at hresolve
      cases method <;> simp only [fetch, answer, hchunks, ← hresolve] <;> rfl
    | ok chunks =>
      -- Only the answer with slices looks at the files again.
      have hrun : Transfer.run store s.bufferSize chunks
          = Transfer.run store' s.bufferSize chunks := by
        apply Transfer.run_congr
        intro c hc
        obtain ⟨id, request, slices, hfinds, rfl⟩ := resolve_eq_ok.mp hchunks
        obtain ⟨a, ha, hslice⟩ := hfinds.exists_attempt hc
        exact (hattempts id request hfinds.active hfinds.parsed a ha).2 c hslice
      rw [hchunks] at hresolve
      by_cases htotal : FileChunk.total chunks = 0
      · cases method <;> simp only [fetch, answer, hchunks, ← hresolve, htotal, if_true] <;> rfl
      · cases method with
        | other => rfl
        | head =>
          simp only [fetch, answer, hchunks, ← hresolve, htotal, if_false]
          rfl
        | get =>
          simp only [fetch, answer, hchunks, ← hresolve, htotal, if_false, deliver, Response.slices,
            ← hbuffer, hrun]

end PullService

end Shuffle
