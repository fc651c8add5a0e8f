import Mathlib
import Shuffle.Fetch.Descriptor
import Shuffle.Proofs.Fetch.Query
import Shuffle.Proofs.Url.Services

/-!
# Fetch descriptors are read back from their URLs

A descriptor has two texts: the one that is written for tasks, which always names the port, and that
of the URL to open, which leaves out the port that its scheme has anyway. Where the host is plain,
both are read as the descriptor itself.

- `FetchRequest.Built` are the requests that are made for a bucket or for a range.
- `FetchDescriptor.render_eq` and `FetchDescriptor.toUrl_eq` say that both texts are URLs of one
  service.
- `FetchDescriptor.url_round_trip` is the round trip of both.
-/

namespace Shuffle

open Fallible

/-! ## §1 Requests and addresses -/

/-- Requests that are made for a bucket or for a range, with at least one attempt. -/
inductive FetchRequest.Built : FetchRequest → Prop
  | hash (stage partition : UInt32) {attempts : List TaskAttempt} (hne : attempts ≠ []) :
      Built (hash stage partition attempts)
  | range (stage : UInt32) {attempts : List TaskAttempt} (hne : attempts ≠ [])
      (start stop : Bytes) (final : Bool) : Built (range stage attempts start stop final)

/-- What the constructors build is canonical. -/
theorem FetchRequest.Built.canonical {r : FetchRequest} (h : r.Built) : r.Canonical := by
  cases h with
  | hash stage partition hne => exact canonical_toSet hne rfl
  | range stage hne start stop final => exact canonical_toSet hne rfl

/-- A plain host has no brackets. -/
theorem PullAddress.render_of_plainHost {a : PullAddress} (h : PlainHost a.host) :
    a.render = a.host ++ ":" ++ Decimal.numeral a.port.toNat := by
  simp [render, h.notMem_colon]

namespace FetchDescriptor

/-! ## §2 Both texts -/

variable {d : FetchDescriptor} {host : Host}

/-- The text of a descriptor is a URL that names the port. -/
theorem render_eq (h : PlainHost d.address.host) (hhost : host.render = d.address.host) :
    d.render
      = (Url.ofService host (some d.address.port) (some d.request.toQuery)).render := by
  apply String.toList_inj.mp
  rw [Url.toList_render_ofService, render, PullAddress.render_of_plainHost h, hhost]
  simp [Url.portText, Url.queryText]

/-- The URL to open leaves out the port of the scheme. -/
theorem toUrl_eq (h : PlainHost d.address.host) (hhost : host.render = d.address.host)
    (hread : Host.readWeb host.render.toList = .ok host) :
    d.toUrl = .ok (Url.ofService host ((some d.address.port).filter (· ≠ 80))
      (some d.request.toQuery)) := by
  have htext : "http://" ++ d.address.render ++ "/"
      = (Url.ofService host (some d.address.port) none).render := by
    apply String.toList_inj.mp
    rw [Url.toList_render_ofService, PullAddress.render_of_plainHost h, hhost]
    simp [Url.portText, Url.queryText]
  -- A request is written with its own escapes, and gets no others.
  have hkept : Percent.encode (Percent.keptInQuery (Url.isWeb "http")) d.request.toQuery.toList
      = d.request.toQuery.toList :=
    Percent.encode_of_forall fun c hc => Form.keptInQuery_of_mem_render hc
  rw [toUrl, htext, Url.read_render_ofService (by rwa [hhost]) hread _ (by simp)]
  simp only [Url.withQuery, Url.ofService, hkept, String.ofList_toList]

/-- The descriptor that a URL of a service stands for. -/
theorem ofUrl_ofService (hrequest : d.request.Canonical) (hhost : host.render = d.address.host)
    (hsix : ∀ a, host ≠ .v6 a) {port : Option UInt16} (hport : port.getD 80 = d.address.port) :
    ofUrl (Url.ofService host port (some d.request.toQuery)) = .ok d := by
  have hname : hostText host = d.address.host := (hostText_of_ne hsix).trans hhost
  have hport' : (Url.ofService host port (some d.request.toQuery)).port? = some d.address.port := by
    rw [← hport]
    cases port <;> rfl
  rw [ofUrl, hport']
  simp only [Url.ofService, Url.host?, Option.bind_some, Option.getD_some, hname,
    hrequest.ofQuery_toQuery]

/-- Whether they name the port or not, both texts are read as one URL. -/
theorem read_ofService (hhost : PlainHost d.address.host) (hrequest : d.request.Canonical)
    (hrender : host.render = d.address.host) (hread : Host.readWeb host.render.toList = .ok host)
    (hsix : ∀ a, host ≠ .v6 a) {port : Option UInt16} (hport : port.getD 80 = d.address.port) :
    read (Url.ofService host port (some d.request.toQuery)).render = .ok d := by
  have hquery : ∀ q ∈ some d.request.toQuery, ∀ c ∈ q.toList,
      Percent.keptInQuery true c = true := by
    intro q hq c hc
    cases hq
    exact Form.keptInQuery_of_mem_render hc
  -- The port that reading leaves out is the one that is filled in.
  have hkept : (port.filter (· ≠ 80)).getD 80 = d.address.port := by
    rw [← hport]
    cases port with
    | none => rfl
    | some p => by_cases hp : p = 80 <;> simp [Option.filter_some, hp]
  rw [read, Url.read_render_ofService (by rwa [hrender]) hread port hquery]
  exact ofUrl_ofService hrequest hrender hsix hkept

/-! ## §3 Round trips -/

/-- **Descriptors are read back from both of their texts.** The port may be any, also that of the
scheme, and the request may be for a bucket or for a range. -/
theorem url_round_trip (hhost : PlainHost d.address.host) (hrequest : d.request.Built) :
    read d.render = .ok d ∧ ∃ url, d.toUrl = .ok url ∧ read url.render = .ok d := by
  obtain ⟨host, hread, hrender, hsix⟩ := hhost.readWeb
  rw [← hrender] at hread
  constructor
  · rw [render_eq hhost hrender]
    exact read_ofService hhost hrequest.canonical hrender hread hsix rfl
  · refine ⟨_, toUrl_eq hhost hrender hread, ?_⟩
    apply read_ofService hhost hrequest.canonical hrender hread hsix
    by_cases hp : d.address.port = 80 <;> simp [Option.filter_some, hp]

/-- A request for a bucket, sent to a name and to the port of the scheme. -/
def bucketFetch : FetchDescriptor :=
  ⟨⟨"a-1.0.host", 80⟩, FetchRequest.hash 7 3 [⟨2, 0⟩, ⟨1, 5⟩, ⟨2, 0⟩]⟩

/-- A request for a range, sent to an address of four octets and to port 0. -/
def rangeFetch : FetchDescriptor :=
  ⟨⟨"10.0.0.255", 0⟩, FetchRequest.range 7 [⟨1, 0⟩] [0] [] true⟩

/-- Both descriptors are read back, though the texts of the first one differ in the port. -/
theorem url_round_trip_default_port :
    (bucketFetch.render = "http://a-1.0.host:80/?sid=7&p=3&type=h&ta=1_5&ta=2_0" ∧
      read bucketFetch.render = .ok bucketFetch ∧ ∃ url, bucketFetch.toUrl = .ok url ∧
        url.render = "http://a-1.0.host/?sid=7&p=3&type=h&ta=1_5&ta=2_0" ∧
        read url.render = .ok bucketFetch) ∧
      read rangeFetch.render = .ok rangeFetch ∧
      ∃ url, rangeFetch.toUrl = .ok url ∧ read url.render = .ok rangeFetch := by
  -- A host of letters, digits and hyphens, and one that is an address in dotted form.
  have hlabels : ∀ label ∈ [['a', '-', '1'], ['0']] ++ [['h', 'o', 's', 't']],
      Label.IsPlain label := by
    intro label hlabel
    simp only [List.mem_append, List.mem_cons, List.not_mem_nil, or_false] at hlabel
    rcases hlabel with (rfl | rfl) | rfl
    · exact ⟨by simp, by simp [Label.IsPlainChar], by simp⟩
    · exact ⟨by simp, by simp [Label.IsPlainChar], by simp⟩
    · exact ⟨by simp, by simp [Label.IsPlainChar], by simp⟩
  have hname : PlainHost bucketFetch.address.host := .name hlabels rfl
  have haddress : PlainHost rangeFetch.address.host := .address 10 0 0 255
  have hquery : bucketFetch.request.toQuery = "sid=7&p=3&type=h&ta=1_5&ta=2_0" := by cbv
  constructor
  · obtain ⟨hread, url, hurl, hagain⟩ := url_round_trip hname (.hash 7 3 (by simp))
    obtain ⟨host, hhost, hrender, -⟩ := hname.readWeb
    rw [← hrender] at hhost
    -- The default port is left out when the URL is rendered.
    have hopened := toUrl_eq hname hrender hhost
    rw [hurl, Except.ok.injEq] at hopened
    refine ⟨?_, hread, url, hurl, ?_, hagain⟩
    · rw [render, hquery]
      rfl
    · apply String.toList_inj.mp
      rw [hopened, Url.toList_render_ofService, hrender, hquery]
      rfl
  · exact url_round_trip haddress (.range 7 (by simp) [0] [] true)

end FetchDescriptor

end Shuffle
