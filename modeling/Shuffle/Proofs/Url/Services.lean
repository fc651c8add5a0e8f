import Mathlib
import Shuffle.Proofs.Fallible
import Shuffle.Proofs.Url.Hosts
import Shuffle.Url.Reader

/-!
# URLs of services are read back

The URL of a service names a host, perhaps a port, and perhaps a query. Reading takes it apart
again, part by part, and drops nothing but a port that the scheme has anyway.

- `Url.ofService` is such a URL.
- `Url.readAuthority_append`: its host and its port are read back.
- `Url.read_render_ofService` is the round trip.
-/

namespace Shuffle

open Fallible

/-! ## §1 Characters -/

/-- A character that reading leaves where it is: no blank, no break, no fragment's sign. -/
def Url.IsInner (c : Char) : Prop := 0x20 < c.toNat ∧ c ≠ '#'

namespace Percent

/-- The characters that queries keep. -/
theorem keptInQuery_toNat {c : Char} (h : keptInQuery true c = true) :
    0x20 < c.toNat ∧ c.toNat ≤ 0x7E ∧ c ≠ '#' := by
  simp [keptInQuery, isPrintable, UInt32.le_iff_toNat_le] at h
  obtain ⟨⟨hrange, hspace, -, hsign, -⟩, -⟩ := h
  have hne : c.toNat ≠ 0x20 := fun heq => hspace (Char.toNat_inj.mp heq)
  exact ⟨by omega, hrange.2, hsign⟩

/-- Kept characters are not escaped. -/
theorem encode_of_forall {keep : Char → Bool} {text : List Char}
    (h : ∀ c ∈ text, keep c = true) : encode keep text = text := by
  induction text with
  | nil => rfl
  | cons c rest ih =>
    have hrest := ih fun c' hc' => h c' (List.mem_cons_of_mem c hc')
    rw [encode, List.flatMap_cons, if_pos (h c List.mem_cons_self)]
    exact congrArg (c :: ·) hrest

end Percent

namespace UrlPath

/-- Breaks are control characters. -/
theorem isBreak_of_lt {c : Char} (h : 0x20 < c.toNat) : isBreak c = false := by
  have hne {d : Char} (hd : d.toNat ≤ 0x20) : c ≠ d := by
    rintro rfl
    omega
  simp [isBreak, hne]

/-- Nothing is taken out of text without breaks. -/
theorem withoutBreaks_of_forall {text : List Char} (h : ∀ c ∈ text, Url.IsInner c) :
    withoutBreaks text = text := by
  rw [withoutBreaks, List.filter_eq_self]
  intro c hc
  rw [isBreak_of_lt (h c hc).1]
  rfl

end UrlPath

namespace Url

/-! ## §2 Cutting a text into parts -/

/-- Only the ends of a text are trimmed. -/
theorem trimEnds_of_ends {text : List Char} (hfirst : ∀ c ∈ text.head?, 0x20 < c.toNat)
    (hlast : ∀ c ∈ text.getLast?, 0x20 < c.toNat) : trimEnds text = text := by
  have hkeep (cs : List Char) (hcs : ∀ c ∈ cs.head?, 0x20 < c.toNat) :
      cs.dropWhile (fun c => decide (c.val ≤ 0x20)) = cs := by
    cases cs with
    | nil => rfl
    | cons c rest =>
      have hc := hcs c rfl
      rw [List.dropWhile_cons_of_neg]
      simp [UInt32.le_iff_toNat_le]
      omega
  rw [trimEnds, Blank.trimBy, hkeep text hfirst,
    hkeep text.reverse (by rwa [List.head?_reverse]), List.reverse_reverse]

/-- There is nothing to trim at a text of inner characters. -/
theorem trimEnds_of_forall {text : List Char} (h : ∀ c ∈ text, IsInner c) :
    trimEnds text = text :=
  trimEnds_of_ends (fun c hc => (h c (List.mem_of_mem_head? hc)).1)
    fun c hc => (h c (List.mem_of_getLast? hc)).1

/-- The scheme is what is before the first colon. -/
theorem splitScheme_http (rest : List Char) :
    splitScheme ("http:".toList ++ rest) = some ("http", rest) := by
  simp [splitScheme, List.span_eq_takeWhile_dropWhile, isSchemeChar, UrlPath.isBreak,
    UrlPath.withoutBreaks]

/-- The query of a URL as text. -/
def queryText : Option String → List Char
  | none => []
  | some query => '?' :: query.toList

/-- The port of a URL as text. -/
def portText : Option UInt16 → List Char
  | none => []
  | some port => ':' :: (Decimal.numeral port.toNat).toList

/-- A port is made of digits behind a colon. -/
theorem toNat_of_mem_portText {port : Option UInt16} {c : Char} (h : c ∈ portText port) :
    48 ≤ c.toNat ∧ c.toNat ≤ 58 := by
  cases port with
  | none => cases h
  | some port =>
    rcases List.mem_cons.mp h with rfl | hc
    · decide
    · have hdigit := Decimal.isDigit_of_mem_numeral hc
      simp only [Char.isDigit, Bool.and_eq_true, decide_eq_true_eq, ge_iff_le,
        UInt32.le_iff_toNat_le] at hdigit
      have hrange : 48 ≤ c.toNat ∧ c.toNat ≤ 57 := hdigit
      omega

/-- A port is written in digits behind a colon. -/
theorem notMem_portText {port : Option UInt16} {c : Char} (h : c.toNat < 48 ∨ 58 < c.toNat) :
    c ∉ portText port := by
  intro hc
  have hrange := toNat_of_mem_portText hc
  omega

/-- No fragment, and a query behind the first question mark. -/
theorem splitTail_queryText {body : List Char} {query : Option String}
    (hbody : ∀ c ∈ body, c ≠ '#' ∧ c ≠ '?')
    (hquery : ∀ q ∈ query, ∀ c ∈ q.toList, c ≠ '#') :
    splitTail (body ++ queryText query) = (body, query.map String.toList, none) := by
  -- A fragment would be cut off first, from the query too.
  have hsign : ∀ c ∈ body ++ queryText query, decide (c ≠ '#') = true := by
    intro c hc
    rw [decide_eq_true_eq]
    rcases List.mem_append.mp hc with hc | hc
    · exact (hbody c hc).1
    · cases query with
      | none => cases hc
      | some q =>
        rcases List.mem_cons.mp hc with rfl | hc
        · decide
        · exact hquery q rfl c hc
  have hmark : ∀ c ∈ body, decide (c ≠ '?') = true := fun c hc => decide_eq_true (hbody c hc).2
  rw [splitTail, span_of_forall hsign]
  cases query with
  | none => simp only [queryText, List.append_nil, span_of_forall hmark, Option.map_none]
  | some q => simp only [queryText, span_append hmark (c := '?') rfl, Option.map_some]

/-- Without an at sign there are no credentials. -/
theorem splitAtLastAt_of_notMem {text : List Char} (h : '@' ∉ text) :
    splitAtLastAt text = none := by
  have hreverse : ∀ c ∈ text.reverse, decide (c ≠ '@') = true := by
    intro c hc
    rw [decide_eq_true_eq]
    rintro rfl
    exact h (List.mem_reverse.mp hc)
  rw [splitAtLastAt, span_of_forall hreverse]

/-- Brackets are left behind the first that closes. -/
theorem splitHost_inBrackets {body : List Char} (hbody : ∀ c ∈ body, c ≠ '[' ∧ c ≠ ']')
    (rest : List Char) :
    splitHost true (body ++ ']' :: rest)
      = (body ++ ']' :: (splitHost false rest).1, (splitHost false rest).2) := by
  induction body with
  | nil => simp [splitHost]
  | cons c body ih =>
    obtain ⟨hopen, hclose⟩ := hbody c List.mem_cons_self
    have hrest := ih fun d hd => hbody d (List.mem_cons_of_mem c hd)
    simp [splitHost, hopen, hclose, hrest]

/-- A host ends at the port. -/
theorem splitHost_append {front port : List Char} (hfront : Host.IsPart front)
    (hport : ∀ c ∈ port.head?, c = ':') : splitHost false (front ++ port) = (front, port) := by
  have hstart : splitHost false port = ([], port) := by
    cases port with
    | nil => rfl
    | cons c rest => simp [splitHost, hport c rfl]
  cases hfront with
  | name hne hname =>
    clear hne
    induction front with
    | nil => exact hstart
    | cons c rest ih =>
      have hc := hname c List.mem_cons_self
      -- No character of a name ends the host or opens a bracket.
      have hcolon : c ≠ ':' := hc.ne (by simp [Host.isReserved])
      have hopen : c ≠ '[' := hc.ne (by simp [Host.isReserved])
      have hclose : c ≠ ']' := hc.ne (by simp [Host.isReserved])
      have hrest := ih fun d hd => hname d (List.mem_cons_of_mem c hd)
      simp [splitHost, hcolon, hopen, hclose, hrest]
  | @bracketed body hbody =>
    -- Within brackets a colon does not end the host, and the body has no bracket.
    have hinner : ∀ c ∈ body, c ≠ '[' ∧ c ≠ ']' := by
      intro c hc
      have hrange := (hbody c hc).toNat
      constructor <;> rintro rfl <;> simp at hrange
    have htext : '[' :: body ++ [']'] ++ port = '[' :: (body ++ ']' :: port) := by simp
    rw [htext, splitHost, if_neg (by simp)]
    simp [splitHost_inBrackets hinner, hstart]

/-- The port of a scheme is not kept. -/
theorem readPort_numeral (scheme : String) (port : UInt16) :
    readPort scheme (Decimal.numeral port.toNat).toList
      = .ok (if defaultPort? scheme = some port then none else some port, []) := by
  have hdigits : ∀ c ∈ (Decimal.numeral port.toNat).toList, c.isDigit = true := fun c hc =>
    Decimal.isDigit_of_mem_numeral hc
  -- The number is read as a numeral is, only without a bound.
  have hvalue : digitsValue (Decimal.numeral port.toNat).toList = port.toNat := by
    have hsame (digits : List Char) : digitsValue digits = Nat.ofDigitChars 10 digits 0 := by
      simp [digitsValue, Nat.ofDigitChars, Nat.mul_comm]
    rw [hsame, Decimal.toList_numeral, Nat.ofDigitChars_ten_toDigits]
  have hne : (Decimal.numeral port.toNat).toList ≠ [] := by
    simp [Decimal.toList_numeral]
  have hbound : ¬65535 < port.toNat := by
    have := port.toNat_lt
    omega
  rw [readPort, span_of_forall hdigits]
  simp only [hvalue, hbound, if_false, UInt16.ofNat_toNat]
  by_cases hdefault : defaultPort? scheme = some port <;> simp [hdefault, hne]

/-- A port that is written is lost only if it is the one of the scheme. -/
theorem keptPort_http (port : UInt16) :
    (if defaultPort? "http" = some port then none else some port)
      = (some port).filter (· ≠ 80) := by
  by_cases hdefault : port = 80
  · subst hdefault
    decide
  · simp [Option.filter_some, hdefault, defaultPort?, Ne.symm hdefault]

/-! ## §3 Host and port -/

/-- What stands before the path are plain characters and a colon. -/
theorem mem_authority {front : List Char} (hfront : ∀ c ∈ front, Host.IsPlainChar c)
    {port : Option UInt16} {c : Char} (hc : c ∈ front ++ portText port) :
    Host.IsPlainChar c ∨ c = ':' := by
  rcases List.mem_append.mp hc with hc | hc
  · exact .inl (hfront c hc)
  · cases port with
    | none => cases hc
    | some port =>
      rcases List.mem_cons.mp hc with rfl | hc
      · exact .inr rfl
      · exact .inl (.inl (.inr (.inl (Decimal.isDigit_of_mem_numeral hc))))

/-- The authority of a web URL without credentials is a host and a port. -/
theorem readAuthority_of_splitHost {text front : List Char} {port : Option UInt16} {host : Host}
    (hcredentials : '@' ∉ text) (hsplit : splitHost false text = (front, portText port))
    (hhost : Host.readWeb front = .ok host) (bounded : Bool) :
    readAuthority "http" bounded text
      = .ok ({ host := some host, port := port.filter (· ≠ 80) }, []) := by
  -- The scheme is one of the web, so the host is read by its rules.
  have hweb : readHost "http" front = .ok (some host) := by
    rw [readHost, if_pos (by decide), hhost]
    rfl
  rw [readAuthority, splitAtLastAt_of_notMem hcredentials]
  simp only [readHostAndPort, hsplit]
  refine bind_eq_ok.mpr ⟨_, hweb, ?_⟩
  cases port with
  | none => rfl
  | some port =>
    simp only [portText, readPort_numeral, keptPort_http]
    rfl

/-- Host and port are read back, but a port that goes without saying. -/
theorem readAuthority_append {front : List Char} (hfront : Host.IsPart front)
    {host : Host} (hhost : Host.readWeb front = .ok host) (port : Option UInt16) (bounded : Bool) :
    readAuthority "http" bounded (front ++ portText port)
      = .ok ({ host := some host, port := port.filter (· ≠ 80) }, []) := by
  have hcredentials : '@' ∉ front ++ portText port := by
    rw [List.mem_append, not_or]
    exact ⟨fun hat => (hfront.notMem hat).2 (by simp), notMem_portText (by decide)⟩
  have hsplit : splitHost false (front ++ portText port) = (front, portText port) :=
    splitHost_append hfront (by cases port <;> simp [portText])
  exact readAuthority_of_splitHost hcredentials hsplit hhost bounded

/-! ## §4 Services -/

/-- The URL of a service. -/
def ofService (host : Host) (port : Option UInt16) (query : Option String) : Url :=
  ⟨"http", some { host := some host, port := port }, "/", query, none⟩

/-- The text of such a URL, part by part. -/
theorem toList_render_ofService (host : Host) (port : Option UInt16) (query : Option String) :
    (ofService host port query).render.toList = "http:".toList ++ ('/' :: '/' ::
      (host.render.toList ++ portText port ++ ['/']) ++ queryText query) := by
  cases port <;> cases query <;>
    simp [ofService, render, renderAuthority, renderCredentials, portText, queryText]

/-- Slashes bound the authority, and the path behind it is the shortest one. -/
theorem readBody_append {front : List Char} (hne : front ≠ [])
    (hfront : ∀ c ∈ front, Host.IsPlainChar c) {host : Host}
    (hhost : Host.readWeb front = .ok host) (port : Option UInt16) (tail : Bool) :
    readBody "http" tail ('/' :: '/' :: (front ++ portText port ++ ['/']))
      = .ok (some { host := some host, port := port.filter (· ≠ 80) }, "/") := by
  have hslash : ∀ c ∈ front ++ portText port, (!isSlash true c) = true := by
    intro c hc
    rcases mem_authority hfront hc with hplain | rfl
    · have hslash : c ≠ '/' := hplain.ne (by decide)
      have hback : c ≠ '\\' := hplain.ne (by decide)
      simp [isSlash, hslash, hback]
    · decide
  -- Every slash before the host is dropped, and there are two.
  have hdrop : ('/' :: '/' :: (front ++ portText port ++ ['/'])).dropWhile (isSlash true)
      = front ++ portText port ++ ['/'] := by
    obtain ⟨c, rest, rfl⟩ := List.exists_cons_of_ne_nil hne
    have hc := hslash c List.mem_cons_self
    rw [List.dropWhile_cons_of_pos (by decide), List.dropWhile_cons_of_pos (by decide),
      List.append_assoc, List.cons_append, List.dropWhile_cons_of_neg (by simpa using hc)]
  have hweb : isWeb "http" = true := by decide
  rw [readBody, if_pos hweb, hdrop, readWithAuthority]
  simp only [hweb, span_append hslash (c := '/') (by decide)]
  have hpart : Host.IsPart front := .name hne fun c hc =>
    Host.isNameChar_of_isDomainChar (hfront c hc).isDomainChar
  refine bind_eq_ok.mpr ⟨_, readAuthority_append hpart hhost port _, ?_⟩
  -- The path is one empty segment.
  have hpath : (UrlPath.read ⟨true, false⟩ ['/']).text = ['/'] := by
    decide
  simp [hpath]
  rfl

/-- The part before the query has neither a fragment nor a query in it. -/
private theorem isInner_of_mem_body {front : List Char}
    (hfront : ∀ c ∈ front, Host.IsPlainChar c) {port : Option UInt16} {c : Char}
    (hc : c ∈ '/' :: '/' :: (front ++ portText port ++ ['/'])) : IsInner c ∧ c ≠ '?' := by
  have hslash : IsInner '/' ∧ '/' ≠ '?' := ⟨⟨by decide, by decide⟩, by decide⟩
  simp only [List.mem_cons, List.mem_append, List.not_mem_nil, or_false] at hc
  rcases hc with rfl | rfl | hc | rfl
  · exact hslash
  · exact hslash
  · rcases mem_authority hfront (List.mem_append.mpr hc) with hplain | rfl
    · have hrange := hplain.toNat
      exact ⟨⟨by omega, hplain.ne (by decide)⟩, hplain.ne (by decide)⟩
    · exact ⟨⟨by decide, by decide⟩, by decide⟩
  · exact hslash

/-- Nothing is trimmed from the URL of a service. -/
private theorem isInner_of_mem_render {host : Host} {port : Option UInt16} {query : Option String}
    (hhost : ∀ c ∈ host.render.toList, Host.IsPlainChar c)
    (hquery : ∀ q ∈ query, ∀ c ∈ q.toList, IsInner c) {c : Char}
    (hc : c ∈ (ofService host port query).render.toList) : IsInner c := by
  rw [toList_render_ofService, List.mem_append, List.mem_append] at hc
  -- Scheme, body and query are looked at on their own.
  rcases hc with hscheme | hbody | htail
  · have hall : ∀ d ∈ ['h', 't', 't', 'p', ':'], IsInner d := by simp [IsInner]
    exact hall c (by simpa using hscheme)
  · exact (isInner_of_mem_body hhost hbody).1
  · cases query with
    | none => cases htail
    | some q =>
      rcases List.mem_cons.mp htail with rfl | hc
      · exact ⟨by decide, by decide⟩
      · exact hquery q rfl c hc

/-- **The URL of a service is read back**, but for a port that goes without saying. -/
theorem read_render_ofService {host : Host} (hhost : PlainHost host.render)
    (hread : Host.readWeb host.render.toList = .ok host) (port : Option UInt16)
    {query : Option String}
    (hquery : ∀ q ∈ query, ∀ c ∈ q.toList, Percent.keptInQuery true c = true) :
    read (ofService host port query).render
      = .ok (ofService host (port.filter (· ≠ 80)) query) := by
  have hchars := hhost.isPlainChar
  have hinner : ∀ q ∈ query, ∀ c ∈ q.toList, IsInner c := by
    intro q hq c hc
    have hkept := Percent.keptInQuery_toNat (hquery q hq c hc)
    exact ⟨hkept.1, hkept.2.2⟩
  -- From here on nothing is trimmed or escaped, so that the parts are those that were written.
  have hcut : splitTail ('/' :: '/' :: (host.render.toList ++ portText port ++ ['/'])
        ++ queryText query)
      = ('/' :: '/' :: (host.render.toList ++ portText port ++ ['/']),
        query.map String.toList, none) := by
    apply splitTail_queryText
    · intro c hc
      have hbody := isInner_of_mem_body hchars hc
      exact ⟨hbody.1.2, hbody.2⟩
    · exact fun q hq c hc => (hinner q hq c hc).2
  rw [read, trimEnds_of_forall fun c hc => isInner_of_mem_render hchars hinner hc,
    toList_render_ofService, splitScheme_http]
  simp only [hcut]
  rw [if_neg (by decide),
    UrlPath.withoutBreaks_of_forall fun c hc => (isInner_of_mem_body hchars hc).1,
    readBody_append hhost.ne_nil hchars hread]
  cases query with
  | none => rfl
  | some q =>
    have hweb : (isWeb "http" || decide ("http" = "file")) = true := by decide
    simp only [Option.map_some, UrlPath.withoutBreaks_of_forall (hinner q rfl), hweb,
      Percent.encode_of_forall (hquery q rfl), String.ofList_toList]
    rfl

end Url

end Shuffle
