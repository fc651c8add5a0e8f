import Mathlib
import Shuffle.Key.Codec
import Shuffle.Proofs.Fallible
import Shuffle.Proofs.Text.Form

/-!
# Byte strings in base 64 are read back

Every byte string is read back from its written form: the symbols that are written are all known,
they are never one more than groups of four, and the bits that the last one has to spare are zero.

- `Base64Url.octets_sextets`: six-bit values spell the octets that they were taken from.
- `Base64Url.decode_encode` is the round trip of a byte string, and `keyOfText_keyToText` that of an
  encoded key.
-/

namespace Shuffle

namespace Base64Url

/-! ## §1 Symbols -/

/-- Symbols are read back, have one octet each, and are no padding. -/
private theorem symbol_spec : ∀ v < 64, value? (symbol v) = some v ∧
    String.utf8EncodeChar (Char.ofNat (symbol v).toNat) = [symbol v] ∧
    Char.ofNat (symbol v).toNat ≠ '=' := by
  decide

/-- A symbol is read as the number that it was written for. -/
theorem value?_symbol {v : Nat} (h : v < 64) : value? (symbol v) = some v := (symbol_spec v h).1

/-- Six-bit values have six bits. -/
theorem lt_of_mem_sextets {bytes : Bytes} {v : Nat} (h : v ∈ sextets bytes) : v < 64 := by
  -- By the recursion of the writer, which takes three octets at a time; the last two cases are
  -- rests.
  fun_induction sextets bytes with
  | case1 a b c rest ih =>
    have ha := a.toNat_lt
    have hb := b.toNat_lt
    have hc := c.toNat_lt
    simp only [List.mem_cons] at h
    rcases h with rfl | rfl | rfl | rfl | h
    · omega
    · omega
    · omega
    · omega
    · exact ih h
  | case2 a b =>
    have ha := a.toNat_lt
    have hb := b.toNat_lt
    simp only [List.mem_cons, List.not_mem_nil, or_false] at h
    rcases h with rfl | rfl | rfl <;> omega
  | case3 a =>
    have ha := a.toNat_lt
    simp only [List.mem_cons, List.not_mem_nil, or_false] at h
    rcases h with rfl | rfl <;> omega
  | case4 => cases h

/-! ## §2 Six-bit values -/

/-- The octets are put together again from their bits. -/
theorem octets_sextets (bytes : Bytes) : octets (sextets bytes) = bytes := by
  -- The three octets of a block, each put together again from the sextets that hold its bits.
  have hfirst (a : UInt8) (b : Nat) (hb : b < 16) :
      UInt8.ofNat (a.toNat / 4 * 4 + (a.toNat % 4 * 16 + b) / 16) = a := by
    apply UInt8.toNat_inj.mp
    have ha := a.toNat_lt
    rw [UInt8.toNat_ofNat']
    omega
  have hsecond (a b : UInt8) (c : Nat) (hc : c < 4) :
      UInt8.ofNat ((a.toNat % 4 * 16 + b.toNat / 16) % 16 * 16 + (b.toNat % 16 * 4 + c) / 4)
        = b := by
    apply UInt8.toNat_inj.mp
    have hb := b.toNat_lt
    rw [UInt8.toNat_ofNat']
    omega
  have hthird (b c : UInt8) :
      UInt8.ofNat ((b.toNat % 16 * 4 + c.toNat / 64) % 4 * 64 + c.toNat % 64) = c := by
    apply UInt8.toNat_inj.mp
    have hc := c.toNat_lt
    rw [UInt8.toNat_ofNat']
    omega
  fun_induction sextets bytes with
  | case1 a b c rest ih =>
    have hb := b.toNat_lt
    have hc := c.toNat_lt
    rw [octets, hfirst a _ (by omega), hsecond a b _ (by omega), hthird, ih]
  | case2 a b =>
    have hb := b.toNat_lt
    have hrest := hsecond a b 0 (by decide)
    rw [Nat.add_zero] at hrest
    rw [octets, hfirst a _ (by omega), hrest]
  | case3 a =>
    have hrest := hfirst a 0 (by decide)
    rw [Nat.add_zero] at hrest
    rw [octets, hrest]
  | case4 => rfl

/-- No symbol is left alone, and the last one spares no bit that is set. -/
theorem sextets_ends (bytes : Bytes) : (sextets bytes).length % 4 ≠ 1 ∧
    ∀ last, (sextets bytes).getLast? = some last →
      last % spareModulus (sextets bytes).length = 0 := by
  fun_induction sextets bytes with
  -- A whole block adds four sextets, so the rest decides both facts.
  | case1 a b c rest ih =>
    obtain ⟨hlength, hlast⟩ := ih
    have hmodulus (n : Nat) : spareModulus (n + 4) = spareModulus n := by
      simp [spareModulus]
    constructor
    · simp only [List.length_cons]
      omega
    · intro last h
      simp only [List.length_cons, hmodulus]
      cases hrest : sextets rest with
      | nil => exact Nat.mod_one _
      | cons v vs =>
        rw [hrest] at hlast h
        exact hlast last (by simpa using h)
  -- Two octets leave two spare bits in the third sextet, one octet leaves four in the second.
  | case2 a b =>
    refine ⟨by simp, fun last h => ?_⟩
    obtain rfl := Option.some.inj h
    show b.toNat % 16 * 4 % 4 = 0
    omega
  | case3 a =>
    refine ⟨by simp, fun last h => ?_⟩
    obtain rfl := Option.some.inj h
    show a.toNat % 4 * 16 % 16 = 0
    omega
  | case4 => exact ⟨by decide, nofun⟩

/-! ## §3 Round trips -/

/-- The octets of the written form are its symbols. -/
theorem ofText_encode (bytes : Bytes) :
    Bytes.ofText (encode bytes) = (sextets bytes).map symbol := by
  have hoctets {values : List Nat} (h : ∀ v ∈ values, v < 64) :
      (values.map fun v => Char.ofNat (symbol v).toNat).flatMap String.utf8EncodeChar
        = values.map symbol := by
    induction values with
    | nil => rfl
    | cons v rest ih =>
      have hfirst := (symbol_spec v (h v List.mem_cons_self)).2.1
      rw [List.map_cons, List.flatMap_cons, hfirst, List.map_cons, List.singleton_append,
        ih fun w hw => h w (List.mem_cons_of_mem v hw)]
  rw [encode, Bytes.ofText_ofList, hoctets fun v hv => lt_of_mem_sextets hv]

/-- No symbol of the alphabet is foreign. -/
private theorem firstForeign?_symbols {values : List Nat} (h : ∀ v ∈ values, v < 64)
    (offset : Nat) : firstForeign? offset (values.map symbol) = none := by
  induction values generalizing offset with
  | nil => rfl
  | cons v rest ih =>
    rw [List.map_cons, firstForeign?, value?_symbol (h v List.mem_cons_self)]
    exact ih (fun w hw => h w (List.mem_cons_of_mem v hw)) _

/-- **A byte string is read back from its written form.** -/
theorem decode_encode (bytes : Bytes) : decode (Bytes.ofText (encode bytes)) = .ok bytes := by
  obtain ⟨hlength, hlast⟩ := sextets_ends bytes
  have hbound : ∀ v ∈ sextets bytes, v < 64 := fun v hv => lt_of_mem_sextets hv
  have hvalues : ((sextets bytes).map symbol).map (fun s => (value? s).getD 0) = sextets bytes := by
    rw [List.map_map]
    refine (List.map_congr_left fun v hv => ?_).trans (List.map_id _)
    simp [value?_symbol (hbound v hv)]
  -- The three refusals are passed one by one: a bad length, a foreign symbol, spare bits set.
  rw [ofText_encode, decode, foreignTail?, List.length_map, if_neg hlength,
    firstForeign?_symbols hbound]
  show (if (sextets bytes).length % 4 = 1 then _ else _) = _
  rw [if_neg hlength, hvalues]
  dsimp only
  rw [octets_sextets, List.getLast?_map]
  cases hend : (sextets bytes).getLast? with
  -- Without a last sextet there was nothing to write.
  | none =>
    have hnil : bytes = [] := by
      rw [← octets_sextets bytes, List.getLast?_eq_none_iff.mp hend]
      rfl
    rw [hnil]
    rfl
  | some last =>
    have hspare := hlast last hend
    have hlt := hbound last (List.mem_of_getLast? hend)
    simp only [Option.map_some, value?_symbol hlt, Option.getD_some, hspare, if_true]

end Base64Url

/-- **An encoded key is read back from its text.** -/
theorem keyOfText_keyToText (key : Bytes) : keyOfText (keyToText key) = .ok key := by
  have hpadding : ∀ c ∈ (keyToText key).toList, c ≠ '=' := by
    intro c hc
    rw [keyToText, Base64Url.encode, String.toList_ofList] at hc
    obtain ⟨v, hv, rfl⟩ := List.mem_map.mp hc
    exact (Base64Url.symbol_spec v (Base64Url.lt_of_mem_sextets hv)).2.2
  -- No padding is written, so none is taken off.
  have htrimmed : ((keyToText key).toList.reverse.dropWhile (· = '=')).reverse
      = (keyToText key).toList := by
    rw [List.dropWhile_eq_self_iff.mpr, List.reverse_reverse]
    intro hpos
    have hmem := List.mem_reverse.mp (List.get_mem (keyToText key).toList.reverse ⟨0, hpos⟩)
    simpa using hpadding _ hmem
  rw [keyOfText, htrimmed, String.ofList_toList, keyToText, Base64Url.decode_encode]
  rfl

end Shuffle
