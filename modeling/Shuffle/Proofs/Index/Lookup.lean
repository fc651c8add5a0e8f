import Mathlib
import Shuffle.Index.Lookup
import Shuffle.Proofs.Index.Log

/-!
# Lookups answer what a scan answers

On entries that rise, halving finds what going through them from the first one finds.

- `bisect_spec` is the invariant of halving.
- `Index.findNearest?_eq_scan?` and `Index.find?_eq_find?` are the two searches.
- `Index.lookup?_eq_scan?`: an exact match, where there is one, is the first key that does not
  sort before the one looked up, so trying it first makes no difference.
- `Index.scan?_mono`: rows of a later key begin no earlier.
-/

namespace Shuffle

open Std

/-! ## §1 Halving -/

/-- Halving ends at the last position that is not `above`, or at the base if there is none. -/
theorem bisect_spec {above : Nat → Bool} {base size : Nat} (hpos : 0 < size)
    (hmono : ∀ p q, base ≤ p → p ≤ q → q < base + size → above p = true → above q = true) :
    base ≤ bisect above base size ∧ bisect above base size < base + size ∧
      (bisect above base size = base ∨ above (bisect above base size) = false) ∧
      ∀ q, bisect above base size < q → q < base + size → above q = true := by
  -- By the recursion of the search, which halves the stretch until one place is left.
  fun_induction bisect above base size with
  | case1 base size hsize half ih =>
    have hhalf : half = size / 2 := rfl
    by_cases habove : above (base + half) = true
    · -- The upper half is above and is given up.
      simp only [habove, if_true, dite_true] at ih ⊢
      obtain ⟨hge, hlt, hend, hup⟩ := ih (by omega)
        (fun p q hp hpq hq => hmono p q hp hpq (by omega))
      refine ⟨hge, by omega, hend, fun q hq hqs => ?_⟩
      by_cases hin : q < base + (size - half)
      · exact hup q hq hin
      · exact hmono (base + half) q (by omega) (by omega) hqs habove
    · -- The middle is not above, so the search goes on from it.
      have hbelow : above (base + half) = false := Bool.eq_false_iff.mpr habove
      simp only [hbelow, Bool.false_eq_true, if_false, dite_false] at ih ⊢
      obtain ⟨hge, hlt, hend, hup⟩ := ih (by omega)
        (fun p q hp hpq hq => hmono p q (by omega) hpq (by omega))
      refine ⟨by omega, by omega, ?_, fun q hq hqs => hup q hq (by omega)⟩
      rcases hend with hend | hend
      · exact Or.inr (by rw [hend, hbelow])
      · exact Or.inr hend
  | case2 base size hsize =>
    exact ⟨by omega, by omega, Or.inl rfl, fun q hq hqs => by omega⟩

/-- The first entry from an earlier key on is not behind the first one from a later key on. -/
theorem KeySchema.Rising.find?_le {schema : KeySchema} {entries : List IndexEntry}
    (h : schema.Rising entries) {key later : Tuple} (hle : (schema.compare key later).isLE)
    {last : IndexEntry}
    (hlast : (entries.find? fun e => schema.compare e.key later != .lt) = some last) :
    ∃ first, (entries.find? fun e => schema.compare e.key key != .lt) = some first ∧
      first.offset ≤ last.offset := by
  induction entries with
  | nil => cases hlast
  | cons e rest ih =>
    obtain ⟨hhead, htail⟩ := List.pairwise_cons.mp h
    by_cases hkey : schema.compare e.key key = .lt
    · -- Both searches go on behind `e`.
      have hlater : schema.compare e.key later = .lt := TransCmp.lt_of_lt_of_isLE hkey hle
      rw [List.find?_cons_of_neg (by simp [hlater])] at hlast
      rw [List.find?_cons_of_neg (by simp [hkey])]
      exact ih htail hlast
    · -- The first search ends at `e`, and no offset is smaller.
      refine ⟨e, List.find?_cons_of_pos (by simpa using hkey), ?_⟩
      rcases List.mem_cons.mp (List.mem_of_find?_eq_some hlast) with rfl | hmem
      · exact UInt64.le_refl _
      · exact (hhead last hmem).2

namespace Index

variable {index : Index}

/-! ## §2 Positions and keys -/

/-- The offset of the first key that does not sort before the given one. -/
def scan? (index : Index) (key : Tuple) : Option UInt64 :=
  (index.entries.toList.find? fun e => index.schema.compare e.key key != .lt).map (·.offset)

/-- Rows of a later key begin no earlier, and if they are found, so are those of an earlier key. -/
theorem scan?_mono (h : index.schema.Rising index.entries.toList) {key later : Tuple}
    (hle : (index.schema.compare key later).isLE) {stop : UInt64}
    (hlater : index.scan? later = some stop) :
    ∃ start, index.scan? key = some start ∧ start ≤ stop := by
  obtain ⟨last, hlast, rfl⟩ := Option.map_eq_some_iff.mp hlater
  obtain ⟨first, hfirst, hoffset⟩ := h.find?_le hle hlast
  exact ⟨first.offset, by rw [scan?, hfirst, Option.map_some], hoffset⟩

/-- The comparison at a place of the index is that with its key. -/
theorem compareAt_eq {p : Nat} (hp : p < index.entries.size) (key : Tuple) :
    index.compareAt key p = some (index.schema.compare index.entries[p].key key) := by
  rw [compareAt, Array.getElem?_eq_getElem hp, Option.map_some]

/-- A later key sorts after an earlier one. -/
theorem compare_lt_of_lt (h : index.schema.Rising index.entries.toList) {p q : Nat}
    (hp : p < index.entries.size) (hq : q < index.entries.size) (hpq : p < q) :
    index.schema.compare index.entries[p].key index.entries[q].key = .lt := by
  have hpair := List.pairwise_iff_getElem.mp h p q hp hq hpq
  exact hpair.1

/-- Keys do not fall along the index. -/
theorem compare_isLE_of_le (h : index.schema.Rising index.entries.toList) {p q : Nat}
    (hp : p < index.entries.size) (hq : q < index.entries.size) (hpq : p ≤ q) :
    (index.schema.compare index.entries[p].key index.entries[q].key).isLE := by
  rcases Nat.lt_or_eq_of_le hpq with hlt | rfl
  · rw [compare_lt_of_lt h hp hq hlt]
    rfl
  · exact ReflCmp.isLE_rfl

/-! ## §3 The two searches -/

/-- The lower bound parts the keys that sort before the given one from the others. -/
theorem lowerBound_spec (h : index.schema.Rising index.entries.toList) (key : Tuple) {p : Nat}
    (hp : p < index.entries.size) :
    p < index.lowerBound key ↔ index.schema.compare index.entries[p].key key = .lt := by
  -- Keys rise, so behind one that does not sort before the given key none does.
  have hmono : ∀ p q, 0 ≤ p → p ≤ q → q < 0 + index.entries.size →
      (index.compareAt key p != some .lt) = true →
        (index.compareAt key q != some .lt) = true := by
    intro p q _ hpq hq hkey
    rw [Nat.zero_add] at hq
    have hp : p < index.entries.size := Nat.lt_of_le_of_lt hpq hq
    rw [compareAt_eq hp] at hkey
    rw [compareAt_eq hq]
    simp only [bne_iff_ne, ne_eq, Option.some.injEq] at hkey ⊢
    intro hlt
    exact hkey (TransCmp.lt_of_isLE_of_lt (compare_isLE_of_le h hp hq hpq) hlt)
  obtain ⟨-, hlt, hend, hup⟩ := bisect_spec (Nat.zero_lt_of_lt hp) hmono
  rw [lowerBound, size]
  generalize bisect (fun p => index.compareAt key p != some .lt) 0 index.entries.size = last at *
  rw [Nat.zero_add] at hlt hup
  have hafter : ∀ hq : last < p, index.schema.compare index.entries[p].key key ≠ .lt := by
    intro hq
    simpa [compareAt_eq hp] using hup p hq hp
  by_cases hbelow : index.compareAt key last = some .lt
  · -- Everything up to `last` sorts before the key.
    have hlast : index.schema.compare index.entries[last].key key = .lt := by
      simpa [compareAt_eq hlt] using hbelow
    rw [if_pos hbelow]
    constructor
    · intro hple
      exact TransCmp.lt_of_isLE_of_lt (compare_isLE_of_le h hp hlt (Nat.le_of_lt_succ hple)) hlast
    · intro hkey
      by_contra hq
      exact hafter (by omega) hkey
  · -- Halving stopped at the first position, which does not sort before the key.
    have hzero : last = 0 := by
      rcases hend with hend | hend
      · exact hend
      · exact absurd (by simpa using hend) hbelow
    rw [if_neg hbelow]
    subst hzero
    refine ⟨fun hq => absurd hq (Nat.not_lt_zero p), fun hkey => ?_⟩
    rcases Nat.eq_zero_or_pos p with rfl | hq
    · exact absurd (by rw [compareAt_eq hp, hkey]) hbelow
    · exact absurd hkey (hafter hq)

/-- The search for the nearest key answers what a scan answers. -/
theorem findNearest?_eq_scan? (h : index.schema.Rising index.entries.toList) (key : Tuple) :
    index.findNearest? key = index.scan? key := by
  rw [findNearest?, scan?]
  congr 1
  symm
  by_cases hbound : index.lowerBound key < index.entries.size
  · -- The entry at the lower bound is the first one that does not sort before the key.
    rw [Array.getElem?_eq_getElem hbound, List.find?_eq_some_iff_getElem]
    refine ⟨?_, index.lowerBound key, hbound, rfl, fun q hq => ?_⟩
    · have hkey := (lowerBound_spec h key hbound).not.mp (Nat.lt_irrefl _)
      exact bne_iff_ne.mpr hkey
    · have hkey := (lowerBound_spec h key (Nat.lt_trans hq hbound)).mp hq
      simpa using hkey
  · -- The bound is behind all entries, and each sorts before the key.
    rw [Array.getElem?_eq_none (Nat.le_of_not_lt hbound), List.find?_eq_none]
    intro e he
    obtain ⟨p, hp, rfl⟩ := List.getElem_of_mem he
    have hkey := (lowerBound_spec h key hp).mp (Nat.lt_of_lt_of_le hp (Nat.le_of_not_lt hbound))
    simpa using hkey

/-- Halving for an exact match ends at the key that is equal to the given one. -/
theorem bisect_eq_of_compare_eq (h : index.schema.Rising index.entries.toList) {key : Tuple}
    {p : Nat} (hp : p < index.entries.size)
    (hkey : index.schema.compare index.entries[p].key key = .eq) :
    bisect (fun p => index.compareAt key p == some .gt) 0 index.entries.size = p := by
  -- Keys rise, so behind one that sorts after the given key all do.
  have hmono : ∀ p q, 0 ≤ p → p ≤ q → q < 0 + index.entries.size →
      (index.compareAt key p == some .gt) = true →
        (index.compareAt key q == some .gt) = true := by
    intro p q _ hpq hq hkey
    rw [Nat.zero_add] at hq
    have hp : p < index.entries.size := Nat.lt_of_le_of_lt hpq hq
    rw [compareAt_eq hp] at hkey
    rw [compareAt_eq hq]
    simp only [beq_iff_eq, Option.some.injEq] at hkey ⊢
    have hge := OrientedCmp.isGE_iff_isLE.mpr (compare_isLE_of_le h hp hq hpq)
    exact TransCmp.gt_of_isGE_of_gt hge hkey
  obtain ⟨-, hlt, hend, hup⟩ := bisect_spec (Nat.zero_lt_of_lt hp) hmono
  generalize bisect (fun p => index.compareAt key p == some .gt) 0 index.entries.size = last at *
  rw [Nat.zero_add] at hlt hup
  -- The equal key is not above, and everything behind the last position is.
  have hge : p ≤ last := by
    by_contra hnot
    have habove := hup p (Nat.lt_of_not_le hnot) hp
    simp [compareAt_eq hp, hkey] at habove
  rcases Nat.lt_or_eq_of_le hge with hgt | heq
  · -- A position behind an equal key would be above.
    have habove : index.schema.compare index.entries[last].key key = .gt :=
      OrientedCmp.gt_of_lt (TransCmp.lt_of_eq_of_lt (OrientedCmp.eq_symm hkey)
        (compare_lt_of_lt h hp hlt hgt))
    rcases hend with rfl | hend
    · omega
    · simp [compareAt_eq hlt, habove] at hend
  · exact heq.symm

/-- The search for an exact match finds it wherever there is one. -/
theorem find?_eq_find? (h : index.schema.Rising index.entries.toList) (key : Tuple) :
    index.find? key
      = (index.entries.toList.find? fun e => index.schema.compare e.key key == .eq).map
          (·.offset) := by
  by_cases hex : ∃ p, ∃ hp : p < index.entries.size,
      index.schema.compare index.entries[p].key key = .eq
  · -- Keys differ, so the equal one is the first that a scan for it meets.
    obtain ⟨p, hp, hkey⟩ := hex
    have hfirst : index.entries.toList.find? (fun e => index.schema.compare e.key key == .eq)
        = some index.entries[p] := by
      rw [List.find?_eq_some_iff_getElem]
      refine ⟨by simpa using hkey, p, hp, rfl, fun q hq => ?_⟩
      have hbefore := TransCmp.lt_of_lt_of_eq (compare_lt_of_lt h (Nat.lt_trans hq hp) hp hq) hkey
      simp [hbefore]
    rw [find?, size, bisect_eq_of_compare_eq h hp hkey, Array.getElem?_eq_getElem hp, hfirst]
    simp [hkey]
  · have hnone : ∀ e ∈ index.entries.toList, index.schema.compare e.key key ≠ .eq := by
      intro e he hkey
      obtain ⟨p, hp, rfl⟩ := List.getElem_of_mem he
      exact hex ⟨p, hp, hkey⟩
    have hfirst : index.entries.toList.find? (fun e => index.schema.compare e.key key == .eq)
        = none := by
      rw [List.find?_eq_none]
      exact fun e he => by simpa using hnone e he
    -- Wherever halving ends, the key there is not equal, and the search says so.
    rw [find?, hfirst]
    split
    · next e he =>
      rw [if_neg (hnone e (Array.mem_toList_iff.mpr (Array.mem_of_getElem? he)))]
      rfl
    · rfl

/-- **Lookups are scans**: where the rows from a key on begin is the offset of the first key that
does not sort before it. -/
theorem lookup?_eq_scan? (h : index.schema.Rising index.entries.toList) (key : Tuple) :
    index.lookup? key = index.scan? key := by
  rw [lookup?, find?_eq_find? h, findNearest?_eq_scan? h]
  cases hfind : index.entries.toList.find? fun e => index.schema.compare e.key key == .eq with
  | none => rfl
  | some e =>
    -- Entries in front of an equal key sort before it, so the scan stops at it too.
    obtain ⟨hkey, p, hp, rfl, -⟩ := List.find?_eq_some_iff_getElem.mp hfind
    have hkey : index.schema.compare index.entries[p].key key = .eq := beq_iff_eq.mp hkey
    have hfirst : index.entries.toList.find? (fun e => index.schema.compare e.key key != .lt)
        = some index.entries[p] := by
      rw [List.find?_eq_some_iff_getElem]
      refine ⟨by simp [hkey], p, hp, rfl, fun q hq => ?_⟩
      have hbefore := TransCmp.lt_of_lt_of_eq (compare_lt_of_lt h (Nat.lt_trans hq hp) hp hq) hkey
      simp [hbefore]
    rw [scan?, hfirst]
    rfl

end Index

end Shuffle
