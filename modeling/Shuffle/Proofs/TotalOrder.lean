import Mathlib
import Shuffle.Float8

/-!
# The total order of doubles

The order of IEEE 754 puts all patterns in one line: numbers by their values, `-0` before `0`, NaNs
beyond all numbers on the side of their sign, and NaNs of one sign by their fractions. The rank of a
pattern is its place in that line, and every place is taken.

- `Float8.value` is the number that a pattern stands for.
- `Float8.Precedes` is the order in the words of the standard, and `Float8.precedes_iff` says that
  patterns are ordered as their ranks.
- `Float8.TotalOrder` adds equality, and `Float8.cmp_ne_gt_iff` says that doubles compare in it.
- `Float8.ncard_between` counts the patterns from one to another.
-/

namespace Shuffle

namespace Float8

variable {a b : Float8}

/-! ## §1 Values -/

/-- The magnitude of a number. -/
noncomputable def magnitude (x : Float8) : EReal :=
  if x.isInfinite then ⊤ else ((x.parts.1 * 2 ^ x.parts.2 : ℝ) : EReal)

/-- The number that a pattern stands for, unless it is a NaN. -/
noncomputable def value (x : Float8) : EReal :=
  if x.isNegative then -x.magnitude else x.magnitude

/-- All bits but the sign, as one number. -/
def unsignedBits (x : Float8) : Nat := x.exponentField * implicitBit + x.fraction

theorem fraction_lt (x : Float8) : x.fraction < implicitBit := Nat.mod_lt _ (by decide)

theorem exponentField_lt (x : Float8) : x.exponentField < 2048 := Nat.mod_lt _ (by decide)

/-- The sign is the highest bit, and the other bits are the magnitude. -/
theorem toNat_bits (x : Float8) :
    x.bits.toNat = (if x.isNegative then signBit else 0) + x.unsignedBits := by
  have hbits := x.bits.toNat_lt
  unfold isNegative unsignedBits exponentField fraction implicitBit signBit
  split_ifs with hneg <;> simp only [decide_eq_true_eq] at hneg <;> omega

/-- The sign is the highest bit. -/
theorem unsignedBits_lt (x : Float8) : x.unsignedBits < signBit := by
  have hfraction := x.fraction_lt
  have hexponent := x.exponentField_lt
  unfold unsignedBits signBit
  unfold implicitBit at *
  omega

/-- The magnitude of a finite number, counted in the least one. -/
def units (x : Float8) : Nat :=
  if x.exponentField = 0 then x.fraction
  else (implicitBit + x.fraction) * 2 ^ (x.exponentField - 1)

/-- A finite magnitude is a whole number of the smallest unit. -/
theorem magnitude_eq (hfinite : a.isInfinite = false) :
    a.magnitude = ((a.units * 2 ^ (-1074 : ℤ) : ℝ) : EReal) := by
  rw [magnitude, if_neg (by simp [hfinite]), parts, units]
  split_ifs with hsubnormal
  · rfl
  · -- The exponent is split into the unit and what is above it.
    have hexponent : (2 : ℝ) ^ ((a.exponentField : ℤ) - 1075)
        = 2 ^ (a.exponentField - 1) * 2 ^ (-1074 : ℤ) := by
      rw [← zpow_natCast, ← zpow_add₀ two_ne_zero]
      congr 1
      omega
    have hreal : ((a.fraction + implicitBit : ℕ) : ℝ) * 2 ^ ((a.exponentField : ℤ) - 1075)
        = (((implicitBit + a.fraction) * 2 ^ (a.exponentField - 1) : ℕ) : ℝ) * 2 ^ (-1074 : ℤ) := by
      rw [hexponent]
      push_cast
      ring
    exact congrArg Real.toEReal hreal

/-- Magnitudes are in the order of their bits. The fractions of one exponent end where the next
exponent begins. -/
theorem units_lt (h : a.unsignedBits < b.unsignedBits) : a.units < b.units := by
  have ha := a.fraction_lt
  have hb := b.fraction_lt
  unfold unsignedBits at h
  rcases Nat.lt_trichotomy a.exponentField b.exponentField with hexponent | hexponent | hexponent
  · -- The exponent decides: a value below the next power of two, the other from it on.
    have hbelow : a.units < implicitBit * 2 ^ a.exponentField := by
      unfold units
      split_ifs with hzero
      · rw [hzero]
        omega
      · have hpow : 2 ^ a.exponentField = 2 * 2 ^ (a.exponentField - 1) := by
          rw [← Nat.pow_succ', Nat.succ_eq_add_one]
          congr 1
          omega
        rw [hpow, ← Nat.mul_assoc]
        exact Nat.mul_lt_mul_of_pos_right (by omega) (Nat.two_pow_pos _)
    have habove : implicitBit * 2 ^ a.exponentField ≤ b.units := by
      rw [units, if_neg (by omega)]
      exact Nat.mul_le_mul (Nat.le_add_right _ _) (Nat.pow_le_pow_right (by decide) (by omega))
    exact hbelow.trans_le habove
  · -- Under one exponent the fraction decides.
    have hfraction : a.fraction < b.fraction := by
      rw [hexponent] at h
      omega
    unfold units
    rw [hexponent]
    split_ifs
    · exact hfraction
    · exact Nat.mul_lt_mul_of_pos_right (by omega) (Nat.two_pow_pos _)
  · -- A larger exponent would make larger bits.
    have hmul := Nat.mul_le_mul_right implicitBit (Nat.succ_le_of_lt hexponent)
    rw [Nat.succ_mul] at hmul
    omega

/-! ## §2 Classes of patterns -/

/-- The bits of infinity, without a sign. -/
def infinityBits : Nat := 2047 * implicitBit

/-- The classes are intervals of the unsigned bits. Above infinity there is no number. -/
theorem isNaN_iff : a.isNaN = true ↔ infinityBits < a.unsignedBits := by
  have hfraction := a.fraction_lt
  have hexponent := a.exponentField_lt
  simp only [isNaN, unsignedBits, infinityBits, implicitBit, Bool.and_eq_true, beq_iff_eq,
    bne_iff_ne] at *
  omega

/-- Infinity is one pattern of the unsigned bits. -/
theorem isInfinite_iff : a.isInfinite = true ↔ a.unsignedBits = infinityBits := by
  have hfraction := a.fraction_lt
  have hexponent := a.exponentField_lt
  simp only [isInfinite, unsignedBits, infinityBits, implicitBit, Bool.and_eq_true, beq_iff_eq] at *
  omega

/-- Zero is one pattern of the unsigned bits. -/
theorem isZero_iff : a.isZero = true ↔ a.unsignedBits = 0 := by
  simp only [isZero, unsignedBits, implicitBit, Bool.and_eq_true, beq_iff_eq]
  omega

/-- Among NaNs, the fraction is all that differs but the sign. -/
theorem fraction_lt_iff (ha : a.isNaN = true) (hb : b.isNaN = true) :
    a.fraction < b.fraction ↔ a.unsignedBits < b.unsignedBits := by
  have ha' : a.exponentField = 2047 := by simp_all [isNaN]
  have hb' : b.exponentField = 2047 := by simp_all [isNaN]
  rw [unsignedBits, unsignedBits, ha', hb', Nat.add_lt_add_iff_left]

/-- Magnitudes are ordered as their bits are, infinity included. -/
theorem magnitude_lt (hb : b.isNaN = false) (h : a.unsignedBits < b.unsignedBits) :
    a.magnitude < b.magnitude := by
  rw [← Bool.not_eq_true, isNaN_iff] at hb
  -- The smaller one cannot be infinite, as nothing but NaN has greater bits than infinity.
  have ha : a.isInfinite = false := by
    rw [← Bool.not_eq_true, isInfinite_iff]
    omega
  rw [magnitude_eq ha]
  cases hinfinite : b.isInfinite with
  | true =>
    rw [magnitude, if_pos hinfinite]
    exact EReal.coe_lt_top _
  | false =>
    rw [magnitude_eq hinfinite, EReal.coe_lt_coe_iff]
    exact mul_lt_mul_of_pos_right (Nat.cast_lt.mpr (units_lt h)) (by positivity)

/-- Zero has no magnitude, with either sign. -/
theorem magnitude_of_isZero (h : a.isZero = true) : a.magnitude = 0 := by
  have hbits := isZero_iff.mp h
  have hfinite : a.isInfinite = false := by
    rw [← Bool.not_eq_true, isInfinite_iff, hbits]
    decide
  have hunits : a.units = 0 := by simp_all [isZero, units]
  rw [magnitude_eq hfinite, hunits]
  simp

/-- A number that is not zero is away from zero. -/
theorem magnitude_pos (ha : a.isNaN = false) (h : a.isZero = false) : 0 < a.magnitude := by
  -- The pattern without a bit is a zero.
  have hzero : (⟨0⟩ : Float8).magnitude = 0 := magnitude_of_isZero (by decide)
  rw [← hzero]
  apply magnitude_lt ha
  rw [← Bool.not_eq_true, isZero_iff] at h
  have hnone : (⟨0⟩ : Float8).unsignedBits = 0 := by decide
  omega

/-- No magnitude is negative. -/
theorem magnitude_nonneg (ha : a.isNaN = false) : 0 ≤ a.magnitude := by
  cases hzero : a.isZero with
  | true => exact (magnitude_of_isZero hzero).ge
  | false => exact (magnitude_pos ha hzero).le

theorem value_of_isZero (h : a.isZero = true) : a.value = 0 := by
  rw [value, magnitude_of_isZero h, neg_zero, ite_self]

/-! ## §3 The order -/

/-- The total order of IEEE 754, without equality: numbers by value, the two zeros by sign, NaNs
beyond all numbers, and among themselves first by sign and then by fraction, whose top bit tells
quiet NaNs from signaling ones. -/
inductive Precedes (a b : Float8) : Prop where
  | value (ha : a.isNaN = false) (hb : b.isNaN = false) (h : a.value < b.value)
  | zeros (ha : a.isZero = true) (hb : b.isZero = true) (hneg : a.isNegative = true)
      (hpos : b.isNegative = false)
  | below (ha : a.isNaN = true) (hb : b.isNaN = false) (hneg : a.isNegative = true)
  | above (ha : a.isNaN = false) (hb : b.isNaN = true) (hpos : b.isNegative = false)
  | signs (ha : a.isNaN = true) (hb : b.isNaN = true) (hneg : a.isNegative = true)
      (hpos : b.isNegative = false)
  | negatives (ha : a.isNaN = true) (hb : b.isNaN = true) (haneg : a.isNegative = true)
      (hbneg : b.isNegative = true) (h : b.fraction < a.fraction)
  | positives (ha : a.isNaN = true) (hb : b.isNaN = true) (hapos : a.isNegative = false)
      (hbpos : b.isNegative = false) (h : a.fraction < b.fraction)

/-- Ranks run down the negative patterns and then up the positive ones. -/
theorem rank_eq (x : Float8) :
    (x.rank : Int) = if x.isNegative then (signBit : Int) - 1 - x.unsignedBits
      else signBit + x.unsignedBits := by
  have hbits := x.toNat_bits
  have hlt := x.unsignedBits_lt
  unfold rank
  cases hneg : x.isNegative <;> simp only [hneg, signBit, UInt64.size] at * <;> simp at * <;> omega

/-- A rank fits the word of the bits. -/
theorem rank_lt (x : Float8) : x.rank < UInt64.size := by
  have hrank := x.rank_eq
  have hbits := x.unsignedBits_lt
  simp only [signBit, UInt64.size] at *
  split_ifs at hrank <;> omega

/-- Different bits have different ranks, also those of zeros and of the values that are no numbers.
-/
theorem rank_injective : Function.Injective rank := by
  intro a b h
  have ha := a.rank_eq
  have hb := b.rank_eq
  have ha' := a.unsignedBits_lt
  have hb' := b.unsignedBits_lt
  -- The two classes of signs have ranks that never meet, so both have the same sign.
  have hbits : a.bits.toNat = b.bits.toNat := by
    rw [a.toNat_bits, b.toNat_bits]
    rw [h] at ha
    split_ifs at * <;> omega
  cases a
  cases b
  exact congrArg mk (UInt64.toNat_inj.mp hbits)

/-- Upward in the order, a positive pattern stays positive and gains bits, and a negative one turns
positive or loses bits. -/
theorem rank_lt_iff : a.rank < b.rank ↔
    if a.isNegative then b.isNegative = true → b.unsignedBits < a.unsignedBits
    else b.isNegative = false ∧ a.unsignedBits < b.unsignedBits := by
  have harank := a.rank_eq
  have hbrank := b.rank_eq
  have habits := a.unsignedBits_lt
  have hbbits := b.unsignedBits_lt
  cases ha : a.isNegative <;> cases hb : b.isNegative <;>
    simp only [ha, hb, Bool.false_eq_true, if_true, if_false] at harank hbrank <;> simp <;> omega

/-- Numbers in the order of their ranks are in the order of their values, but for the zeros. -/
theorem value_lt_of_rank_lt (ha : a.isNaN = false) (hb : b.isNaN = false)
    (h : a.rank < b.rank) :
    a.value < b.value ∨
      a.isZero = true ∧ b.isZero = true ∧ a.isNegative = true ∧ b.isNegative = false := by
  rw [rank_lt_iff] at h
  cases haneg : a.isNegative with
  | false =>
    rw [if_neg (by simp [haneg])] at h
    left
    rw [value, value, haneg, h.1]
    exact magnitude_lt hb h.2
  | true =>
    rw [if_pos haneg] at h
    cases hbneg : b.isNegative with
    | true =>
      left
      rw [value, value, haneg, hbneg]
      exact EReal.neg_lt_neg_iff.mpr (magnitude_lt ha (h hbneg))
    | false =>
      by_cases hzeros : a.isZero = true ∧ b.isZero = true
      · exact Or.inr ⟨hzeros.1, hzeros.2, rfl, rfl⟩
      · -- One of the two is away from zero, on its own side.
        left
        rw [value, value, haneg, hbneg]
        cases hazero : a.isZero with
        | false =>
          exact (EReal.neg_lt_zero.mpr (magnitude_pos ha hazero)).trans_le (magnitude_nonneg hb)
        | true =>
          have hbzero : b.isZero = false := by simpa [hazero] using hzeros
          rw [if_pos rfl, magnitude_of_isZero hazero, neg_zero]
          exact magnitude_pos hb hbzero

/-- What comes first in the order of the standard has the smaller rank. -/
theorem Precedes.rank_lt (h : a.Precedes b) : a.rank < b.rank := by
  cases h with
  | value ha hb h =>
    -- Ranks the other way round would turn the values round, or make them equal.
    by_contra hge
    rcases Nat.lt_or_eq_of_le (Nat.le_of_not_lt hge) with hlt | heq
    · rcases value_lt_of_rank_lt hb ha hlt with hvalue | ⟨hbzero, hazero, -⟩
      · exact lt_asymm h hvalue
      · rw [value_of_isZero hazero, value_of_isZero hbzero] at h
        exact lt_irrefl _ h
    · rw [rank_injective heq] at h
      exact lt_irrefl _ h
  | zeros ha hb hneg hpos => simp [rank_lt_iff, hneg, hpos]
  | below ha hb hneg =>
    rw [← Bool.not_eq_true, isNaN_iff] at hb
    rw [isNaN_iff] at ha
    rw [rank_lt_iff, if_pos hneg]
    exact fun _ => by omega
  | above ha hb hpos =>
    rw [← Bool.not_eq_true, isNaN_iff] at ha
    rw [isNaN_iff] at hb
    rw [rank_lt_iff]
    split_ifs
    · simp [hpos]
    · exact ⟨hpos, by omega⟩
  | signs ha hb hneg hpos => simp [rank_lt_iff, hneg, hpos]
  | negatives ha hb haneg hbneg h =>
    rw [rank_lt_iff, if_pos haneg]
    exact fun _ => (fraction_lt_iff hb ha).mp h
  | positives ha hb hapos hbpos h =>
    rw [rank_lt_iff, if_neg (by simp [hapos])]
    exact ⟨hbpos, (fraction_lt_iff ha hb).mp h⟩

/-- A smaller rank comes first in the order of the standard. -/
theorem precedes_of_rank_lt (h : a.rank < b.rank) : a.Precedes b := by
  have hbits := rank_lt_iff.mp h
  cases ha : a.isNaN with
  | false =>
    cases hb : b.isNaN with
    | false =>
      rcases value_lt_of_rank_lt ha hb h with hvalue | ⟨hazero, hbzero, hneg, hpos⟩
      · exact .value ha hb hvalue
      · exact .zeros hazero hbzero hneg hpos
    | true =>
      -- A NaN behind a number has more bits than it, so it is positive.
      refine .above ha hb ?_
      rw [← Bool.not_eq_true, isNaN_iff] at ha
      rw [isNaN_iff] at hb
      split_ifs at hbits
      · by_contra hneg
        have := hbits (by simpa using hneg)
        omega
      · exact hbits.1
  | true =>
    cases hb : b.isNaN with
    | false =>
      -- And one in front of a number is negative.
      refine .below ha hb ?_
      rw [← Bool.not_eq_true, isNaN_iff] at hb
      rw [isNaN_iff] at ha
      split_ifs at hbits with hneg
      · exact hneg
      · omega
    | true =>
      split_ifs at hbits with haneg
      · cases hbneg : b.isNegative with
        | false => exact .signs ha hb haneg hbneg
        | true => exact .negatives ha hb haneg hbneg ((fraction_lt_iff hb ha).mpr (hbits hbneg))
      · exact .positives ha hb (by simpa using haneg) hbits.1
          ((fraction_lt_iff ha hb).mpr hbits.2)

/-- **Ranks are the places of the total order.** -/
theorem precedes_iff : a.Precedes b ↔ a.rank < b.rank := ⟨Precedes.rank_lt, precedes_of_rank_lt⟩

/-- The total order of IEEE 754. -/
def TotalOrder (a b : Float8) : Prop := a = b ∨ a.Precedes b

/-- The total order of the standard is the order of the ranks. -/
theorem totalOrder_iff : a.TotalOrder b ↔ a.rank ≤ b.rank := by
  rw [TotalOrder, precedes_iff, ← rank_injective.eq_iff, or_comm, ← Nat.le_iff_lt_or_eq]

/-- Doubles compare in the total order. -/
theorem cmp_ne_gt_iff : a.cmp b ≠ .gt ↔ a.TotalOrder b := by
  rw [totalOrder_iff, cmp, ne_eq, Nat.compare_eq_gt, Nat.not_lt]

/-- Any two values are in order, one way or the other. -/
theorem totalOrder_total (a b : Float8) : a.TotalOrder b ∨ b.TotalOrder a := by
  rw [totalOrder_iff, totalOrder_iff]
  exact Nat.le_total _ _

theorem TotalOrder.antisymm (hab : a.TotalOrder b) (hba : b.TotalOrder a) : a = b :=
  rank_injective (Nat.le_antisymm (totalOrder_iff.mp hab) (totalOrder_iff.mp hba))

/-! ## §4 Counting -/

/-- Every place of the order is taken. -/
theorem exists_rank {r : Nat} (h : r < UInt64.size) : ∃ x : Float8, x.rank = r := by
  have hmk {n : Nat} (hn : n < UInt64.size) : (mk (UInt64.ofNat n)).rank
      = if signBit ≤ n then UInt64.size - 1 - n else n + signBit := by
    simp only [rank, isNegative, UInt64.toNat_ofNat_of_lt' hn, decide_eq_true_eq]
  rcases Nat.lt_or_ge r signBit with hsign | hsign
  · refine ⟨mk (UInt64.ofNat (UInt64.size - 1 - r)), ?_⟩
    rw [hmk (by omega), if_pos (by unfold signBit UInt64.size at *; omega)]
    omega
  · refine ⟨mk (UInt64.ofNat (r - signBit)), ?_⟩
    rw [hmk (by omega), if_neg (by unfold signBit UInt64.size at *; omega)]
    omega

/-- From one pattern to another there are as many as there are places. -/
theorem ncard_between (h : a.TotalOrder b) :
    {x : Float8 | a.TotalOrder x ∧ x.TotalOrder b}.ncard = b.rank - a.rank + 1 := by
  simp only [totalOrder_iff] at h ⊢
  -- Ranks have no gaps, so the values between are an interval of ranks.
  have hplaces : rank '' {x : Float8 | a.rank ≤ x.rank ∧ x.rank ≤ b.rank}
      = Finset.Icc a.rank b.rank := by
    ext r
    simp only [Set.mem_image, Set.mem_ofPred_eq, Finset.coe_Icc, Set.mem_Icc]
    constructor
    · rintro ⟨x, hx, rfl⟩
      exact hx
    · intro hr
      obtain ⟨x, rfl⟩ := exists_rank (hr.2.trans_lt b.rank_lt)
      exact ⟨x, hr, rfl⟩
  rw [← Set.ncard_image_of_injective _ rank_injective, hplaces, Set.ncard_coe_finset, Nat.card_Icc]
  omega

end Float8

end Shuffle
