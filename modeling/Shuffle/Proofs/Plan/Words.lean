import Mathlib
import Shuffle.Proofs.Plan.Cuts
import Shuffle.Proofs.Text.CodeOrder
import Shuffle.Proofs.TotalOrder

/-!
# Splits in words of a fixed size

A column can have `2 ^ 64` values, and a cut multiplies their number by its index. Here a split is
computed in words of 32, 64 and 128 bits. There is no answer if a number does not fit its word, if
a difference without a sign falls below zero, or if a row without a first value has to be taken
apart. None of this happens to a range that is accepted.

- `Word.unsigned?` and `Word.signed?` put a number into a word.
- `RangeSplit.partsInWords?` is the computation, `RangeSplit.partsInWords?_eq` says that it is the
  split.
-/

namespace Shuffle

open Std

/-! ## §1 Words -/

namespace Word

/-- A number as a word of so many bits that has no sign, if it fits. -/
def unsigned? (bits : Nat) (n : Int) : Option Nat :=
  if 0 ≤ n ∧ n < 2 ^ bits then some n.toNat else none

/-- A number as a word of so many bits that has a sign, if it fits. -/
def signed? (bits : Nat) (n : Int) : Option Int :=
  if -(2 ^ (bits - 1)) ≤ n ∧ n < 2 ^ (bits - 1) then some n else none

/-- A number below the bound of a word is held by it. -/
theorem unsigned?_of_lt {bits n : Nat} (h : (n : Int) < 2 ^ bits) : unsigned? bits n = some n := by
  rw [unsigned?, if_pos ⟨Int.natCast_nonneg n, h⟩, Int.toNat_natCast]

/-- A number between the bounds of a signed word is held by it. -/
theorem signed?_of_mem {bits : Nat} {n : Int} (hfrom : -(2 ^ (bits - 1)) ≤ n)
    (hto : n < 2 ^ (bits - 1)) : signed? bits n = some n :=
  if_pos ⟨hfrom, hto⟩

end Word

/-! ## §2 How many values there are -/

namespace Datum

/-- There is a greatest code point. -/
theorem leadingCode_lt (text : String) : leadingCode text < 0x110000 := by
  unfold leadingCode
  cases text.toList.head? with
  | none => exact Nat.zero_lt_succ _
  | some c => exact Bytes.codePoint_lt c

/-- The first characters of texts are in the order of the texts. -/
theorem leadingCode_le {a b : String} (h : (Datum.text a).cmp (.text b) ≠ .gt) :
    leadingCode a ≤ leadingCode b := by
  have hcodes : compare (a.toList.map Char.toNat) (b.toList.map Char.toNat) ≠ .gt := by
    rwa [← Bytes.compare_ofText]
  unfold leadingCode
  cases ha : a.toList with
  | nil => exact Nat.zero_le _
  | cons c rest =>
    cases hb : b.toList with
    | nil =>
      -- Only the empty text is at most the empty text.
      rw [ha, hb] at hcodes
      exact absurd rfl hcodes
    | cons d rest' =>
      rw [ha, hb, List.map_cons, List.map_cons, List.compare_cons_cons] at hcodes
      apply Nat.not_lt.mp
      intro hlt
      replace hlt : d.toNat < c.toNat := hlt
      rw [Nat.compare_eq_gt.mpr hlt] at hcodes
      exact hcodes rfl

/-- Whole numbers of either width fit 64 bits. -/
theorem int?_mem {d : Datum} {n : Int} (h : d.int? = some n) : -(2 ^ 63) ≤ n ∧ n < 2 ^ 63 := by
  -- Both kinds of integers lie in the wider range, and nothing else is one.
  cases d with
  | int4 v =>
    obtain rfl := Option.some.inj h
    have hfrom := v.le_toInt
    have hto := v.toInt_lt
    omega
  | int8 v =>
    obtain rfl := Option.some.inj h
    exact ⟨v.le_toInt, v.toInt_lt⟩
  | null | float8 _ | text _ => cases h

/-- A column has at most as many values as there are words of 64 bits. -/
theorem cardinality_le (low high : Datum) : low.cardinality high ≤ UInt64.size := by
  unfold cardinality
  split
  case h_1 a b =>
    -- Ranks of floating-point numbers take 64 bits, and there are no more values than ranks.
    have := b.rank_lt
    omega
  case h_2 a b =>
    -- Texts are counted by their leading code points.
    have hb := leadingCode_lt b
    have hsize : 0x110000 ≤ UInt64.size := by decide
    omega
  case h_3 =>
    split
    case h_1 a b ha hb =>
      have ha' := int?_mem ha
      have hb' := int?_mem hb
      -- The ends of a column of whole numbers are at most 64 bits apart.
      simp only [UInt64.size]
      omega
    case h_2 => decide

/-- The number of values from `low` to `high`. -/
def cardinalityInWords? (low high : Datum) : Option Nat :=
  match low, high with
  | .float8 a, .float8 b => Word.unsigned? 128 ((b.rank - a.rank : Nat) + 1)
  | .text a, .text b => Word.unsigned? 128 ((leadingCode b - leadingCode a : Nat) + 1)
  | _, _ =>
    match low.int?, high.int? with
    | some a, some b => do
      let span ← Word.signed? 128 (b - a)
      Word.unsigned? 128 (max span 0 + 1)
    | _, _ => some 1

/-- The number of values between two ends is found without an overflow. -/
theorem cardinalityInWords?_eq (low high : Datum) :
    low.cardinalityInWords? high = some (low.cardinality high) := by
  have hle := cardinality_le low high
  simp only [UInt64.size] at hle
  unfold cardinalityInWords?
  split
  case h_1 a b =>
    apply Word.unsigned?_of_lt
    change (((Datum.float8 a).cardinality (.float8 b) : Nat) : Int) < 2 ^ 128
    omega
  case h_2 a b =>
    apply Word.unsigned?_of_lt
    change (((Datum.text a).cardinality (.text b) : Nat) : Int) < 2 ^ 128
    omega
  case h_3 hfloat htext =>
    split
    case h_1 a b ha hb =>
      have ha' := int?_mem ha
      have hb' := int?_mem hb
      -- The difference alone may need 65 bits. It is taken in 128, so no sum overflows.
      have hspan : Word.signed? 128 (b - a) = some (b - a) :=
        Word.signed?_of_mem (by omega) (by omega)
      have hcard : max (b - a) 0 + 1 = (low.cardinality high : Int) := by
        rw [cardinality_of_int? ha hb]
        omega
      rw [hspan, Option.bind_eq_bind, Option.bind_some, hcard]
      exact Word.unsigned?_of_lt (by omega)
    case h_2 hints =>
      cases low <;> cases high <;> simp_all [cardinality, int?]

/-! ## §3 Cuts -/

/-- The part `i / n` of `card`, rounded down. -/
def stepInWords? (card n i : Nat) : Option Nat :=
  (Word.unsigned? 128 (card * i)).map (· / n)

/-- A step is found without an overflow: the product is taken in 128 bits. -/
theorem stepInWords?_eq {card i : Nat} (hcard : card ≤ UInt64.size) (hi : i < UInt64.size)
    (n : Nat) : stepInWords? card n i = some (card * i / n) := by
  have hproduct : card * i < UInt64.size * UInt64.size :=
    Nat.mul_lt_mul_of_le_of_lt hcard hi (by decide)
  have hfit : ((card * i : Nat) : Int) < 2 ^ 128 := by
    simp only [UInt64.size] at hproduct
    omega
  rw [stepInWords?, ← Int.natCast_mul, Word.unsigned?_of_lt hfit]
  rfl

/-- A step stays below the number of values. -/
theorem step_le {n i : Nat} (hi : i < n) (card : Nat) : card * i / n ≤ card := by
  apply Nat.div_le_of_le_mul
  rw [Nat.mul_comm n]
  exact Nat.mul_le_mul_left _ hi.le

/-- The text `i / n` of the way from `a` to `b`. -/
def textCutInWords? (a b : String) (n i : Nat) : Option (Option Datum) := do
  let span ← Word.unsigned? 128 ((leadingCode b : Int) - leadingCode a)
  let card ← Word.unsigned? 128 (span + 1)
  let step ← stepInWords? card n i
  let code ← Word.unsigned? 128 (leadingCode a + step)
  let code ← Word.unsigned? 32 code
  return (charFrom? code).map fun c => .text (String.singleton c)

/-- A cut between texts is found without an overflow. -/
theorem textCutInWords?_eq {a b : String} (hle : (text a).cmp (.text b) ≠ .gt) {n i : Nat}
    (hi : i < n) (hword : i < UInt64.size) :
    textCutInWords? a b n i = some ((text a).cut? (.text b) n i) := by
  have hcard := cardinality_le (.text a) (.text b)
  have hstep := stepInWords?_eq hcard hword n
  have hle' := step_le hi ((text a).cardinality (.text b))
  have hcodes := leadingCode_le hle
  have hb := leadingCode_lt b
  have hcardinality : (text a).cardinality (.text b) = leadingCode b - leadingCode a + 1 := rfl
  simp only [UInt64.size] at hcard
  have hspan : Word.unsigned? 128 ((leadingCode b : Int) - leadingCode a)
      = some (leadingCode b - leadingCode a) := by
    rw [← Nat.cast_sub hcodes]
    exact Word.unsigned?_of_lt (by omega)
  have hvalues : Word.unsigned? 128 ((leadingCode b - leadingCode a : Nat) + 1)
      = some ((text a).cardinality (.text b)) := by
    rw [← Nat.cast_succ, Nat.succ_eq_add_one, ← hcardinality]
    exact Word.unsigned?_of_lt (by omega)
  -- The code point at a cut is hardly above the greater one of the two.
  have hcode (bits : Nat) (hbits : 0x220000 ≤ 2 ^ bits) :
      Word.unsigned? bits ((leadingCode a + (text a).cardinality (.text b) * i / n : Nat))
        = some (leadingCode a + (text a).cardinality (.text b) * i / n) := by
    apply Word.unsigned?_of_lt
    have : ((2 ^ bits : Nat) : Int) = 2 ^ bits := by push_cast; rfl
    omega
  have hlong := hcode 128 (by norm_num)
  have hshort := hcode 32 (by norm_num)
  rw [Nat.cast_add] at hlong
  refine Option.bind_eq_some_iff.mpr ⟨_, hspan, ?_⟩
  refine Option.bind_eq_some_iff.mpr ⟨_, hvalues, ?_⟩
  refine Option.bind_eq_some_iff.mpr ⟨_, hstep, ?_⟩
  refine Option.bind_eq_some_iff.mpr ⟨_, hlong, ?_⟩
  refine Option.bind_eq_some_iff.mpr ⟨_, hshort, ?_⟩
  rfl

/-- The number `i / n` of the way from `a` to `b`. Only the last step, which puts it into the width
of the low end, drops what does not fit. -/
def wholeCutInWords? (low : Datum) (a b : Int) (n i : Nat) : Option (Option Datum) := do
  let span ← Word.signed? 128 (b - a)
  let card ← Word.signed? 128 (span + 1)
  let card ← Word.unsigned? 128 card
  let step ← stepInWords? card n i
  let step ← Word.signed? 128 step
  let value ← Word.signed? 128 (a + step)
  let value ← Word.signed? 64 value
  return some (low.intLike value)

/-- A cut between whole numbers is found without an overflow. -/
theorem wholeCutInWords?_eq {low high : Datum} {a b : Int}
    (h : RangeSplit.WholeEnds low high a b) {n i : Nat} (hi : i < n) (hword : i < UInt64.size) :
    wholeCutInWords? low a b n i = some (low.cut? high n i) := by
  have hcard := cardinality_le low high
  have hstep := stepInWords?_eq hcard hword n
  have hle := step_le hi (low.cardinality high)
  have ha := int?_mem h.lowInt
  have hb := int?_mem h.highInt
  simp only [UInt64.size] at hcard
  -- The number at a cut lies between the two ends, so it fits the word that they fit.
  have hmem := h.cutAt_mem hi.le
  rw [RangeSplit.cutAt_of_lt hi, ← h.cardinality_eq] at hmem
  have hcount : (low.cardinality high : Int) = b - a + 1 := by rw [h.cardinality_eq, h.count_eq]
  have hspan : Word.signed? 128 (b - a) = some (b - a) :=
    Word.signed?_of_mem (by omega) (by omega)
  have hnext : Word.signed? 128 (b - a + 1) = some (low.cardinality high : Int) := by
    rw [← hcount]
    exact Word.signed?_of_mem (by omega) (by omega)
  have hvalues : Word.unsigned? 128 (low.cardinality high) = some (low.cardinality high) :=
    Word.unsigned?_of_lt (by omega)
  have hsigned : Word.signed? 128 (low.cardinality high * i / n : Nat)
      = some ((low.cardinality high * i / n : Nat) : Int) :=
    Word.signed?_of_mem (by omega) (by omega)
  have hlong : Word.signed? 128 (a + (low.cardinality high * i / n : Nat))
      = some (a + (low.cardinality high * i / n : Nat)) :=
    Word.signed?_of_mem (by omega) (by omega)
  have hshort : Word.signed? 64 (a + (low.cardinality high * i / n : Nat))
      = some (a + (low.cardinality high * i / n : Nat)) :=
    Word.signed?_of_mem (by omega) (by omega)
  rw [cut?_of_int? h.lowInt h.highInt]
  refine Option.bind_eq_some_iff.mpr ⟨_, hspan, ?_⟩
  refine Option.bind_eq_some_iff.mpr ⟨_, hnext, ?_⟩
  refine Option.bind_eq_some_iff.mpr ⟨_, hvalues, ?_⟩
  refine Option.bind_eq_some_iff.mpr ⟨_, hstep, ?_⟩
  refine Option.bind_eq_some_iff.mpr ⟨_, hsigned, ?_⟩
  refine Option.bind_eq_some_iff.mpr ⟨_, hlong, ?_⟩
  refine Option.bind_eq_some_iff.mpr ⟨_, hshort, ?_⟩
  rfl

/-- The value `i / n` of the way from `low` to `high`. -/
def cutInWords? (low high : Datum) (n i : Nat) : Option (Option Datum) :=
  match low, high with
  | .float8 a, .float8 b => some (some (.float8 (Float8.between a b i n)))
  | .text a, .text b => textCutInWords? a b n i
  | _, _ =>
    match low.int?, high.int? with
    | some a, some b => wholeCutInWords? low a b n i
    | _, _ => some none

/-- **A cut is the same in words as it is in exact arithmetic.** -/
theorem cutInWords?_eq {low high : Datum} (hle : low.cmp high ≠ .gt) {n i : Nat} (hi : i < n)
    (hword : i < UInt64.size) : low.cutInWords? high n i = some (low.cut? high n i) := by
  unfold cutInWords?
  split
  case h_1 a b => rfl
  case h_2 a b => exact textCutInWords?_eq hle hi hword
  case h_3 hfloat htext =>
    split
    case h_1 a b ha hb => exact wholeCutInWords?_eq (.of_cmp ha hb hle) hi hword
    case h_2 hints => cases low <;> cases high <;> simp_all [cut?, int?]

end Datum

/-! ## §4 Parts -/

/-- A row with a first value can be taken apart. -/
theorem Tuple.tail?_values {row : Tuple} (h : (row.get 0).isNull = false) :
    row.values.tail? = some row.values.tail := by
  obtain ⟨values⟩ := row
  cases values with
  | nil => cases h
  | cons v rest => rfl

/-- A loop whose rounds all succeed is a map. -/
private theorem mapM_eq_some_map {α β : Type} {f : α → Option β} {g : α → β} {items : List α}
    (h : ∀ a ∈ items, f a = some (g a)) : items.mapM f = some (items.map g) := by
  induction items with
  | nil => rfl
  | cons a rest ih =>
    have hrest := ih fun b hb => h b (List.mem_cons_of_mem a hb)
    rw [List.mapM_cons, h a List.mem_cons_self, hrest]
    rfl

namespace RangeSplit

/-- Cuts the range into at most `n` parts in value order. -/
def partsInWords? (s : RangeSplit) (n : Nat) : Option (Except PlanError (List KeyRange)) :=
  if n = 0 then some (.error .zeroTasks)
  else do
    let values ← s.low.cardinalityInWords? s.high
    let count ← Word.unsigned? 64 (min values n : Nat)
    let cuts ← (List.range' 1 (count - 1)).mapM (s.low.cutInWords? s.high count)
    let padding ← (if s.range.ascending then s.range.low else s.range.high).values.tail?
    let inner := (Datum.rising s.high s.low cuts.reduceOption).map fun v => ⟨v :: padding⟩
    return .ok (between s.range.ascending (s.range.low :: inner ++ [s.range.high]))

/-- **A split can be computed in words.** For a range that is accepted, of whatever kind its first
column is, no number overflows its word, no difference falls below zero, and no row lacks a first
value. -/
theorem partsInWords?_eq {schema : KeySchema} {range : KeyRange} {s : RangeSplit}
    (h : make schema range = .ok s) {n : Nat} (hword : n < UInt64.size) :
    s.partsInWords? n = some (s.parts n) := by
  obtain ⟨rfl, -, hlow, hhigh, -, horder⟩ := make_eq_ok_iff.mp h
  set s : RangeSplit := ⟨schema, range⟩
  unfold partsInWords? parts
  by_cases hzero : n = 0
  · rw [if_pos hzero, if_pos hzero]
  rw [if_neg hzero, if_neg hzero]
  -- There are no more parts than are asked for, which is a word.
  have hcount : Word.unsigned? 64 (min s.width n : Nat) = some (min s.width n) := by
    apply Word.unsigned?_of_lt
    simp only [UInt64.size] at hword
    omega
  have hcuts : (List.range' 1 (min s.width n - 1)).mapM (s.low.cutInWords? s.high (min s.width n))
      = some ((List.range' 1 (min s.width n - 1)).map (s.low.cut? s.high (min s.width n))) := by
    apply mapM_eq_some_map
    intro i hi
    have hi' := List.mem_range'_1.mp hi
    exact Datum.cutInWords?_eq horder (by omega) (by omega)
  have hpadding : (if s.range.ascending then s.range.low else s.range.high).values.tail?
      = some s.padding := by
    unfold padding
    split_ifs
    · exact Tuple.tail?_values hlow
    · exact Tuple.tail?_values hhigh
  have hinner : (List.map (s.low.cut? s.high (min s.width n))
      (List.range' 1 (min s.width n - 1))).reduceOption
      = (List.range' 1 (min s.width n - 1)).filterMap (s.low.cut? s.high (min s.width n)) := by
    rw [List.reduceOption, List.filterMap_map, Function.id_comp]
  refine Option.bind_eq_some_iff.mpr ⟨s.width, Datum.cardinalityInWords?_eq _ _, ?_⟩
  refine Option.bind_eq_some_iff.mpr ⟨_, hcount, ?_⟩
  refine Option.bind_eq_some_iff.mpr ⟨_, hcuts, ?_⟩
  refine Option.bind_eq_some_iff.mpr ⟨_, hpadding, ?_⟩
  rw [hinner]
  rfl

end RangeSplit

end Shuffle
