import Mathlib
import Shuffle.Proofs.Key.RoundTrip
import Shuffle.Proofs.Plan.Cuts
import Shuffle.Proofs.Plan.Ranges
import Shuffle.Proofs.Pull.Blocks

/-!
# How many keys each part of a range owns

A range of whole numbers is cut where its numbers divide evenly, and every number is read by one of
the parts. Upward, each part owns its low end and leaves its high end to the next part, so parts own
as many numbers as the cuts allow for. Downward, each part owns its high end, although the cuts are
the same: the part that is read first has one number less, and the part that is read last one more.

- `RangeSplit.partOwns` says whether a part owns a key, and `RangeSplit.ownedCount` how many numbers
  it owns.
- `RangeSplit.Whole.partOwns_iff` finds these between two edges.
- `RangeSplit.Whole.sends_iff_partOwns`: they are the rows that a fetch of the part returns.
- `RangeSplit.integer_parts_balance` says when parts own equally many numbers, and when some part
  owns none.
-/

namespace Shuffle

open Std

/-! ## §1 Even cuts of a number -/

namespace RangeSplit

/-- The two sizes differ by one, or are the same when the number of parts divides the keys. -/
theorem ceilDiv_eq {m : Nat} (hm : 0 < m) (card : Nat) :
    card ⌈/⌉ m = card / m + if m ∣ card then 0 else 1 := by
  have hlt : m - 1 < m := Nat.sub_lt hm Nat.one_pos
  have hdvd : m ∣ card ↔ card % m = 0 := Nat.dvd_iff_mod_eq_zero
  rw [Nat.ceilDiv_eq_add_pred_div, Nat.add_sub_assoc hm, Nat.add_div hm, Nat.div_eq_of_lt hlt,
    Nat.mod_eq_of_lt hlt]
  split_ifs <;> omega

/-- Where the part with index `i` begins, counted from the low end. Downward, the numbers at inner
cuts belong to the part below. -/
def edge (ascending : Bool) (card m i : Nat) : Nat :=
  card * i / m + if ascending = false ∧ 0 < i ∧ i < m then 1 else 0

/-- The first edge is the beginning of the order. -/
theorem edge_zero (ascending : Bool) (card m : Nat) : edge ascending card m 0 = 0 := by
  simp [edge]

/-- The last edge is the number of all keys. -/
theorem edge_self {m : Nat} (hm : 0 < m) (ascending : Bool) (card : Nat) :
    edge ascending card m m = card := by
  simp [edge, Nat.mul_div_cancel _ hm]

/-- Edges do not go back, as there are no more parts than numbers. -/
theorem edge_le_succ {m card i : Nat} (hm : 0 < m) (hcard : m ≤ card)
    (ascending : Bool) : edge ascending card m i ≤ edge ascending card m (i + 1) := by
  have hquotient : 1 ≤ card / m := Nat.div_pos hcard hm
  have hstep := mul_succ_div hm card i
  unfold edge
  split_ifs at hstep ⊢ <;> omega

/-- Edges do not fall. -/
theorem monotone_edge {m card : Nat} (hm : 0 < m) (hcard : m ≤ card) (ascending : Bool) :
    Monotone (edge ascending card m) :=
  monotone_nat_of_le_succ fun _ => edge_le_succ hm hcard ascending

/-- Every number lies between the edges of just one part. -/
theorem existsUnique_edge {m card k : Nat} (hm : 0 < m) (hcard : m ≤ card) (ascending : Bool)
    (hk : k < card) :
    ∃! i, i < m ∧ edge ascending card m i ≤ k ∧ k < edge ascending card m (i + 1) := by
  have hmono := monotone_edge hm hcard ascending
  have hsome : ∃ i, k < edge ascending card m (i + 1) := by
    refine ⟨m - 1, ?_⟩
    rwa [Nat.sub_add_cancel hm, edge_self hm]
  -- The number belongs to the first part that ends behind it.
  have hleast : ∀ {i}, i < Nat.find hsome → edge ascending card m (i + 1) ≤ k := fun hi =>
    Nat.not_lt.mp (Nat.find_min hsome hi)
  refine ⟨Nat.find hsome, ⟨?_, ?_, Nat.find_spec hsome⟩, ?_⟩
  · by_contra hge
    have hbelow := hleast (i := m - 1) (by omega)
    rw [Nat.sub_add_cancel hm, edge_self hm] at hbelow
    omega
  · cases hfind : Nat.find hsome with
    | zero => simp [edge_zero]
    | succ i => exact hleast (by omega)
  · rintro j ⟨-, hfrom, hto⟩
    apply Nat.le_antisymm
    · by_contra hlater
      have hnext : Nat.find hsome + 1 ≤ j := by omega
      have hpast := hmono hnext
      have hfound := Nat.find_spec hsome
      omega
    · exact Nat.find_min' hsome hto

/-! ## §2 Parts of a range of whole numbers -/

/-- A range of one column that runs between two whole numbers of one width. -/
structure Whole (s : RangeSplit) (key : SortKey) (low high : Datum) (a b : Int) : Prop where
  schema : s.schema = ⟨[key]⟩
  range : s.range = ⟨⟨[low]⟩, ⟨[high]⟩, key.ascending⟩
  lowInt : low.int? = some a
  highInt : high.int? = some b
  width : low.dataType? = high.dataType?
  le : a ≤ b

/-- A key that is one number, in the width of another one. -/
def keyOf (model : Datum) (n : Int) : Tuple := ⟨[model.intLike n]⟩

/-- What is made from a schema of one column of whole numbers is such a split. -/
theorem whole_make {schema : KeySchema} {range : KeyRange} {s : RangeSplit} {key : SortKey}
    {low high : Datum} {a b : Int} (h : make schema range = .ok s) (hschema : schema = ⟨[key]⟩)
    (hrange : range = ⟨⟨[low]⟩, ⟨[high]⟩, key.ascending⟩) (hlow : low.int? = some a)
    (hhigh : high.int? = some b) (hwidth : low.dataType? = high.dataType?) :
    s.Whole key low high a b := by
  subst hschema hrange
  obtain ⟨rfl, -, -, -, -, horder⟩ := make_eq_ok_iff.mp h
  exact ⟨rfl, rfl, hlow, hhigh, hwidth, (WholeEnds.of_cmp hlow hhigh horder).le⟩

namespace Whole

variable {s : RangeSplit} {key : SortKey} {low high : Datum} {a b : Int} {m : Nat}

theorem ends (h : s.Whole key low high a b) : WholeEnds low high a b := ⟨h.lowInt, h.highInt, h.le⟩

theorem low_eq (h : s.Whole key low high a b) : s.low = low := by
  rw [RangeSplit.low, h.range]
  rfl

theorem high_eq (h : s.Whole key low high a b) : s.high = high := by
  rw [RangeSplit.high, h.range]
  rfl

/-- The last cut is the high end, at or above the others. -/
theorem cutAt_le_succ (h : s.Whole key low high a b) (hcount : m ≤ count a b) {i : Nat}
    (hi : i < m) : cutAt a b m i ≤ cutAt a b m (i + 1) := by
  rcases (Nat.eq_or_lt_of_le hi : i + 1 = m ∨ i + 1 < m) with hlast | hinner
  · rw [hlast, cutAt_last]
    exact (h.ends.cutAt_mem hi.le).2
  · exact (cutAt_lt (Nat.zero_lt_of_lt hi) hcount (Nat.lt_succ_self i) hinner).le

/-- A cut is a value of the type of the bounds again. -/
theorem int?_cutAt (h : s.Whole key low high a b) {i : Nat} (hi : i ≤ m) :
    (low.intLike (cutAt a b m i)).int? = some (cutAt a b m i) := by
  obtain ⟨hfrom, hto⟩ := h.ends.cutAt_mem hi
  exact Datum.int?_intLike h.lowInt h.highInt h.width hfrom hto

/-- With one column, a boundary is the number there. -/
theorem boundaryAt_eq (h : s.Whole key low high a b) (hm : 0 < m) (i : Nat) :
    s.boundaryAt a b m i = keyOf low (cutAt a b m i) := by
  unfold boundaryAt
  split_ifs with hzero hlast
  · rw [hzero, cutAt_zero a b hm, keyOf, Datum.intLike_int? h.lowInt, h.range]
  · rw [hlast, cutAt_last, keyOf, Datum.intLike_congr h.width, Datum.intLike_int? h.highInt,
      h.range]
  · -- There are no further columns to be filled up.
    have hpadding : s.padding = [] := by
      unfold padding
      rw [h.range]
      cases key.ascending <;> rfl
    rw [padded, hpadding, h.low_eq, keyOf]

/-- The parts run from one cut to the next. -/
theorem parts_eq (h : s.Whole key low high a b) {n : Nat} (hn : 0 < n) :
    s.parts n = .ok ((List.range' 0 (min n (count a b))).map fun i =>
      ⟨keyOf low (cutAt a b (min n (count a b)) i),
        keyOf low (cutAt a b (min n (count a b)) (i + 1)), key.ascending⟩) := by
  have hm : 0 < min n (count a b) := Nat.lt_min.mpr ⟨hn, Nat.succ_pos _⟩
  have hends : WholeEnds s.low s.high a b := by
    rw [h.low_eq, h.high_eq]
    exact h.ends
  have hfit : CutsFit s.low a b (min n (count a b)) := by
    rw [h.low_eq]
    exact h.ends.cutsFit h.width
  have hascending : s.range.ascending = key.ascending := by rw [h.range]
  rw [hends.parts_eq hn rfl hfit, hascending]
  simp only [h.boundaryAt_eq hm]

end Whole

/-! ## §3 Numbers that a part owns -/

/-- Does the part with index `i` own a row, so that its fetch returns it? The part that is read last
is the final one. -/
def partOwns (s : RangeSplit) (parts : List KeyRange) (i : Nat) (row : Tuple) : Bool :=
  parts[i]?.any fun part =>
    part.owns s.schema (InputStage.isFinal s.range.ascending parts.length i) row

/-- How many of the numbers from `a` to `b` a part owns. -/
def ownedCount (s : RangeSplit) (model : Datum) (a b : Int) (parts : List KeyRange) (i : Nat) :
    Nat :=
  Nat.count (fun k => s.partOwns parts i (keyOf model (a + k))) (count a b)

/-- A predicate that holds on a stretch is counted by the length of the stretch. -/
private theorem count_between {p : Nat → Bool} {start stop total : Nat} (hstop : stop ≤ total)
    (h : ∀ k < total, p k = true ↔ start ≤ k ∧ k < stop) :
    Nat.count (fun k => p k = true) total = stop - start := by
  have hfilter : (Finset.range total).filter (fun k => p k = true) = Finset.Ico start stop := by
    ext k
    simp only [Finset.mem_filter, Finset.mem_range, Finset.mem_Ico]
    constructor
    · rintro ⟨hk, hp⟩
      exact (h k hk).mp hp
    · intro hk
      have hlt : k < total := by omega
      exact ⟨hlt, (h k hlt).mpr hk⟩
  rw [Nat.count_eq_card_filter_range, hfilter, Nat.card_Ico]

namespace Whole

variable {s : RangeSplit} {key : SortKey} {low high : Datum} {a b : Int} {m n : Nat}
  {parts : List KeyRange}

/-- Keys compare by their numbers, in the direction of the column. -/
theorem compare_eq (h : s.Whole key low high a b) {x y : Tuple} {p q : Int}
    (hx : (x.get 0).int? = some p) (hy : (y.get 0).int? = some q) :
    s.schema.compare x y = if key.ascending then compare p q else compare q p := by
  have hcolumn : s.schema.compare x y = key.compare (x.get 0) (y.get 0) := by
    rw [h.schema, KeySchema.compare, KeySchema.compareValues, KeySchema.compareValues,
      KeySchema.headD_eq_getD, KeySchema.headD_eq_getD, Ordering.then_eq]
    rfl
  rw [hcolumn, SortKey.compare_of_values (Datum.isNull_of_int? hx) (Datum.isNull_of_int? hy),
    Datum.cmp_of_int? hx hy, Int.compare_swap]

/-- The part with index `i` lies between the cuts `i` and `i + 1`. -/
theorem getElem?_parts (h : s.Whole key low high a b) (hn : 0 < n) (hparts : s.parts n = .ok parts)
    (hm : m = min n (count a b)) :
    parts.length = m ∧ ∀ i < m, parts[i]?
      = some ⟨keyOf low (cutAt a b m i), keyOf low (cutAt a b m (i + 1)), key.ascending⟩ := by
  subst hm
  obtain rfl := Except.ok.inj ((h.parts_eq hn).symm.trans hparts)
  constructor
  · simp
  · intro i hi
    simp [hi]

/-- Numbers that a part reads: it has the cut that it is read from, and leaves the other one unless
it is the final part. -/
private theorem partOwns_cuts (h : s.Whole key low high a b) (hn : 0 < n)
    (hparts : s.parts n = .ok parts) (hm : m = min n (count a b)) {i : Nat} (hi : i < m)
    {row : Tuple} {v : Int} (hrow : (row.get 0).int? = some v) :
    s.partOwns parts i row = true ↔
      if key.ascending then cutAt a b m i ≤ v ∧ (i + 1 = m ∨ v < cutAt a b m (i + 1))
      else v ≤ cutAt a b m (i + 1) ∧ (i = 0 ∨ cutAt a b m i < v) := by
  obtain ⟨hlength, hget⟩ := h.getElem?_parts hn hparts hm
  have hascending : s.range.ascending = key.ascending := by rw [h.range]
  have hfrom := h.int?_cutAt hi.le
  have hto := h.int?_cutAt (Nat.succ_le_of_lt hi)
  rw [partOwns, hget i hi, Option.any_some, KeyRange.owns, hlength, hascending, Bool.and_eq_true,
    Bool.or_eq_true, beq_iff_eq, InputStage.isFinal, Ordering.isLE_iff_ne_gt]
  cases hdirection : key.ascending with
  | true =>
    -- Read upward, the part begins at its low end.
    have hfirst := h.compare_eq (x := keyOf low (cutAt a b m i)) hfrom hrow
    have hlast := h.compare_eq (y := keyOf low (cutAt a b m (i + 1))) hrow hto
    rw [if_pos hdirection] at hfirst hlast
    simp only [KeyRange.first, KeyRange.last, if_true, hfirst, hlast, beq_iff_eq]
    rw [Int.compare_eq_gt, Int.compare_eq_lt, Int.not_lt]
  | false =>
    have hfirst := h.compare_eq (x := keyOf low (cutAt a b m (i + 1))) hto hrow
    have hlast := h.compare_eq (y := keyOf low (cutAt a b m i)) hrow hfrom
    rw [if_neg (by simp [hdirection])] at hfirst hlast
    simp only [KeyRange.first, KeyRange.last, Bool.false_eq_true, if_false, hfirst, hlast,
      beq_iff_eq]
    rw [Int.compare_eq_gt, Int.compare_eq_lt, Int.not_lt]

/-- **A part owns the numbers between its edges.** -/
theorem partOwns_iff (h : s.Whole key low high a b) (hn : 0 < n) (hparts : s.parts n = .ok parts)
    (hm : m = min n (count a b)) {i : Nat} (hi : i < m) {row : Tuple} {v : Int}
    (hrow : (row.get 0).int? = some v) (hav : a ≤ v) (hvb : v ≤ b) :
    s.partOwns parts i row = true ↔
      a + edge key.ascending (count a b) m i ≤ v ∧
        v < a + edge key.ascending (count a b) m (i + 1) := by
  have hcount : (count a b : Int) = b - a + 1 := by
    have := h.le
    rw [count]
    omega
  have hself := edge_self (Nat.zero_lt_of_lt hi) key.ascending (count a b)
  rw [h.partOwns_cuts hn hparts hm hi hrow, cutAt_of_lt hi]
  -- The high end of the topmost part is that of the range.
  rcases (Nat.eq_or_lt_of_le hi : i + 1 = m ∨ i + 1 < m) with hend | hinner
  · rw [hend, cutAt_last, hself, edge]
    cases key.ascending
    · cases i <;> simp <;> omega
    · simp
      omega
  · rw [cutAt_of_lt hinner, edge, edge]
    cases key.ascending
    · cases i <;> simp <;> omega
    · simp
      omega

/-- A part owns as many numbers as lie between its edges. -/
theorem ownedCount_eq (h : s.Whole key low high a b) (hn : 0 < n) (hparts : s.parts n = .ok parts)
    (hm : m = min n (count a b)) {i : Nat} (hi : i < m) :
    s.ownedCount low a b parts i
      = edge key.ascending (count a b) m (i + 1) - edge key.ascending (count a b) m i := by
  have hpos : 0 < m := Nat.zero_lt_of_lt hi
  have hcount : m ≤ count a b := hm ▸ Nat.min_le_right _ _
  have hstop : edge key.ascending (count a b) m (i + 1) ≤ count a b := by
    have hlast := monotone_edge hpos hcount key.ascending (Nat.succ_le_of_lt hi)
    rwa [edge_self hpos] at hlast
  -- The keys of a part are those of a stretch, from its own edge to the next one.
  apply count_between hstop
  intro k hk
  have hle := h.le
  have hkb : a + k ≤ b := by
    rw [count] at hk
    omega
  have hak : a ≤ a + k := by omega
  have hrow : ((keyOf low (a + k)).get 0).int? = some (a + k) :=
    Datum.int?_intLike h.lowInt h.highInt h.width hak hkb
  rw [h.partOwns_iff hn hparts hm hi hrow hak hkb]
  omega

end Whole

/-! ## §4 Balance -/

/-- What part `i` of `m` would own of `card` numbers if each part left its high end to the next. -/
def share (card m i : Nat) : Nat := card * (i + 1) / m - card * i / m

/-- Cutting at floors gives one key more wherever the rests carry over. -/
theorem share_eq {m : Nat} (hm : 0 < m) (card i : Nat) :
    share card m i = card / m + if m ≤ card * i % m + card % m then 1 else 0 := by
  rw [share, mul_succ_div hm, Nat.add_assoc, Nat.add_sub_cancel_left]

/-- The first share is one of the short ones. -/
theorem share_zero (card m : Nat) : share card m 0 = card / m := by
  simp [share]

/-- The last share is one of the long ones. -/
theorem share_last {m i : Nat} (hi : i + 1 = m) (card : Nat) : share card m i = card ⌈/⌉ m := by
  have hm : 0 < m := Nat.lt_of_lt_of_eq (Nat.succ_pos i) hi
  have hdvd : m ∣ card ↔ card % m = 0 := Nat.dvd_iff_mod_eq_zero
  -- What the last step begins with and what it adds make a multiple of `m`.
  have hwhole : m ∣ card * i % m + card % m := by
    rw [Nat.dvd_iff_mod_eq_zero, ← Nat.add_mod, ← Nat.mul_succ, Nat.succ_eq_add_one, hi,
      Nat.mul_mod_left]
  rw [share_eq hm, ceilDiv_eq hm, Nat.add_left_cancel_iff]
  by_cases hcard : m ∣ card
  · have hzero : card * i % m = 0 := Nat.mod_eq_zero_of_dvd (hcard.mul_right i)
    rw [if_pos hcard, if_neg (by omega)]
  · have hpos : 0 < card * i % m + card % m := by omega
    rw [if_neg hcard, if_pos (Nat.le_of_dvd hpos hwhole)]

/-- Each share is one of the two even sizes. -/
theorem share_floor_or_ceil {m : Nat} (hm : 0 < m) (card i : Nat) :
    share card m i = card / m ∨ share card m i = card ⌈/⌉ m := by
  rw [share_eq hm, ceilDiv_eq hm]
  -- When the values divide evenly, both numbers are the same.
  by_cases hcard : m ∣ card
  · have hzero : card * i % m = 0 := Nat.mod_eq_zero_of_dvd (hcard.mul_right i)
    have hnone : card % m = 0 := Nat.mod_eq_zero_of_dvd hcard
    left
    rw [if_neg (by omega), Nat.add_zero]
  · rw [if_neg hcard]
    split_ifs
    · exact .inr rfl
    · exact .inl rfl

/-- Downward, the lowest part has one number more than its share, and the topmost one less. -/
theorem edge_sub_edge {m card i : Nat} (hm : 0 < m) (hcard : m ≤ card) (hi : i < m)
    (ascending : Bool) :
    edge ascending card m (i + 1) - edge ascending card m i
        + (if ascending = false ∧ 1 < m ∧ i + 1 = m then 1 else 0)
      = share card m i + if ascending = false ∧ 1 < m ∧ i = 0 then 1 else 0 := by
  have hquotient : 1 ≤ card / m := Nat.div_pos hcard hm
  have hstep := mul_succ_div hm card i
  unfold edge share
  cases ascending
  · simp only [true_and, Nat.succ_pos]
    split_ifs at hstep ⊢ <;> omega
  · simp

section Sizes

variable {size : Nat → Nat} {card m : Nat} {ascending : Bool}

/-- Sizes of parts that have their shares, but for a number that the topmost part leaves to the
lowest one. -/
def Sizes (size : Nat → Nat) (card m : Nat) (ascending : Bool) : Prop :=
  ∀ i < m, size i + (if ascending = false ∧ 1 < m ∧ i + 1 = m then 1 else 0)
    = share card m i + if ascending = false ∧ 1 < m ∧ i = 0 then 1 else 0

/-- Sizes are even unless the lowest part has a number more than all are to have. -/
theorem Sizes.even_iff (h : Sizes size card m ascending) (hm : 0 < m) :
    (∀ i < m, size i = card / m ∨ size i = card ⌈/⌉ m) ↔
      ascending = true ∨ m = 1 ∨ ¬ m ∣ card := by
  have hceil := ceilDiv_eq hm card
  constructor
  · intro heven
    by_contra! hneither
    obtain ⟨hdirection, hone, hdvd⟩ := hneither
    replace hdirection := Bool.eq_false_of_not_eq_true hdirection
    -- If the keys divide evenly, the part that takes one more is uneven.
    have hfirst := h 0 hm
    have hmore : 1 < m := by omega
    rw [share_zero, if_neg (by omega), if_pos ⟨hdirection, hmore, rfl⟩] at hfirst
    rw [if_pos hdvd] at hceil
    have := heven 0 hm
    omega
  · intro hside i hi
    have hsize := h i hi
    have hshare := share_floor_or_ceil hm card i
    -- The first part may take one key more, the last one less; the shares leave room for that.
    by_cases hshift : ascending = false ∧ 1 < m
    · obtain ⟨hdirection, hmore⟩ := hshift
      have hdvd : ¬ m ∣ card := by
        rcases hside with hup | hone | hdvd
        · exact absurd (hdirection.symm.trans hup) Bool.false_ne_true
        · omega
        · exact hdvd
      rw [if_neg hdvd] at hceil
      simp only [hdirection, hmore, true_and] at hsize
      by_cases hfirst : i = 0
      · subst hfirst
        rw [share_zero, if_neg (by omega), if_pos rfl] at hsize
        omega
      · by_cases hlast : i + 1 = m
        · rw [share_last hlast, if_pos hlast, if_neg hfirst] at hsize
          omega
        · rw [if_neg hlast, if_neg hfirst] at hsize
          omega
    · rw [if_neg (by tauto), if_neg (by tauto)] at hsize
      omega

/-- A part is empty if the topmost one leaves the only number that it has. -/
theorem Sizes.starved_iff (h : Sizes size card m ascending) (hm : 0 < m) (hcard : m ≤ card) :
    (∃ i < m, size i = 0) ↔ ascending = false ∧ 1 < m ∧ m = card := by
  have hquotient : 1 ≤ card / m := Nat.div_pos hcard hm
  have hceil := ceilDiv_eq hm card
  constructor
  · rintro ⟨i, hi, hempty⟩
    have hsize := h i hi
    have hshare := share_eq hm card i
    -- Only the last part gives a key away, so only it can be empty.
    by_cases hlast : ascending = false ∧ 1 < m ∧ i + 1 = m
    · obtain ⟨hdirection, hmore, hlast⟩ := hlast
      rw [share_last hlast, if_pos ⟨hdirection, hmore, hlast⟩] at hsize
      have hone : card / m = 1 ∧ m ∣ card := by
        split at hceil
        · exact ⟨by omega, ‹_›⟩
        · omega
      refine ⟨hdirection, hmore, ?_⟩
      rw [← Nat.div_mul_cancel hone.2, hone.1, Nat.one_mul]
    · rw [if_neg hlast] at hsize
      omega
  · rintro ⟨hdirection, hmore, rfl⟩
    have hlast : m - 1 + 1 = m := Nat.sub_add_cancel hm
    have hsize := h (m - 1) (by omega)
    rw [share_last hlast, if_pos ⟨hdirection, hmore, hlast⟩, if_neg (by omega), hceil,
      if_pos (Nat.dvd_refl m), Nat.div_self hm] at hsize
    exact ⟨m - 1, by omega, by omega⟩

end Sizes

namespace Whole

variable {s : RangeSplit} {key : SortKey} {low high : Datum} {a b : Int} {m n : Nat}
  {parts : List KeyRange}

/-- The ends of a part are in the order of its rows. -/
theorem isLE_ends (h : s.Whole key low high a b) (hcount : m ≤ count a b) {i : Nat} (hi : i < m)
    {part : KeyRange}
    (hpart : part = ⟨keyOf low (cutAt a b m i), keyOf low (cutAt a b m (i + 1)), key.ascending⟩) :
    (s.schema.compare part.first part.last).isLE := by
  subst hpart
  have hlow := h.int?_cutAt hi.le
  have hnext : i + 1 ≤ m := hi
  have hhigh := h.int?_cutAt hnext
  have hle := h.cutAt_le_succ hcount hi
  rw [Ordering.isLE_iff_ne_gt]
  -- In either direction the cut that is read first does not sort behind the other.
  cases hup : key.ascending
  · have hends := h.compare_eq (x := keyOf low (cutAt a b m (i + 1)))
      (y := keyOf low (cutAt a b m i)) hhigh hlow
    simp only [KeyRange.first, KeyRange.last, Bool.false_eq_true, if_false, hup] at hends ⊢
    rw [hends, Int.compare_eq_gt]
    omega
  · have hends := h.compare_eq (x := keyOf low (cutAt a b m i))
      (y := keyOf low (cutAt a b m (i + 1))) hlow hhigh
    simp only [KeyRange.first, KeyRange.last, if_true, hup] at hends ⊢
    rw [hends, Int.compare_eq_gt]
    omega

/-- The final part ends where the whole range does, so no number of the range lies behind it. -/
theorem isLE_last_of_isFinal (h : s.Whole key low high a b) {i : Nat} (hi : i < m)
    {part : KeyRange}
    (hpart : part = ⟨keyOf low (cutAt a b m i), keyOf low (cutAt a b m (i + 1)), key.ascending⟩)
    (hfinal : InputStage.isFinal key.ascending m i = true) {row : Tuple} {v : Int}
    (hv : (row.get 0).int? = some v) (hav : a ≤ v) (hvb : v ≤ b) :
    (s.schema.compare row part.last).isLE := by
  subst hpart
  have hnext : i + 1 ≤ m := hi
  rw [Ordering.isLE_iff_ne_gt]
  -- The final part ends at the bound of the split that is read last.
  cases hup : key.ascending
  · have hlast := h.compare_eq (y := keyOf low (cutAt a b m i)) hv (h.int?_cutAt hi.le)
    simp only [InputStage.isFinal, hup, Bool.false_eq_true, if_false, beq_iff_eq] at hfinal
    simp only [KeyRange.last, Bool.false_eq_true, if_false, hup] at hlast ⊢
    have hzero : cutAt a b m i = a := by simp [cutAt, hfinal, (Nat.zero_lt_of_lt hi).ne]
    rw [hlast, Int.compare_eq_gt]
    omega
  · have hlast := h.compare_eq (y := keyOf low (cutAt a b m (i + 1))) hv
      (h.int?_cutAt hnext)
    simp only [InputStage.isFinal, hup, if_true, beq_iff_eq] at hfinal
    simp only [KeyRange.last, if_true, hup] at hlast ⊢
    have hself : cutAt a b m (i + 1) = b := by rw [hfinal, cutAt_last]
    rw [hlast, Int.compare_eq_gt]
    omega

/-- **The fetch of a part returns the rows that it owns.** Of the octets that an entry of an index
stands for all are sent if the part owns the number in the entry's key, and none otherwise. -/
theorem sends_iff_partOwns (h : s.Whole key low high a b) (hn : 0 < n)
    (hparts : s.parts n = .ok parts) (hm : m = min n (count a b)) {i : Nat} {part : KeyRange}
    (hpart : parts[i]? = some part) {start stop : Bytes}
    (hstart : s.schema.encode part.low = .ok start) (hstop : s.schema.encode part.high = .ok stop)
    {store : FileStore} {dir : Path} {log : IndexLog} {content : Bytes}
    (hsorted : SortedOutput store dir s.schema log content) (hfits : log.Fits) {j : Nat}
    {e : IndexEntry} (he : log.entries.toList[j]? = some e) {v : Int}
    (hv : (e.key.get 0).int? = some v) (hav : a ≤ v) (hvb : v ≤ b) {position : Nat}
    (hfrom : e.offset.toNat ≤ position)
    (hto : position
      < (KeySchema.blockStop log.entries.toList (UInt64.ofNat content.length) j).toNat) :
    (RangeAsk.mk start stop (InputStage.isFinal key.ascending m i)).Sends store dir position ↔
      s.partOwns parts i e.key = true := by
  obtain ⟨hlength, hget⟩ := h.getElem?_parts hn hparts hm
  have hi : i < m := by
    rw [← hlength]
    exact (List.getElem?_eq_some_iff.mp hpart).1
  have hascending : s.range.ascending = key.ascending := by rw [h.range]
  -- The request of a part asks for the rows that the part owns, by the meaning of range requests.
  have hpartOwns : s.partOwns parts i e.key
      = part.owns s.schema (InputStage.isFinal key.ascending m i) e.key := by
    rw [partOwns, hpart, hlength, hascending]
    rfl
  obtain rfl := Option.some.inj ((hget i hi).symm.trans hpart)
  have hdirection : s.schema.ascendsFirst = key.ascending := by
    rw [h.schema]
    rfl
  have hkeys := InputStage.readKeys_of_encode hstart hstop hdirection
  rw [hpartOwns]
  apply hsorted.sends_iff_owns hfits (h.isLE_ends (hm ▸ Nat.min_le_right _ _) hi rfl) hkeys he
  · exact fun hfinal => h.isLE_last_of_isFinal hi rfl hfinal hv hav hvb
  · exact hfrom
  · exact hto

end Whole

/-- **How many numbers the parts of a range of whole numbers own**, where `m` is how many parts
there are. Each number is returned by the fetch of one part only. Upward, every part owns its share,
which is the quotient rounded down or rounded up. Downward, the topmost part has one number less and
the lowest one more, so that sizes are even only where the quotient is not a whole number, and a
part owns nothing where there are as many parts as numbers. -/
theorem integer_parts_balance {schema : KeySchema} {range : KeyRange} {s : RangeSplit}
    {key : SortKey} {low high : Datum} {a b : Int} (h : make schema range = .ok s)
    (hschema : schema = ⟨[key]⟩) (hrange : range = ⟨⟨[low]⟩, ⟨[high]⟩, key.ascending⟩)
    (hlow : low.int? = some a) (hhigh : high.int? = some b)
    (hwidth : low.dataType? = high.dataType?) {n : Nat} (hn : 0 < n) {m : Nat}
    (hm : m = min n (count a b)) :
    ∃ parts, s.parts n = .ok parts ∧ parts.length = m ∧
      (∀ v, a ≤ v → v ≤ b → ∃! i, i < m ∧ s.partOwns parts i (keyOf low v) = true) ∧
      (∀ i < m, s.ownedCount low a b parts i
          + (if key.ascending = false ∧ 1 < m ∧ i + 1 = m then 1 else 0)
        = share (count a b) m i + if key.ascending = false ∧ 1 < m ∧ i = 0 then 1 else 0) ∧
      ((∀ i < m, s.ownedCount low a b parts i = count a b / m
          ∨ s.ownedCount low a b parts i = count a b ⌈/⌉ m) ↔
        key.ascending = true ∨ m = 1 ∨ ¬ m ∣ count a b) ∧
      ((∃ i < m, s.ownedCount low a b parts i = 0) ↔
        key.ascending = false ∧ 1 < m ∧ m = count a b) ∧
      ∀ i part start stop, parts[i]? = some part → s.schema.encode part.low = .ok start →
        s.schema.encode part.high = .ok stop → ∀ store dir log content,
        SortedOutput store dir s.schema log content → log.Fits → ∀ j e v,
        log.entries.toList[j]? = some e → (e.key.get 0).int? = some v → a ≤ v → v ≤ b →
        ∀ position, e.offset.toNat ≤ position →
        position
          < (KeySchema.blockStop log.entries.toList (UInt64.ofNat content.length) j).toNat →
        ((RangeAsk.mk start stop (InputStage.isFinal key.ascending m i)).Sends store dir position ↔
          s.partOwns parts i (keyOf low v) = true) := by
  have hwhole := whole_make h hschema hrange hlow hhigh hwidth
  have hparts := hwhole.parts_eq hn
  have hpos : 0 < m := hm ▸ Nat.lt_min.mpr ⟨hn, Nat.succ_pos _⟩
  have hcount : m ≤ count a b := hm ▸ Nat.min_le_right _ _
  have hrow : ∀ v, a ≤ v → v ≤ b → ((keyOf low v).get 0).int? = some v := fun v hav hvb =>
    Datum.int?_intLike hlow hhigh hwidth hav hvb
  -- The number of keys of a part is the distance of its edges.
  have hsizes : Sizes (s.ownedCount low a b _) (count a b) m key.ascending := fun i hi => by
    rw [hwhole.ownedCount_eq hn hparts hm hi]
    exact edge_sub_edge hpos hcount hi key.ascending
  refine ⟨_, hparts, (hwhole.getElem?_parts hn hparts hm).1, ?_, hsizes, hsizes.even_iff hpos,
    hsizes.starved_iff hpos hcount, ?_⟩
  · intro v hav hvb
    have hoffset : (v - a).toNat < count a b := by
      rw [count]
      omega
    -- The edges part the keys, so each lies between two of them.
    have howner := existsUnique_edge hpos hcount key.ascending hoffset
    refine (existsUnique_congr fun i => and_congr_right fun hi => ?_).mpr howner
    rw [hwhole.partOwns_iff hn hparts hm hi (hrow v hav hvb) hav hvb]
    omega
  · intro i part start stop hpart hstart hstop store dir log content hsorted hfits j e v he hv hav
      hvb position hfrom hto
    have hi : i < m := by
      rw [← (hwhole.getElem?_parts hn hparts hm).1]
      exact (List.getElem?_eq_some_iff.mp hpart).1
    have hsends := hwhole.sends_iff_partOwns hn hparts hm hpart hstart hstop hsorted hfits he hv hav
      hvb hfrom hto
    rw [hsends, hwhole.partOwns_iff hn hparts hm hi hv hav hvb,
      hwhole.partOwns_iff hn hparts hm hi (hrow v hav hvb) hav hvb]

/-- Downward from 1 to 0, of two parts the upper one owns nothing: all keys are read with the lower
one. -/
theorem integer_parts_balance_two_descending :
    ∃ s parts, make ⟨[⟨"k", .int8, false, false⟩]⟩ ⟨⟨[.int8 0]⟩, ⟨[.int8 1]⟩, false⟩ = .ok s ∧
      s.parts 2 = .ok parts ∧ parts.length = 2 ∧ s.ownedCount (.int8 0) 0 1 parts 0 = 2 ∧
      s.ownedCount (.int8 0) 0 1 parts 1 = 0 := by
  have hmake : make ⟨[⟨"k", .int8, false, false⟩]⟩ ⟨⟨[.int8 0]⟩, ⟨[.int8 1]⟩, false⟩
      = .ok ⟨⟨[⟨"k", .int8, false, false⟩]⟩, ⟨⟨[.int8 0]⟩, ⟨[.int8 1]⟩, false⟩⟩ := by decide
  obtain ⟨parts, hparts, hlength, -, hsizes, -, -, -⟩ :=
    integer_parts_balance hmake rfl rfl rfl rfl rfl (n := 2) (by decide) rfl
  exact ⟨_, parts, hmake, hparts, hlength, hsizes 0 (by decide),
    Nat.succ.inj (hsizes 1 (by decide))⟩

end RangeSplit

end Shuffle
