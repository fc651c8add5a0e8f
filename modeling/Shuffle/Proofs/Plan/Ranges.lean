import Mathlib
import Shuffle.Plan.Repartition
import Shuffle.Proofs.Key.RoundTrip
import Shuffle.Proofs.Plan.Boundaries
import Shuffle.Proofs.Pull.Route

/-!
# Sub-ranges are asked for in reading order

A range is cut in value order, and the parts are sorted by the order of the schema. In that order
their requests form a route from the end of the range that is read first to the one read last, for
an ascending and for a descending first column, and however many parts there are.

- `InputStage.rangeGroups_route` is the route.
- `InputStage.rangeGroups_ok_iff`: whether a stage can be planned does not depend on the number of
  parts.
-/

namespace Shuffle

open Std

/-! ## §1 Sorting what is sorted already -/

/-- Sorting finds the strictly ascending arrangement. -/
theorem mergeSort_eq_of_perm {α β : Type} (cmp : β → β → Ordering) [TransCmp cmp] (view : α → β)
    {items sorted : List α} (hperm : items.Perm sorted)
    (hsorted : sorted.Pairwise fun a b => cmp (view a) (view b) = .lt) :
    items.mergeSort (fun a b => cmp (view a) (view b) != .gt) = sorted := by
  have hle (a b : α) : (cmp (view a) (view b) != .gt) = true ↔ (cmp (view a) (view b)).isLE := by
    rw [bne_iff_ne, Ordering.isLE_iff_ne_gt]
  have hswap (a b : α) : cmp (view b) (view a) = (cmp (view a) (view b)).swap :=
    OrientedCmp.eq_swap
  have hmerged : (items.mergeSort fun a b => cmp (view a) (view b) != .gt).Pairwise
      fun a b => (cmp (view a) (view b) != .gt) = true := by
    apply List.pairwise_mergeSort
    · intro a b c hab hbc
      exact (hle a c).mpr (TransCmp.isLE_trans ((hle a b).mp hab) ((hle b c).mp hbc))
    · intro a b
      rw [hswap a b]
      cases cmp (view a) (view b) <;> rfl
  refine List.Perm.eq_of_pairwise (fun a b ha hb hab hba => ?_) hmerged
    (hsorted.imp fun hlt => by simp [hlt]) ((List.mergeSort_perm items _).trans hperm)
  -- Two items that compare equal are one, as different ones compare strictly one way or the other.
  by_contra hne
  have hsymm : Std.Symm fun a b : α => cmp (view a) (view b) ≠ .eq :=
    ⟨fun a b h heq => h (OrientedCmp.eq_comm.mp heq)⟩
  have hdiffer : sorted.Pairwise fun a b => cmp (view a) (view b) ≠ .eq :=
    hsorted.imp fun hlt => by simp [hlt]
  have ha' : a ∈ sorted := hperm.mem_iff.mp (List.mem_mergeSort.mp ha)
  refine hdiffer.forall ha' hb hne ?_
  rw [hswap a b] at hba
  cases hcmp : cmp (view a) (view b) with
  | eq => rfl
  | lt => rw [hcmp] at hba; cases hba
  | gt => rw [hcmp] at hab; cases hab

/-! ## §2 Parts -/

namespace RangeSplit

/-- Each part begins at a bound, and no part begins at the last one. -/
theorem map_low_between (ascending : Bool) (bounds : List Tuple) :
    (between ascending bounds).map (·.low) = bounds.dropLast := by
  fun_induction between ascending bounds with
  | case1 a b rest ih => rw [List.map_cons, ih, List.dropLast_cons_cons]
  | case2 bounds hshort =>
    match bounds, hshort with
    | [], _ => rfl
    | [a], _ => rfl
    | a :: b :: rest, hshort => exact absurd rfl (hshort a b rest)

/-- There is one part more than there are inner boundaries. -/
theorem length_between_boundaries (s : RangeSplit) (ascending : Bool) (n : Nat) :
    (between ascending (s.boundaries n)).length = (s.low.innerBoundaries s.high n).length + 1 := by
  have hlows := congrArg List.length (map_low_between ascending (s.boundaries n))
  rwa [List.length_map, List.length_dropLast, length_boundaries] at hlows

/-- A split is cut into any positive number of parts: the ranges between as many boundaries as can
be told apart. -/
theorem parts_eq_ok_iff {s : RangeSplit} {n : Nat} {parts : List KeyRange} :
    s.parts n = .ok parts ↔
      0 < n ∧ parts = between s.range.ascending (s.boundaries (min s.width n)) := by
  unfold RangeSplit.parts
  split_ifs with hzero
  · simp [hzero]
  · rw [Except.ok.injEq, eq_comm, iff_and_self]
    exact fun _ => Nat.pos_of_ne_zero hzero

/-- A part lies between two of the bounds. -/
theorem mem_between {ascending : Bool} {bounds : List Tuple} {part : KeyRange}
    (h : part ∈ between ascending bounds) :
    part.ascending = ascending ∧ part.low ∈ bounds ∧ part.high ∈ bounds := by
  fun_induction between ascending bounds with
  | case1 a b rest ih =>
    rcases List.mem_cons.mp h with rfl | h
    · exact ⟨rfl, List.mem_cons_self, List.mem_cons_of_mem a List.mem_cons_self⟩
    · obtain ⟨hascending, hlow, hhigh⟩ := ih h
      exact ⟨hascending, List.mem_cons_of_mem a hlow, List.mem_cons_of_mem a hhigh⟩
  | case2 => cases h

/-- Each bound is an end of some part. -/
theorem exists_part_of_mem {ascending : Bool} {bounds : List Tuple} (hlength : 2 ≤ bounds.length)
    {b : Tuple} (hb : b ∈ bounds) :
    ∃ part ∈ between ascending bounds, part.low = b ∨ part.high = b := by
  fun_induction between ascending bounds with
  | case1 a c rest ih =>
    -- The first two bounds are the ends of the first part, the others are ends of later ones.
    rcases List.mem_cons.mp hb with rfl | hb
    · exact ⟨_, List.mem_cons_self, Or.inl rfl⟩
    rcases List.mem_cons.mp hb with rfl | hrest
    · exact ⟨_, List.mem_cons_self, Or.inr rfl⟩
    · have hpos := List.length_pos_of_mem hrest
      obtain ⟨part, hpart, hend⟩ := ih (by rw [List.length_cons]; omega) hb
      exact ⟨part, List.mem_cons_of_mem _ hpart, hend⟩
  | case2 bounds hshort =>
    match bounds, hshort with
    | [], _ => cases hb
    | [a], _ => simp at hlength
    | a :: c :: rest, hshort => exact absurd rfl (hshort a c rest)

/-- There is a key in every column, for the bounds are keys. -/
theorem columnCardinality_pos (s : RangeSplit) (column : Nat) :
    0 < s.columnCardinality column := by
  unfold columnCardinality
  dsimp only
  split
  · exact Datum.cardinality_pos _ _
  · exact Datum.cardinality_pos _ _

/-- A product that is cut off after each factor is the product, cut off once. What is cut off at one
factor would stay beyond the limit, because no factor is zero. -/
private theorem foldl_min_mul {limit : Nat} (hlimit : 1 ≤ limit) {factor : Nat → Nat}
    (hpos : ∀ i, 0 < factor i) (n : Nat) :
    (List.range n).foldl (fun total i => min limit (total * factor i)) 1
      = min limit (∏ i ∈ Finset.range n, factor i) := by
  induction n with
  | zero => simpa using hlimit
  | succ n ih =>
    rw [List.range_succ, List.foldl_append, List.foldl_cons, List.foldl_nil, ih,
      Finset.prod_range_succ]
    generalize ∏ i ∈ Finset.range n, factor i = product
    -- Once the limit is reached, no factor leads below it, for none is zero.
    rcases Nat.le_total product limit with hle | hle
    · rw [Nat.min_eq_right hle]
    · have hcut := Nat.le_mul_of_pos_right limit (hpos n)
      rw [Nat.min_eq_left hle, Nat.min_eq_left hcut,
        Nat.min_eq_left (hcut.trans (Nat.mul_le_mul_right _ hle))]

/-- The number of keys is the product over the columns, up to the limit. -/
theorem cardinality_eq_prod (s : RangeSplit) :
    s.cardinality
      = min limit (∏ column ∈ Finset.range s.schema.keys.length, s.columnCardinality column) :=
  foldl_min_mul (by decide) s.columnCardinality_pos _

/-- A split has at least one part. -/
theorem cardinality_pos (s : RangeSplit) : 0 < s.cardinality := by
  rw [cardinality_eq_prod]
  exact Nat.lt_min.mpr
    ⟨by decide, Finset.prod_pos fun column _ => s.columnCardinality_pos column⟩

/-- The parts in value order are in the order of the schema, or in the reverse order if the range
descends. -/
theorem Valid.pairwise_parts {s : RangeSplit} {leading : SortKey} (h : s.Valid leading) (n : Nat) :
    (between s.range.ascending (s.boundaries n)).Pairwise fun p q =>
      if s.range.ascending then KeyRange.compare s.schema p q = .lt
      else KeyRange.compare s.schema q p = .lt := by
  -- Low ends differ, so high ends never decide.
  have hlow : ((between s.range.ascending (s.boundaries n)).map (·.low)).Pairwise fun a b =>
      s.schema.compare (KeyRange.mk a b s.range.ascending).first
        (KeyRange.mk a b s.range.ascending).last = .lt := by
    rw [map_low_between, boundaries_eq, List.dropLast_concat]
    exact h.pairwise_starts n
  refine (List.pairwise_map.mp hlow).imp fun {p q} hlt => ?_
  unfold KeyRange.first KeyRange.last at hlt
  split
  case isTrue hdirection =>
    rw [if_pos hdirection, if_pos hdirection] at hlt
    rw [KeyRange.compare, hlt]
    rfl
  case isFalse hdirection =>
    rw [if_neg hdirection, if_neg hdirection] at hlt
    rw [KeyRange.compare, hlt]
    rfl

end RangeSplit

/-! ## §3 Requests for the parts -/

namespace InputStage

variable {s : InputStage}

/-- The pieces of one ask. -/
def askGroup (s : InputStage) (ask : RangeAsk) : FetchGroup :=
  s.rangeGroup ask.start ask.stop ask.final

/-- The ask for the part with index `i` of `n`. -/
def ask (ascending : Bool) (n : Nat) : (KeyRange × Bytes × Bytes) × Nat → RangeAsk
  | ((_, low, high), i) => ⟨low, high, isFinal ascending n i⟩

/-- A part is kept beside its encoded ends. -/
theorem encodeEnds_eq_ok {range : KeyRange} {part : KeyRange × Bytes × Bytes} :
    s.encodeEnds range = .ok part ↔ ∃ low high, s.sortKeys.encode range.low = .ok low ∧
      s.sortKeys.encode range.high = .ok high ∧ part = (range, low, high) := by
  simp only [encodeEnds, Fallible.bind_eq_ok, Fallible.mapError_eq_ok]
  constructor
  · rintro ⟨low, hlow, high, hhigh, h⟩
    cases h
    exact ⟨low, high, hlow, hhigh, rfl⟩
  · rintro ⟨low, high, hlow, hhigh, rfl⟩
    exact ⟨low, hlow, high, hhigh, rfl⟩

/-- The encoded ends of a range are a request for the rows between them in reading order. -/
theorem readKeys_of_encode {schema : KeySchema} {range : KeyRange} {start stop : Bytes}
    (hlow : schema.encode range.low = .ok start) (hhigh : schema.encode range.high = .ok stop)
    (hdirection : schema.ascendsFirst = range.ascending) :
    FileChunk.readKeys schema start stop
      = .ok (schema.stored range.first, schema.stored range.last) := by
  have hlow' := KeySchema.decode_encode hlow
  have hhigh' := KeySchema.decode_encode hhigh
  simp only [FileChunk.readKeys, hlow', hhigh', hdirection, KeyRange.first, KeyRange.last]
  cases range.ascending <;> rfl

/-- A part that is kept with its ends can be asked for. -/
theorem readKeys_encodeEnds {range : KeyRange} {part : KeyRange × Bytes × Bytes}
    (h : s.encodeEnds range = .ok part) (hdirection : s.sortKeys.ascendsFirst = range.ascending) :
    FileChunk.readKeys s.sortKeys part.2.1 part.2.2
      = .ok (s.sortKeys.stored range.first, s.sortKeys.stored range.last) := by
  obtain ⟨low, high, hlow, hhigh, rfl⟩ := encodeEnds_eq_ok.mp h
  exact readKeys_of_encode hlow hhigh hdirection

/-- Upward, the parts are asked for as they stand, and the last one is final. -/
private theorem route_ascending (hdirection : s.sortKeys.ascendsFirst = true) {a z : Tuple}
    {rest : List Tuple} {ends : List (KeyRange × Bytes × Bytes)} {k n : Nat}
    (hlast : rest.getLast? = some z)
    (horder : (a :: rest).Pairwise fun a b => (s.sortKeys.compare a b).isLE)
    (hends : List.Forall₂ (fun part e => s.encodeEnds part = .ok e)
      (RangeSplit.between true (a :: rest)) ends)
    (hn : k + ends.length = n) :
    Route s.sortKeys true a z ((ends.zipIdx k).map (ask true n)) := by
  induction rest generalizing a k ends with
  | nil => cases hlast
  | cons b rest ih =>
    obtain ⟨e, ends, he, hparts, rfl⟩ := List.forall₂_cons_left_iff.mp hends
    have hkeys := readKeys_encodeEnds he hdirection
    obtain ⟨hfirst, horder⟩ := List.pairwise_cons.mp horder
    have hle := hfirst b List.mem_cons_self
    cases rest with
    | nil =>
      -- The last part: its index is the greatest one.
      obtain rfl : b = z := by simpa using hlast
      cases hparts
      have hfinal : isFinal true n k = true := by simpa [isFinal] using hn
      rw [List.zipIdx_cons, List.map_cons, ask, hfinal]
      exact Route.last hle hkeys
    | cons c rest =>
      have hfinal : isFinal true n k = false := by
        obtain ⟨e', ends', -, -, rfl⟩ := List.forall₂_cons_left_iff.mp hparts
        simp only [List.length_cons] at hn
        simp only [isFinal, if_true, beq_eq_false_iff_ne]
        omega
      rw [List.zipIdx_cons, List.map_cons, ask, hfinal]
      exact Route.step hle hkeys (ih hlast horder hparts (by rw [← hn, List.length_cons]; omega))

/-- Downward, the parts behind the first are asked for in reverse, and none is final. -/
private theorem route_descending (hdirection : s.sortKeys.ascendsFirst = false) {a z : Tuple}
    {rest : List Tuple} {ends : List (KeyRange × Bytes × Bytes)} {k n : Nat} (hk : 0 < k)
    (hlast : (a :: rest).getLast? = some z)
    (horder : (a :: rest).Pairwise fun a b => (s.sortKeys.compare b a).isLE)
    (hends : List.Forall₂ (fun part e => s.encodeEnds part = .ok e)
      (RangeSplit.between false (a :: rest)) ends) :
    Route s.sortKeys false z a ((ends.zipIdx k).map (ask false n)).reverse := by
  induction rest generalizing a k ends with
  | nil =>
    obtain rfl : a = z := by simpa using hlast
    cases hends
    exact Route.stay a
  | cons b rest ih =>
    obtain ⟨e, ends, he, hparts, rfl⟩ := List.forall₂_cons_left_iff.mp hends
    have hkeys := readKeys_encodeEnds he hdirection
    obtain ⟨hfirst, horder⟩ := List.pairwise_cons.mp horder
    have hle := hfirst b List.mem_cons_self
    have hfinal : isFinal false n k = false := by simpa [isFinal] using Nat.ne_of_gt hk
    -- In reverse, this part is asked for behind all that follow it in value order.
    rw [List.zipIdx_cons, List.map_cons, ask, hfinal, List.reverse_cons]
    exact (ih (Nat.succ_pos k) hlast horder hparts).append (Route.step hle hkeys (Route.stay a))

/-- The asks for parts in reading order. -/
def readingOrder (ascending : Bool) (ends : List (KeyRange × Bytes × Bytes)) : List RangeAsk :=
  let asks := ends.zipIdx.map (ask ascending ends.length)
  if ascending then asks else asks.reverse

/-- Turning the order round leaves no range out. -/
theorem length_readingOrder (ascending : Bool) (ends : List (KeyRange × Bytes × Bytes)) :
    (readingOrder ascending ends).length = ends.length := by
  unfold readingOrder
  cases ascending <;> simp

/-- The parts of a split are asked for along a route. -/
private theorem route_parts {split : RangeSplit} {leading : SortKey} (hvalid : split.Valid leading)
    (hschema : split.schema = s.sortKeys) {m : Nat} {ends : List (KeyRange × Bytes × Bytes)}
    (hends : List.Forall₂ (fun part e => s.encodeEnds part = .ok e)
      (RangeSplit.between split.range.ascending (split.boundaries m)) ends) :
    Route s.sortKeys true split.range.first split.range.last
      (readingOrder split.range.ascending ends) := by
  obtain ⟨second, rest, hbounds, hlast⟩ : ∃ second rest,
      split.boundaries m = split.range.low :: second :: rest ∧
        (second :: rest).getLast? = some split.range.high := by
    rw [RangeSplit.boundaries_eq, List.cons_append]
    have hlast := List.getLast?_concat
      (l := (split.low.innerBoundaries split.high m).map split.padded) (a := split.range.high)
    revert hlast
    cases hinner : (split.low.innerBoundaries split.high m).map split.padded ++ [split.range.high]
    case nil => simp at hinner
    case cons second rest => exact fun hlast => ⟨second, rest, rfl, hlast⟩
  -- The service swaps the ends of a request by its own schema, the plan by the range.
  have hdirection : s.sortKeys.ascendsFirst = split.range.ascending := by
    rw [← hschema, KeySchema.ascendsFirst_eq hvalid.keys, hvalid.ascending]
  have horder := hvalid.pairwise_boundaries m
  rw [hbounds] at horder hends
  unfold readingOrder KeyRange.first KeyRange.last
  cases hascending : split.range.ascending with
  | true =>
    rw [hascending] at hends hdirection
    have horder' := horder.imp (S := fun a b => (s.sortKeys.compare a b).isLE) fun {a b} hab => by
      rwa [RangeSplit.InOrder, hascending, hschema] at hab
    exact route_ascending hdirection hlast horder' hends (Nat.zero_add _)
  | false =>
    rw [hascending] at hends hdirection
    have horder' := horder.imp (S := fun a b => (s.sortKeys.compare b a).isLE) fun {a b} hab => by
      rwa [RangeSplit.InOrder, hascending, hschema] at hab
    obtain ⟨e, ends, he, hparts, rfl⟩ := List.forall₂_cons_left_iff.mp hends
    have hkeys := readKeys_encodeEnds he hdirection
    obtain ⟨hfirst, horder'⟩ := List.pairwise_cons.mp horder'
    have hback := route_descending (n := (e :: ends).length) hdirection Nat.one_pos hlast horder'
      hparts
    -- The part at the low end is read last of all.
    have hall := hback.append (Route.last (hfirst second List.mem_cons_self) hkeys)
    simp only [Bool.false_eq_true, if_false, List.zipIdx_cons, List.map_cons, List.reverse_cons]
    exact hall

/-! ## §4 Groups -/

/-- The groups of parts, sorted by their ranges, stand in reading order. -/
private theorem map_mergeSort_parts {ascending : Bool} {bounds : List Tuple}
    {ends : List (KeyRange × Bytes × Bytes)}
    (hends : List.Forall₂ (fun part e => s.encodeEnds part = .ok e)
      (RangeSplit.between ascending bounds) ends)
    (horder : (RangeSplit.between ascending bounds).Pairwise fun p q =>
      if ascending then KeyRange.compare s.sortKeys p q = .lt
      else KeyRange.compare s.sortKeys q p = .lt) :
    ((ends.zipIdx.map fun ((part, low, high), i) =>
        (part, s.rangeGroup low high (isFinal part.ascending ends.length i))).mergeSort
          fun a b => a.1.compare s.sortKeys b.1 != .gt).map (·.2)
      = (readingOrder ascending ends).map s.askGroup := by
  have hparts : ends.map (·.1) = RangeSplit.between ascending bounds := by
    have heq : List.Forall₂ (fun part e => part = e.1) (RangeSplit.between ascending bounds) ends :=
      hends.imp fun part e he => by
        obtain ⟨low, high, -, -, rfl⟩ := encodeEnds_eq_ok.mp he
        rfl
    rw [← List.forall₂_map_right_iff, List.forall₂_eq_eq_eq] at heq
    exact heq.symm
  have hgroups : (ends.zipIdx.map fun ((part, low, high), i) =>
        (part, s.rangeGroup low high (isFinal part.ascending ends.length i)))
      = ends.zipIdx.map fun e => (e.1.1, s.askGroup (ask ascending ends.length e)) := by
    apply List.map_congr_left
    intro e he
    have hmem : e.1.1 ∈ RangeSplit.between ascending bounds := by
      rw [← hparts]
      exact List.mem_map_of_mem (List.fst_mem_of_mem_zipIdx he)
    rw [← (RangeSplit.mem_between hmem).1]
    rfl
  have hview : ((ends.zipIdx.map fun e => (e.1.1, s.askGroup (ask ascending ends.length e))).map
      (·.1)) = RangeSplit.between ascending bounds := by
    rw [List.map_map, ← hparts]
    conv_rhs => rw [← List.zipIdx_map_fst 0 ends]
    rw [List.map_map]
    rfl
  rw [← hview, List.pairwise_map] at horder
  rw [hgroups]
  unfold readingOrder
  cases ascending with
  | true =>
    -- Upward, the groups are in order as they stand.
    have hsort := mergeSort_eq_of_perm (KeyRange.compare s.sortKeys) (fun g => g.1)
      (List.Perm.refl _) (horder.imp fun hlt => by simpa using hlt)
    rw [hsort]
    simp [Function.comp_def]
  | false =>
    -- Downward, they are in order when they are reversed.
    have hsort := mergeSort_eq_of_perm (KeyRange.compare s.sortKeys) (fun g => g.1)
      (List.reverse_perm _).symm
      (List.pairwise_reverse.mpr (horder.imp fun hlt => by simpa using hlt))
    rw [hsort]
    simp [Function.comp_def]

/-- What a plan over sub-ranges goes through: it cuts the range of the statistics, encodes the ends
of the parts in value order, and asks for the parts in reading order. -/
theorem rangeGroups_inv {wanted : Nat} {groups : List FetchGroup}
    (h : s.rangeGroups wanted = .ok groups) :
    ∃ range split parts ends, s.stats.keyRange s.sortKeys = .ok range ∧
      RangeSplit.make s.sortKeys range = .ok split ∧
      split.parts (min split.cardinality wanted) = .ok parts ∧
      List.Forall₂ (fun part e => s.encodeEnds part = .ok e) parts ends ∧
      groups = (readingOrder range.ascending ends).map s.askGroup := by
  -- The five steps of the planner, in their order.
  obtain ⟨range, hrange, h⟩ := Fallible.bind_eq_ok.mp h
  obtain ⟨split, hsplit, h⟩ := Fallible.bind_eq_ok.mp h
  obtain ⟨parts, hparts, h⟩ := Fallible.bind_eq_ok.mp h
  obtain ⟨ends, hends, h⟩ := Fallible.bind_eq_ok.mp h
  cases h
  replace hends := Fallible.mapM_eq_ok.mp hends
  refine ⟨range, split, parts, ends, hrange, hsplit, hparts, hends, ?_⟩
  obtain ⟨rfl, leading, hvalid⟩ := RangeSplit.valid_make hrange hsplit
  obtain ⟨-, rfl⟩ := RangeSplit.parts_eq_ok_iff.mp hparts
  exact map_mergeSort_parts hends (hvalid.pairwise_parts _)

/-- The groups of a stage, in the order in which they are planned, ask for its rows along a route
through its range. -/
theorem rangeGroups_route {wanted : Nat} {groups : List FetchGroup}
    (h : s.rangeGroups wanted = .ok groups) :
    ∃ range asks, s.stats.keyRange s.sortKeys = .ok range ∧
      Route s.sortKeys true range.first range.last asks ∧ asks.length ≤ wanted ∧
      groups = asks.map s.askGroup := by
  obtain ⟨range, split, parts, ends, hrange, hsplit, hparts, hends, rfl⟩ := rangeGroups_inv h
  obtain ⟨rfl, leading, hvalid⟩ := RangeSplit.valid_make hrange hsplit
  set split : RangeSplit := ⟨s.sortKeys, range⟩
  obtain ⟨hpos, rfl⟩ := RangeSplit.parts_eq_ok_iff.mp hparts
  refine ⟨range, readingOrder range.ascending ends, hrange, route_parts hvalid rfl hends, ?_, rfl⟩
  -- There are as many asks as parts, which are one more than the inner boundaries.
  have hlength := split.length_between_boundaries split.range.ascending
    (min split.width (min split.cardinality wanted))
  have hinner := Datum.length_innerBoundaries split.low split.high
    (min split.width (min split.cardinality wanted))
  rw [length_readingOrder, ← hends.length_eq]
  omega

/-! ## §5 Which stages can be cut -/

/-- What it takes to ask for sub-ranges of a stage: a range that can be cut and encoded. -/
structure Spans (s : InputStage) (range : KeyRange) : Prop where
  keyRange : s.stats.keyRange s.sortKeys = .ok range
  make : ∃ split, RangeSplit.make s.sortKeys range = .ok split
  low : ∃ key, s.sortKeys.encode range.low = .ok key
  high : ∃ key, s.sortKeys.encode range.high = .ok key

/-- A part can be encoded if its ends can. -/
private theorem encodeEnds_ok_iff {range : KeyRange} :
    (∃ part, s.encodeEnds range = .ok part) ↔
      (∃ key, s.sortKeys.encode range.low = .ok key) ∧
        ∃ key, s.sortKeys.encode range.high = .ok key := by
  simp only [encodeEnds_eq_ok]
  constructor
  · rintro ⟨_, low, high, hlow, hhigh, -⟩
    exact ⟨⟨low, hlow⟩, high, hhigh⟩
  · rintro ⟨⟨low, hlow⟩, high, hhigh⟩
    exact ⟨_, low, high, hlow, hhigh, rfl⟩

/-- All parts can be encoded if the ends of the whole range can. -/
private theorem mapM_encodeEnds_ok_iff {split : RangeSplit} {leading : SortKey}
    (hvalid : split.Valid leading) (hschema : split.schema = s.sortKeys) (n : Nat) :
    (∃ ends, (RangeSplit.between split.range.ascending (split.boundaries n)).mapM s.encodeEnds
      = .ok ends) ↔
      (∃ key, s.sortKeys.encode split.range.low = .ok key) ∧
        ∃ key, s.sortKeys.encode split.range.high = .ok key := by
  rw [Fallible.mapM_ok_iff, ← hschema]
  constructor
  · intro h
    -- Each boundary is an end of a part, the two ends of the range among them.
    have hbound {b : Tuple} (hb : b ∈ split.boundaries n) :
        ∃ key, split.schema.encode b = .ok key := by
      have hlength : 2 ≤ (split.boundaries n).length := by
        rw [split.length_boundaries]
        exact Nat.le_add_left 2 _
      obtain ⟨part, hpart, hend⟩ := RangeSplit.exists_part_of_mem hlength hb
      have hpartEnds := encodeEnds_ok_iff.mp (h part hpart)
      rw [← hschema] at hpartEnds
      rcases hend with rfl | rfl
      · exact hpartEnds.1
      · exact hpartEnds.2
    rw [RangeSplit.boundaries_eq] at hbound
    exact ⟨hbound (by simp), hbound (by simp)⟩
  · rintro ⟨⟨low, hlow⟩, high, hhigh⟩ part hpart
    obtain ⟨-, hlow', hhigh'⟩ := RangeSplit.mem_between hpart
    rw [encodeEnds_ok_iff, ← hschema]
    exact ⟨RangeSplit.encode_boundary hvalid.keys hlow hhigh hlow',
      RangeSplit.encode_boundary hvalid.keys hlow hhigh hhigh'⟩

/-- Whether a stage can be cut into sub-ranges does not depend on how many are wanted. -/
theorem rangeGroups_ok_iff {wanted : Nat} (hwanted : 0 < wanted) :
    (∃ groups, s.rangeGroups wanted = .ok groups) ↔ ∃ range, s.Spans range := by
  constructor
  · rintro ⟨groups, h⟩
    obtain ⟨range, split, parts, ends, hrange, hsplit, hparts, hends, -⟩ := rangeGroups_inv h
    obtain ⟨rfl, leading, hvalid⟩ := RangeSplit.valid_make hrange hsplit
    obtain ⟨-, rfl⟩ := RangeSplit.parts_eq_ok_iff.mp hparts
    obtain ⟨hlow, hhigh⟩ :=
      (mapM_encodeEnds_ok_iff hvalid rfl _).mp ⟨ends, Fallible.mapM_eq_ok.mpr hends⟩
    exact ⟨range, hrange, ⟨_, hsplit⟩, hlow, hhigh⟩
  · rintro ⟨range, hrange, ⟨split, hsplit⟩, hlow, hhigh⟩
    obtain ⟨rfl, leading, hvalid⟩ := RangeSplit.valid_make hrange hsplit
    -- The number of parts is positive, so the split does not refuse it.
    have hcount : min (RangeSplit.cardinality ⟨s.sortKeys, range⟩) wanted ≠ 0 := by
      have := RangeSplit.cardinality_pos ⟨s.sortKeys, range⟩
      omega
    obtain ⟨ends, hends⟩ := (mapM_encodeEnds_ok_iff hvalid rfl _).mpr ⟨hlow, hhigh⟩
    exact ⟨_, Fallible.bind_eq_ok.mpr ⟨range, hrange, Fallible.bind_eq_ok.mpr ⟨_, hsplit,
      Fallible.bind_eq_ok.mpr ⟨_, if_neg hcount, Fallible.bind_eq_ok.mpr ⟨ends, hends, rfl⟩⟩⟩⟩⟩

end InputStage

end Shuffle
