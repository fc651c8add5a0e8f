import Mathlib
import Shuffle.Proofs.Plan.Ranges
import Shuffle.Proofs.Plan.Words

/-!
# Parts cover the whole range

Whatever kind the first column is of, the parts of a range that is accepted begin at its low end,
end at its high end, and each ends where the next begins. Their first values rise strictly and stay
within the range: cuts that collide, that go back, or that lie above the high end are dropped, so
nothing is asked of the way in which they are found.

- `RangeSplit.Cover` is what parts are together, `RangeSplit.cover_between` finds it in boundaries.
- `RangeSplit.parts_cover` is the split, with bounds on the number of parts.
-/

namespace Shuffle

open Std

namespace RangeSplit

/-! ## §1 Neighbours -/

/-- Each part ends at a bound, and no part ends at the first one. -/
theorem map_high_between (ascending : Bool) (bounds : List Tuple) :
    (between ascending bounds).map (·.high) = bounds.tail := by
  fun_induction between ascending bounds with
  | case1 a b rest ih => rw [List.map_cons, ih, List.tail_cons, List.tail_cons]
  | case2 bounds hshort =>
    -- At most one bound is left.
    cases bounds with
    | nil => rfl
    | cons a rest =>
      cases rest with
      | nil => rfl
      | cons b rest => exact absurd rfl (hshort a b rest)

/-- Each range between neighbours ends where the next one begins. -/
theorem isChain_between (ascending : Bool) (bounds : List Tuple) :
    (between ascending bounds).IsChain fun p q => p.high = q.low := by
  fun_induction between ascending bounds with
  | case1 a b rest ih =>
    rw [List.isChain_cons]
    refine ⟨?_, ih⟩
    intro q hq
    -- The range behind the first begins at the second of the bounds.
    cases rest with
    | nil => cases hq
    | cons c rest =>
      obtain rfl := Option.some.inj hq
      rfl
  | case2 => exact List.isChain_nil

/-! ## §2 Covers -/

/-- Parts that lead from the low end of a range to its high end without a gap, upward in the first
column. -/
structure Cover (range : KeyRange) (parts : List KeyRange) : Prop where
  begins : parts.head?.map (·.low) = some range.low
  ends : parts.getLast?.map (·.high) = some range.high
  contiguous : parts.IsChain fun p q => p.high = q.low
  rising : (parts.map (·.low.get 0)).Pairwise fun a b => a.cmp b = .lt
  within : ∀ p ∈ parts, ((p.low.get 0).cmp (range.high.get 0)).isLE ∧
    ((p.high.get 0).cmp (range.high.get 0)).isLE
  direction : ∀ p ∈ parts, p.ascending = range.ascending

variable {s : RangeSplit} {n : Nat}

/-- No boundary has a first value above the high end. -/
theorem isLE_of_mem_boundaries (horder : s.low.cmp s.high ≠ .gt) {b : Tuple}
    (hb : b ∈ s.boundaries n) : ((b.get 0).cmp s.high).isLE := by
  rw [boundaries_eq] at hb
  rcases List.mem_append.mp hb with hb | hb
  · rcases List.mem_cons.mp hb with rfl | hb
    · exact Ordering.isLE_iff_ne_gt.mpr horder
    · obtain ⟨v, hv, rfl⟩ := List.mem_map.mp hb
      exact (Datum.mem_innerBoundaries hv).1
  · obtain rfl := List.mem_singleton.mp hb
    exact ReflCmp.isLE_rfl

/-- The ranges between boundaries cover the range. -/
theorem cover_between (horder : s.low.cmp s.high ≠ .gt) (n : Nat) :
    Cover s.range (between s.range.ascending (s.boundaries n)) := by
  have hlows := map_low_between s.range.ascending (s.boundaries n)
  have hhighs := map_high_between s.range.ascending (s.boundaries n)
  rw [boundaries_eq, List.dropLast_concat, ← boundaries_eq] at hlows
  rw [boundaries_eq, List.cons_append, List.tail_cons, ← List.cons_append, ← boundaries_eq]
    at hhighs
  refine ⟨?begins, ?ends, isChain_between _ _, ?rising, ?within, ?direction⟩
  case begins => rw [← List.head?_map, hlows, List.head?_cons]
  case ends => rw [← List.getLast?_map, hhighs, List.getLast?_concat]
  case rising =>
    -- The first values are the low end and the cuts that were kept.
    have hfirst : ((between s.range.ascending (s.boundaries n)).map (·.low.get 0))
        = s.low :: s.low.innerBoundaries s.high n := by
      have hget := congrArg (List.map fun t : Tuple => t.get 0) hlows
      rw [List.map_map, List.map_cons, List.map_map] at hget
      refine hget.trans (congrArg (s.low :: ·) ?_)
      exact List.map_id _
    -- What is kept lies above what was kept before, however the cuts were found.
    rw [hfirst]
    exact Datum.pairwise_innerBoundaries s.low s.high n
  case within =>
    -- Both ends of a part are boundaries.
    intro p hp
    obtain ⟨-, hlow, hhigh⟩ := mem_between hp
    exact ⟨isLE_of_mem_boundaries horder hlow, isLE_of_mem_boundaries horder hhigh⟩
  case direction => exact fun p hp => (mem_between hp).1

/-- There is at least one key to split. -/
theorem width_pos (s : RangeSplit) : 0 < s.width := Datum.cardinality_pos _ _

/-- The parts are the ranges between as many boundaries as can be told apart. -/
theorem parts_eq_between (hn : 0 < n) :
    s.parts n = .ok (between s.range.ascending (s.boundaries (min s.width n))) :=
  parts_eq_ok_iff.mpr ⟨hn, rfl⟩

/-! ## §3 Splits -/

/-- **Every split is a contiguous cover that rises.** A range that is accepted can be cut into any
positive number of parts. There is at least one part, and there are no more than were asked for, or
than the first column has values. The same parts come of a computation in words, in which no access
and no subtraction fails. -/
theorem parts_cover {schema : KeySchema} {range : KeyRange} (h : make schema range = .ok s)
    (hn : 0 < n) :
    ∃ parts, s.parts n = .ok parts ∧ 1 ≤ parts.length ∧ parts.length ≤ min n s.width ∧
      Cover range parts ∧ (n < UInt64.size → s.partsInWords? n = some (.ok parts)) := by
  obtain ⟨hs, -, -, -, -, horder⟩ := make_eq_ok_iff.mp h
  have hparts := parts_eq_between (s := s) hn
  have hlength := s.length_between_boundaries s.range.ascending (min s.width n)
  have hinner := Datum.length_innerBoundaries s.low s.high (min s.width n)
  have hwidth := s.width_pos
  refine ⟨_, hparts, ?least, ?most, ?cover, ?words⟩
  case least => omega
  case most => omega
  case cover =>
    -- The first part begins at the low end, and the last one ends at the high end.
    subst hs
    exact cover_between (s := ⟨schema, range⟩) horder _
  case words =>
    intro hword
    -- No step overflows its word.
    rw [partsInWords?_eq h hword, hparts]

/-- A range whose ends begin with characters below and above the surrogates. -/
def surrogateSplit : RangeSplit :=
  ⟨⟨[⟨"t", .text, false, false⟩, ⟨"k", .int8, true, false⟩]⟩,
    ⟨⟨[.text "\uD7FF", .int8 9]⟩, ⟨[.text "\uE001z", .int8 1]⟩, false⟩⟩

/-- Of three parts of such a range both cuts fall on surrogates. They meet at the first character
behind these, and only one of them is kept. -/
theorem parts_cover_surrogates :
    make surrogateSplit.schema surrogateSplit.range = .ok surrogateSplit ∧
      ∃ parts, surrogateSplit.parts 3 = .ok parts ∧ parts.length = 2 ∧
        Cover surrogateSplit.range parts ∧ surrogateSplit.partsInWords? 3 = some (.ok parts) := by
  have hmake : make surrogateSplit.schema surrogateSplit.range = .ok surrogateSplit := by
    decide +kernel
  have hcuts : surrogateSplit.low.innerBoundaries surrogateSplit.high 3 = [.text "\uE000"] := by
    decide +kernel
  obtain ⟨parts, hparts, -, -, hcover, hwords⟩ := parts_cover hmake (n := 3) (by decide)
  refine ⟨hmake, parts, hparts, ?_, hcover, hwords (by decide)⟩
  have hthree : min surrogateSplit.width 3 = 3 := by decide +kernel
  have hbetween := surrogateSplit.length_between_boundaries surrogateSplit.range.ascending 3
  rw [hcuts, List.length_singleton] at hbetween
  rw [parts_eq_between (by decide), hthree] at hparts
  rw [← Except.ok.inj hparts, hbetween]

end RangeSplit

end Shuffle
