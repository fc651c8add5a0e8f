/-!
# Punycode

Text in letters, digits and hyphens that stands for text with any characters. The characters of
ASCII come first, up to the last hyphen. What follows are numbers in digits `a` to `z` and `0` to
`9`: each tells how far to move on, through all places of the text and then through the next
character, before one character is put in.

- `Punycode.decode` reads such a text, and `Punycode.encode` writes it.
- The text that was last to be put together is the text without its newest character: the last one
  of the greatest. `Punycode.numbers` goes back along these steps.
-/

namespace Shuffle.Punycode

/-! ## §1 Numbers -/

/-- The value of a digit. Coded text has no capitals. -/
def digitValue? (c : Char) : Option Nat :=
  if 'a' ≤ c ∧ c ≤ 'z' then some (c.toNat - 0x61)
  else if c.isDigit then some (c.toNat - 0x30 + 26)
  else none

/-- The digit of a value. -/
def digit (value : Nat) : Char :=
  if value < 26 then Char.ofNat (0x61 + value) else Char.ofNat (0x30 + (value - 26))

/-- The bound of the digit at a position; a digit below it is the last one of its number.
Positions count in steps of 36. -/
def threshold (bias position : Nat) : Nat :=
  if position ≤ bias then 1 else if bias + 26 ≤ position then 26 else position - bias

theorem threshold_bounds (bias position : Nat) :
    1 ≤ threshold bias position ∧ threshold bias position ≤ 26 := by
  unfold threshold
  split
  · omega
  · split <;> omega

/-- Divides a distance by 35 until it is small. Answers also the bias of the steps taken. -/
def shrink (distance : Nat) : Nat × Nat :=
  if 455 < distance then
    let (rest, bias) := shrink (distance / 35)
    (rest, bias + 36)
  else (distance, 0)
termination_by distance
decreasing_by omega

/-- The bias of the next number, from the distance that was moved and the characters there are
now. -/
def adapt (first : Bool) (distance count : Nat) : Nat :=
  -- The first move, out of ASCII, is much longer than those that follow.
  let scaled := if first then distance / 700 else distance / 2
  let (rest, bias) := shrink (scaled + scaled / count)
  bias + 36 * rest / (rest + 38)

/-- Reads one number. Answers also what is left of the text. -/
def readNumber (bias : Nat) : (position weight soFar : Nat) → List Char → Option (Nat × List Char)
  | _, _, _, [] => none
  | position, weight, n, c :: rest =>
    match digitValue? c with
    | none => none
    | some d =>
      let bound := threshold bias position
      if d < bound then some (n + d * weight, rest)
      else readNumber bias (position + 36) (weight * (36 - bound)) (n + d * weight) rest

/-- A number takes at least one digit. -/
theorem length_readNumber_lt {bias position weight n m : Nat} {text rest : List Char}
    (h : readNumber bias position weight n text = some (m, rest)) : rest.length < text.length := by
  induction text generalizing position weight n with
  | nil => simp [readNumber] at h
  | cons c text ih =>
    rw [readNumber] at h
    split at h
    · simp at h
    · dsimp only at h
      split at h
      · simp only [Option.some.injEq, Prod.mk.injEq] at h
        simp [h.2]
      · exact Nat.lt_succ_of_lt (ih h)

/-- Writes one number, lowest digit first. What exceeds the bound of a digit is divided between
this digit and those behind it. -/
def writeNumber (bias position n : Nat) : List Char :=
  let bound := threshold bias position
  if n < bound then [digit n]
  else
    digit (bound + (n - bound) % (36 - bound))
      :: writeNumber bias (position + 36) ((n - bound) / (36 - bound))
termination_by n
decreasing_by
  have hbounds := threshold_bounds bias position
  exact Nat.lt_of_le_of_lt (Nat.div_le_self _ _) (by omega)

/-! ## §2 Reading a text -/

/-- A text in the making. -/
structure Progress where
  text : List Char
  /-- The character to put in next. -/
  next : Nat := 0x80
  /-- The place to put it at. -/
  place : Nat := 0
  bias : Nat := 72
  first : Bool := true

/-- Moves on and puts one character in. -/
def Progress.insert (p : Progress) (distance : Nat) : Option Progress :=
  let count := p.text.length + 1
  let target := p.place + distance
  let next := p.next + target / count
  -- Surrogates are numbers of no character, and neither is what lies behind the last one.
  if h : next.isValidChar then
    some ⟨p.text.insertIdx (target % count) (Char.ofNatAux next h), next, target % count + 1,
      adapt p.first distance count, false⟩
  else none

/-- Reads all numbers. -/
def readInsertions (p : Progress) (text : List Char) : Option (List Char) :=
  match text with
  | [] => some p.text
  | c :: more =>
    match _h : readNumber p.bias 36 1 0 (c :: more) with
    | none => none
    | some (distance, rest) => (p.insert distance).bind fun q => readInsertions q rest
termination_by text.length
decreasing_by exact length_readNumber_lt _h

/-- Cuts at the last hyphen. A hyphen at the very start belongs to the numbers. -/
def splitBasic (text : List Char) : List Char × List Char :=
  let (numbers, basic) := text.reverse.span (· ≠ '-')
  match basic with
  | _ :: b :: more => ((b :: more).reverse, numbers.reverse)
  | _ => ([], text)

/-- Is this a character that is written as it is? -/
def isBasic (c : Char) : Bool := c.toNat < 0x80

/-- The text that is written. -/
def decode (text : List Char) : Option (List Char) :=
  let (basic, numbers) := splitBasic text
  if basic.all isBasic then readInsertions { text := basic } numbers else none

/-! ## §3 Writing a text -/

/-- The character that was put in last, and its place: the last one of the greatest. -/
def newest? : List Char → Option (Nat × Char)
  | [] => none
  | c :: rest =>
    match newest? rest with
    | some (place, d) => if c.toNat ≤ d.toNat then some (place + 1, d) else some (0, c)
    | none => if isBasic c then none else some (0, c)

/-- The newest character has a place in its text. -/
theorem newest?_lt {text : List Char} {place : Nat} {c : Char}
    (h : newest? text = some (place, c)) : place < text.length := by
  induction text generalizing place c with
  | nil => simp [newest?] at h
  | cons d rest ih =>
    rw [newest?] at h
    split at h
    next i e hrest =>
      have hlt := ih hrest
      split at h <;> cases h
      · simpa using hlt
      · simp
    next =>
      split at h <;> cases h
      simp

/-- How far to move on in order to put a character in at a place. -/
def Progress.distance (p : Progress) (c : Char) (place : Nat) : Nat :=
  (c.toNat - p.next) * (p.text.length + 1) + place - p.place

/-- The numbers that stand for the characters of a text that are not basic, and how far they
lead. -/
def numbers (text : List Char) : List Char × Progress :=
  match _h : newest? text with
  | none => ([], { text := text })
  | some (place, c) =>
    -- The newest character is put in last, so the numbers of the others come first.
    let (before, p) := numbers (text.eraseIdx place)
    let distance := p.distance c place
    (before ++ writeNumber p.bias 36 distance,
      ⟨text, c.toNat, place + 1, adapt p.first distance (p.text.length + 1), false⟩)
termination_by text.length
decreasing_by
  have hlt := newest?_lt _h
  rw [List.length_eraseIdx_of_lt hlt]
  omega

/-- Writes a text: its basic characters, a hyphen behind them if there are any, and the numbers. -/
def encode (text : List Char) : List Char :=
  let basic := text.filter isBasic
  (if basic = [] then [] else basic ++ ['-']) ++ (numbers text).1

end Shuffle.Punycode
