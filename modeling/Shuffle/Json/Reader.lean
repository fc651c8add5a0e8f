import Shuffle.Json.Value

/-!
# Reading JSON

A text is cut into tokens, and the tokens are put together on a stack of open brackets, so that
nesting may be of any depth.

- `Token.scan` cuts a text into tokens; it recurses on what a token leaves.
- `Json.ofTokens?` takes the tokens one by one.
- `Json.parse` is both. It accepts exactly one value with blanks around it.
-/

namespace Shuffle

/-! ## §1 Strings -/

/-- A piece of a string: a character, or a UTF-16 unit that an escape gives. -/
inductive StringPiece where
  | char (c : Char)
  | unit (code : Nat)
deriving Repr

namespace StringPiece

/-- The value of a hexadecimal digit. -/
def hexValue? (c : Char) : Option Nat :=
  if c.isDigit then some (c.toNat - 0x30)
  else if 'a' ≤ c ∧ c ≤ 'f' then some (c.toNat - 0x61 + 10)
  else if 'A' ≤ c ∧ c ≤ 'F' then some (c.toNat - 0x41 + 10)
  else none

/-- The unit that four hexadecimal digits spell. -/
def unitOf? (a b c d : Char) : Option Nat := do
  return ((← hexValue? a) * 16 + (← hexValue? b)) * 256 + (← hexValue? c) * 16 + (← hexValue? d)

/-- The character that a letter stands for behind a backslash. -/
def simpleEscape? (c : Char) : Option Char :=
  match c with
  | '"' => some '"'
  | '\\' => some '\\'
  | '/' => some '/'
  | 'b' => some (Char.ofNat 8)
  | 'f' => some (Char.ofNat 12)
  | 'n' => some '\n'
  | 'r' => some '\r'
  | 't' => some '\t'
  | _ => none

/-- Reads a string from behind its first quote on. -/
def readAll : List Char → Option (List StringPiece × List Char)
  | [] => none
  | '"' :: rest => some ([], rest)
  | '\\' :: 'u' :: a :: b :: c :: d :: rest =>
    match unitOf? a b c d, readAll rest with
    | some code, some (pieces, rest) => some (.unit code :: pieces, rest)
    | _, _ => none
  | '\\' :: e :: rest =>
    match simpleEscape? e, readAll rest with
    | some c, some (pieces, rest) => some (.char c :: pieces, rest)
    | _, _ => none
  | c :: rest =>
    if c.toNat < 0x20 then none
    else
      match readAll rest with
      | some (pieces, rest) => some (.char c :: pieces, rest)
      | none => none

/-- A string is longer than what it leaves. -/
theorem length_of_readAll {text : List Char} {r : List StringPiece × List Char}
    (h : readAll text = some r) : r.2.length < text.length := by
  fun_induction readAll text generalizing r with
  | case1 => simp at h
  | case2 => obtain rfl := Option.some.inj h; simp
  | case3 _ _ _ _ _ _ _ _ hr _ ih =>
    obtain rfl := Option.some.inj h
    have := ih hr
    simp only [List.length_cons] at this ⊢
    omega
  | case4 => simp at h
  | case5 _ _ _ _ _ _ hr _ ih =>
    obtain rfl := Option.some.inj h
    have := ih hr
    simp only [List.length_cons] at this ⊢
    omega
  | case6 => simp at h
  | case7 => simp at h
  | case8 _ _ _ _ _ _ _ _ hr ih =>
    obtain rfl := Option.some.inj h
    have := ih hr
    simp only [List.length_cons] at this ⊢
    omega
  | case9 => simp at h

/-- Is this unit the first half of a pair? -/
def isHigh (code : Nat) : Bool := 0xD800 ≤ code && code ≤ 0xDBFF

/-- Is this unit the second half of a pair? -/
def isLow (code : Nat) : Bool := 0xDC00 ≤ code && code ≤ 0xDFFF

/-- The characters of a string; none if it holds half of a pair. -/
def chars? : List StringPiece → Option (List Char)
  | [] => some []
  | .char c :: rest => (chars? rest).map (c :: ·)
  | .unit high :: .unit low :: rest =>
    -- Two halves in a row make up one character.
    if isHigh high then
      if isLow low then
        (chars? rest).map (Char.ofNat (0x10000 + (high - 0xD800) * 0x400 + (low - 0xDC00)) :: ·)
      else none
    else if isLow high then none
    else (chars? (.unit low :: rest)).map (Char.ofNat high :: ·)
  | .unit code :: rest =>
    if isHigh code || isLow code then none else (chars? rest).map (Char.ofNat code :: ·)

/-- The text of a string; none if it holds half of a pair. -/
def text? (pieces : List StringPiece) : Option String := (chars? pieces).map String.ofList

end StringPiece

/-! ## §2 Tokens -/

/-- A token of JSON. -/
inductive Token where
  | openArray
  | closeArray
  | openObject
  | closeObject
  | comma
  | colon
  /-- A string, which may also be the name of a member. -/
  | text (value : Option String)
  /-- Any other value without brackets. -/
  | scalar (value : Json)
deriving Repr

namespace Token

/-- A blank between tokens. -/
def isBlank (c : Char) : Bool := c == ' ' || c == '\n' || c == '\t' || c == '\r'

/-- A character of numbers and of the three words. -/
def isWordChar (c : Char) : Bool := c.isAlphanum || c == '+' || c == '-' || c == '.'

/-- The value that a word spells. -/
def ofWord? (word : List Char) : Option Json :=
  if word = "null".toList then some .null
  else if word = "true".toList then some (.bool true)
  else if word = "false".toList then some (.bool false)
  else (Json.Literal.read word).map fun _ => .number (String.ofList word)

/-- The token that one character is. -/
def ofBracket? (c : Char) : Option Token :=
  if c = '[' then some .openArray
  else if c = ']' then some .closeArray
  else if c = '\x7b' then some .openObject
  else if c = '\x7d' then some .closeObject
  else if c = ',' then some .comma
  else if c = ':' then some .colon
  else none

/-- Reads the token at the head of a text that is not blank there. -/
def next? (c : Char) (rest : List Char) : Option (Token × List Char) :=
  match ofBracket? c with
  | some token => some (token, rest)
  | none =>
    if c = '"' then
      match StringPiece.readAll rest with
      | some (pieces, rest) => some (.text (StringPiece.text? pieces), rest)
      | none => none
    else if isWordChar c then
      match ofWord? (c :: rest.takeWhile isWordChar) with
      | some value => some (.scalar value, rest.dropWhile isWordChar)
      | none => none
    else none

/-- A token takes at least one character. -/
theorem length_of_next? {c : Char} {text rest : List Char} {token : Token}
    (h : next? c text = some (token, rest)) : rest.length ≤ text.length := by
  unfold next? at h
  split at h
  · simp_all
  · split at h
    · split at h
      · rename_i hs
        have := StringPiece.length_of_readAll hs
        simp_all
        omega
      · simp at h
    · split at h
      · split at h
        · have := (List.dropWhile_sublist isWordChar (l := text)).length_le
          simp_all
        · simp at h
      · simp at h

/-- Cuts a text into tokens. -/
def scan (text : List Char) : Option (List Token) :=
  match text with
  | [] => some []
  | c :: rest =>
    if isBlank c then scan rest
    else
      match _h : next? c rest with
      | none => none
      | some (token, rest) => (scan rest).map (token :: ·)
termination_by text.length
decreasing_by
  · simp
  · have := length_of_next? _h
    simp only [List.length_cons]
    omega

end Token

/-! ## §3 Building a value -/

/-- An open bracket with what stands in it so far, the last item first. -/
inductive Frame where
  | array (items : List Json)
  /-- `name` is the name of the member whose value is being read. -/
  | object (members : List (Option String × Json)) (name : Option String)
deriving Repr

/-- What may come next. -/
inductive Expect where
  /-- A value. -/
  | value
  /-- A value or the end of an array that has no items yet. -/
  | firstItem
  /-- The name of a member. -/
  | name
  /-- The name of a member or the end of an object that has no members yet. -/
  | firstName
  | colon
  /-- A comma or the end of the innermost bracket. -/
  | separator
  /-- Nothing: the value is complete. -/
  | done (value : Json)
deriving Repr

/-- The open brackets, the innermost first, and what may come next. -/
structure Builder where
  stack : List Frame := []
  expect : Expect := .value
deriving Repr

namespace Builder

/-- Puts a complete value into the innermost bracket. -/
def put (stack : List Frame) (value : Json) : Builder :=
  match stack with
  | [] => ⟨[], .done value⟩
  | .array items :: rest => ⟨.array (value :: items) :: rest, .separator⟩
  | .object members name :: rest => ⟨.object ((name, value) :: members) none :: rest, .separator⟩

/-- Does a value fit here? -/
def wantsValue : Expect → Bool
  | .value | .firstItem => true
  | _ => false

/-- Does the innermost bracket take a closing bracket here? -/
def mayClose : Expect → Bool
  | .firstItem | .firstName | .separator => true
  | _ => false

/-- Takes a token. -/
def step (b : Builder) (token : Token) : Option Builder :=
  match token, b.expect, b.stack with
  | .text name, .name, .object members _ :: rest =>
    some ⟨.object members name :: rest, .colon⟩
  | .text name, .firstName, .object members _ :: rest =>
    some ⟨.object members name :: rest, .colon⟩
  | .colon, .colon, stack => some ⟨stack, .value⟩
  | .comma, .separator, .array items :: rest => some ⟨.array items :: rest, .value⟩
  | .comma, .separator, .object members name :: rest =>
    some ⟨.object members name :: rest, .name⟩
  -- Items were put in front of each other, so they are turned round in the end.
  | .closeArray, expect, .array items :: rest =>
    if mayClose expect then some (put rest (.array items.reverse)) else none
  | .closeObject, expect, .object members _ :: rest =>
    if mayClose expect then some (put rest (.object members.reverse)) else none
  | .openArray, expect, stack =>
    if wantsValue expect then some ⟨.array [] :: stack, .firstItem⟩ else none
  | .openObject, expect, stack =>
    if wantsValue expect then some ⟨.object [] none :: stack, .firstName⟩ else none
  -- Where no name is wanted, a text is a value.
  | .text value, expect, stack =>
    if wantsValue expect then some (put stack (.text value)) else none
  | .scalar value, expect, stack =>
    if wantsValue expect then some (put stack value) else none
  | _, _, _ => none

end Builder

namespace Json

/-- The value that tokens spell. -/
def ofTokens? (tokens : List Token) : Option Json :=
  match tokens.foldlM Builder.step ⟨[], .value⟩ with
  | some ⟨_, .done value⟩ => some value
  | _ => none

/-- Reads one value with blanks around it. -/
def parse (text : String) : Option Json := (Token.scan text.toList).bind ofTokens?

end Json

end Shuffle
