import Shuffle.Bytes

/-!
# Faults in UTF-8

A byte string is read one well-formed sequence at a time. Where none starts, the *fault* is the
longest run of octets that could still have begun one.

- `Utf8.firstFault?` locates the first octet that belongs to no well-formed sequence.
- `Utf8.decodeLossy` reads any byte string as text, with U+FFFD in the place of each fault.
-/

namespace Shuffle.Utf8

/-! ## §1 One sequence -/

/-- What stands at the head of a non-empty byte string. -/
inductive Head where
  /-- A character written in `size` octets. -/
  | char (c : Char) (size : Nat)
  /-- `size` octets that no further octet completes. -/
  | broken (size : Nat)
  /-- The string ends inside a sequence. -/
  | cut

/-- An octet that continues a sequence: `10xxxxxx`. -/
def isContinuation (b : UInt8) : Bool := 0x80 ≤ b && b ≤ 0xBF

/-- The second octets that may follow a given first octet of a long sequence. Overlong forms,
surrogates and code points above U+10FFFF are excluded here. -/
def secondAllowed (first second : UInt8) : Bool :=
  if first = 0xE0 then 0xA0 ≤ second && second ≤ 0xBF
  else if first = 0xED then 0x80 ≤ second && second ≤ 0x9F
  else if first = 0xF0 then 0x90 ≤ second && second ≤ 0xBF
  else if first = 0xF4 then 0x80 ≤ second && second ≤ 0x8F
  else isContinuation second

/-- The payload bits of a continuation octet. -/
def payload (b : UInt8) : Nat := b.toNat % 64

/-- Length of the sequence that an octet opens; `0` for one that opens none. -/
def sequenceLength (first : UInt8) : Nat :=
  if first < 0x80 then 1
  else if 0xC2 ≤ first && first ≤ 0xDF then 2
  else if 0xE0 ≤ first && first ≤ 0xEF then 3
  else if 0xF0 ≤ first && first ≤ 0xF4 then 4
  else 0

/-- Reads the sequence opened by `first`. -/
def head (first : UInt8) (rest : Bytes) : Head :=
  match sequenceLength first, rest with
  | 1, _ => .char (Char.ofNat first.toNat) 1
  | 2, [] => .cut
  -- A sequence breaks off in front of the first octet that does not continue it.
  | 2, b :: _ =>
    if isContinuation b then .char (Char.ofNat (first.toNat % 32 * 64 + payload b)) 2 else .broken 1
  | 3, [] => .cut
  | 3, b :: more =>
    if secondAllowed first b then
      match more with
      | [] => .cut
      | c :: _ =>
        if isContinuation c then
          .char (Char.ofNat ((first.toNat % 16 * 64 + payload b) * 64 + payload c)) 3
        else .broken 2
    else .broken 1
  | 4, [] => .cut
  | 4, b :: more =>
    if secondAllowed first b then
      match more with
      | [] => .cut
      | c :: more =>
        if isContinuation c then
          match more with
          | [] => .cut
          | d :: _ =>
            if isContinuation d then
              .char
                (Char.ofNat (((first.toNat % 8 * 64 + payload b) * 64 + payload c) * 64 + payload d))
                4
            else .broken 3
        else .broken 2
    else .broken 1
  | _, _ => .broken 1

/-! ## §2 Whole strings -/

/-- Where a byte string stops being UTF-8. -/
inductive Fault where
  /-- `size` octets from index `start` on belong to no sequence. -/
  | invalid (size start : Nat)
  /-- The sequence at index `start` is not finished. -/
  | incomplete (start : Nat)
deriving DecidableEq, Repr

/-- The wording of a fault. -/
def Fault.message : Fault → String
  | .invalid size start => s!"invalid utf-8 sequence of {size} bytes from index {start}"
  | .incomplete start => s!"incomplete utf-8 byte sequence from index {start}"

/-- The first fault at or after the octet with index `start`. -/
def firstFaultFrom? (start : Nat) : Bytes → Option Fault
  | [] => none
  | b :: rest =>
    match head b rest with
    | .char _ size => firstFaultFrom? (start + size) (rest.drop (size - 1))
    | .broken size => some (.invalid size start)
    | .cut => some (.incomplete start)
termination_by bytes => bytes.length
decreasing_by simp only [List.length_drop, List.length_cons]; omega

/-- The first fault of a byte string; none for UTF-8. -/
def firstFault? (bytes : Bytes) : Option Fault := firstFaultFrom? 0 bytes

/-- Reads bytes as UTF-8, each fault as one replacement character. -/
def decodeChars : Bytes → List Char
  | [] => []
  | b :: rest =>
    match head b rest with
    | .char c size => c :: decodeChars (rest.drop (size - 1))
    | .broken size => '\uFFFD' :: decodeChars (rest.drop (size - 1))
    | .cut => ['\uFFFD']
termination_by bytes => bytes.length
decreasing_by
  all_goals simp only [List.length_drop, List.length_cons]; omega

/-- Reads bytes as text, with U+FFFD for each fault. Text itself is read back unchanged. -/
def decodeLossy (bytes : Bytes) : String :=
  match bytes.toText? with
  | some text => text
  | none => String.ofList (decodeChars bytes)

/-- Reads bytes that have to be text. -/
def decode (bytes : Bytes) : Except Fault String :=
  match bytes.toText? with
  | some text => .ok text
  | none => .error ((firstFault? bytes).getD (.incomplete bytes.length))

end Shuffle.Utf8
