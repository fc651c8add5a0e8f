import Shuffle.Text.Composed
import Shuffle.Text.Direction
import Shuffle.Text.Joining
import Shuffle.Text.Punycode
import Shuffle.Url.MappedChars

/-!
# Labels of host names

The parts between the dots of a host name. A label may be written in any characters, or in a code
of ASCII characters that opens with `xn--`. What it stands for has to be sound: composed, of
characters that labels may have, and with joiners only where they are sensible.

- `Label.text?` is the text that a label stands for.
- `Label.toAscii?` is the form of a name in ASCII: its characters are replaced by what they stand
  for, and labels with other characters than ASCII ones are coded.
-/

namespace Shuffle.Label

/-! ## §1 Labels -/

/-- The coded text of a label that stands for another text. -/
def code? : List Char → Option (List Char)
  | 'x' :: 'n' :: '-' :: '-' :: code => some code
  | _ => none

/-- A label that stands for the text that is coded. -/
def ofCode (code : List Char) : List Char := 'x' :: 'n' :: '-' :: '-' :: code

/-- Can a label stand for this text? -/
def isSound (text : List Char) : Bool :=
  (code? text).isNone && text.all mayHave && !text.head?.any Mark.isMark
    && Composed.isComposed text && Joining.isSound text

/-- The text that a sound label stands for. A coded text has to need its code. -/
def text? (label : List Char) : Option (List Char) :=
  match code? label with
  | some code =>
    -- A code is not taken apart twice: what it stands for is no code again.
    (Punycode.decode code).filter fun text => !text.all Punycode.isBasic && isSound text
  | none => if isSound label then some label else none

/-- A label in ASCII. -/
def toAscii (label : List Char) : List Char :=
  if label.all Punycode.isBasic then label else ofCode (Punycode.encode label)

/-! ## §2 Names -/

/-- What a name stands for. None if it has a character that names do not have. -/
def spell? (name : List Char) : Option (List Char) :=
  (name.mapM meaning?).map fun texts => Composed.compose texts.flatten

/-- A name in ASCII. All its labels have to be sound, and to agree on their direction. -/
def toAscii? (name : List Char) : Option (List Char) := do
  let labels := (← spell? name).splitOn '.'
  let texts ← labels.mapM text?
  if Direction.agree texts then some (['.'].intercalate (labels.map toAscii)) else none

end Shuffle.Label
