import Shuffle.Text.Percent

/-!
# Paths of URLs

The text of a path is cut into segments. Reading removes the segments `.` and `..` (each dot
plain or escaped) and escapes the rest.

- `UrlPath.read` is the normal form of a path text.
- Under the `file` scheme the first segment may be a drive letter, which is written with a colon.
- Tabs and line breaks do not count, but they end a drive letter that a name follows directly.
-/

namespace Shuffle.UrlPath

/-! ## §1 Segments -/

/-- Is this a tab or a line break, which URLs ignore? -/
def isBreak (c : Char) : Bool := "\t\n\r".contains c

/-- A text without its tabs and line breaks. -/
def withoutBreaks (text : List Char) : List Char := text.filter (!isBreak ·)

/-- How many dots a segment is made of, if of nothing else. -/
def dotCount? : List Char → Option Nat
  | [] => some 0
  | '.' :: rest => (dotCount? rest).map (· + 1)
  | '%' :: '2' :: e :: rest =>
    if e = 'e' ∨ e = 'E' then (dotCount? rest).map (· + 1) else none
  | _ => none

/-- Is this a letter and a colon or a bar? -/
def isDrive : List Char → Bool
  | [letter, mark] => letter.isAlpha && (mark == ':' || mark == '|')
  | _ => false

/-- Does a segment open with a drive letter that nothing but a backslash follows? -/
def opensWithDrive : List Char → Bool
  | [letter, mark] => isDrive [letter, mark]
  | letter :: mark :: '\\' :: _ => isDrive [letter, mark]
  | _ => false

/-- A segment that tabs or line breaks cut into a drive letter and a name. -/
def brokenDrive? (segment : List Char) : Option (List Char × List Char) :=
  match segment.dropWhile isBreak with
  | [] => none
  | letter :: more =>
    match more.dropWhile isBreak with
    | ':' :: b :: behind =>
      let name := withoutBreaks behind
      if letter.isAlpha && isBreak b && !name.isEmpty then some ([letter, ':'], name) else none
    | _ => none

/-- Cuts a text at every separator. -/
def segments (isSeparator : Char → Bool) : List Char → List (List Char)
  | [] => [[]]
  | c :: rest =>
    if isSeparator c then [] :: segments isSeparator rest
    else
      match segments isSeparator rest with
      | [] => [[c]]
      | s :: more => (c :: s) :: more

/-! ## §2 Reading -/

/-- The rules under which a path is read. -/
structure Rules where
  /-- Does a backslash separate segments too? -/
  backslash : Bool
  /-- Is this the path of a file? -/
  file : Bool

/-- A path in the making: its finished segments, last one first. -/
structure Progress where
  done : List (List Char) := []
  /-- Did a drive letter come first? -/
  drive : Bool := false

/-- Goes up by one segment. A drive letter stays. -/
def Progress.up (p : Progress) : Progress :=
  match p.done with
  | [] => p
  | last :: rest => if opensWithDrive last then p else { p with done := rest }

/-- Adds a segment. -/
def Progress.push (rules : Rules) (p : Progress) (segment : List Char) : Progress :=
  if rules.file && p.done.isEmpty && isDrive segment then
    ⟨[segment.take 1 ++ [':']], true⟩
  else { p with done := segment :: p.done }

/-- Adds a name behind a drive letter. The name is taken as it is, even if it is made of dots. -/
def Progress.pushBroken (p : Progress) (letter name : List Char) : Progress :=
  { p with done := name :: letter :: p.done }

/-- Takes a segment without tabs and line breaks. A dot segment at the end leaves an empty
segment. -/
def Progress.take (rules : Rules) (p : Progress) (segment : List Char) (isLast : Bool) : Progress :=
  match dotCount? segment with
  | some 1 => if isLast then p.push rules [] else p
  | some 2 => if isLast then p.up.push rules [] else p.up
  | _ => p.push rules segment

/-- Takes the segments in order. -/
def walk (rules : Rules) : Progress → List (List Char) → Progress
  | p, [] => p
  | p, segment :: rest =>
    -- Only what comes first can be a drive letter.
    match if rules.file && p.done.isEmpty then brokenDrive? segment else none with
    | some (letter, name) => walk rules (p.pushBroken letter name) rest
    | none => walk rules (p.take rules (withoutBreaks segment) rest.isEmpty) rest

/-- A path that has been read. -/
structure Outcome where
  text : List Char
  /-- Did a drive letter come first? Such a path has no host. -/
  drive : Bool

/-- Reads the text of a path behind its first separator. -/
def readSegments (rules : Rules) (text : List Char) : Outcome :=
  let isSeparator := fun c => c == '/' || (rules.backslash && c == '\\')
  let p := walk rules ⟨[], false⟩ (segments isSeparator text)
  let path := p.done.reverse.flatMap fun s => '/' :: Percent.encode Percent.keptInPath s
  -- Empty segments at the front of a file's path are dropped.
  ⟨if rules.file then '/' :: path.dropWhile (· = '/') else path, p.drive⟩

/-- Reads the text of a path. A separator at its start does not count. -/
def read (rules : Rules) (text : List Char) : Outcome :=
  match text with
  | '/' :: rest => readSegments rules rest
  | '\\' :: rest => readSegments rules (if rules.backslash then rest else text)
  | text => readSegments rules text

end Shuffle.UrlPath
