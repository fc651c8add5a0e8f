/-!
# Paths

A path is a text of names between slashes. `Path.join` puts one behind another, and `Path.steps`
says how to walk it.
-/

namespace Shuffle

/-- A path of a file or a directory. -/
structure Path where
  text : String
deriving DecidableEq, Repr

namespace Path

/-- Does the path start at the root? -/
def isAbsolute (p : Path) : Bool := p.text.toList.head? == some '/'

/-- The path `b` taken from the directory `a`. An absolute path takes the place of what is before
it, and an empty one leaves a slash at the end. -/
def join (a b : Path) : Path :=
  if b.isAbsolute then b
  else if a.text = "" ∨ a.text.toList.getLast? = some '/' then ⟨a.text ++ b.text⟩
  else ⟨a.text ++ "/" ++ b.text⟩

/-- One step of a walk. -/
inductive Step where
  /-- Stay in the directory. -/
  | here
  /-- Go to the directory above. -/
  | up
  /-- Go to an entry of the directory. -/
  | down (name : String)
deriving DecidableEq, Repr

/-- The step that a name between slashes stands for. -/
def Step.ofName (name : String) : Step :=
  if name = "." then .here else if name = ".." then .up else .down name

/-- Does a step go to an entry whose name has a zero character? No file has such a name. -/
def Step.hasZero : Step → Bool
  | .down name => name.toList.contains '\x00'
  | _ => false

/-- The names between slashes. -/
def names (p : Path) : List String := (p.text.toList.splitOn '/').map String.ofList

/-- The steps of a path. Repeated slashes count once; a slash at the end asks for a directory. -/
def steps (p : Path) : List Step :=
  let walk := (p.names.filter (· ≠ "")).map Step.ofName
  if p.text.toList.getLast? = some '/' then walk ++ [.here] else walk

/-- Is there a zero character in the path? -/
def hasZero (p : Path) : Bool := p.steps.any Step.hasZero

/-- Does a slash stand behind the last name? Such a path names a directory. -/
def namesDirectory (p : Path) : Bool :=
  p.text.toList.getLast? == some '/'
    && (p.names.filter (· ≠ "")).getLast?.any fun name => name ≠ "." ∧ name ≠ ".."

/-- Does the path stay within the directory it starts from, by its text alone? -/
def isInner (p : Path) : Bool := !p.isAbsolute && !p.steps.contains .up

end Path

end Shuffle
