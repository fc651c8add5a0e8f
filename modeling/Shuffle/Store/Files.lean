import Shuffle.Bytes
import Shuffle.Store.Path

/-!
# Files

A `FileStore` holds the files and directories that a service sees. Its view is
`FileStore.node?`, what stands at a location; paths are walked step by step, and each step has to
leave a directory.

- `FileStore.stat`, `FileStore.read`, `FileStore.slice` look.
- `FileStore.createDirs`, `FileStore.write`, `FileStore.remove`, `FileStore.resize` change, and
  `FileStore.put` makes a file together with its directories.
-/

namespace Shuffle

/-! ## §1 Places and faults -/

/-- A place in the tree of files: names from the root, or from the directory `above` levels over
the working directory. -/
structure Location where
  absolute : Bool
  above : Nat := 0
  names : List String := []
deriving DecidableEq, Repr

namespace Location

/-- The place of an entry. -/
def child (l : Location) (name : String) : Location := { l with names := l.names ++ [name] }

/-- The place of the directory above. The root is above itself. -/
def parent (l : Location) : Location :=
  if l.names ≠ [] then { l with names := l.names.dropLast }
  else if l.absolute then l
  else { l with above := l.above + 1 }

end Location

/-- Why a file cannot be used. -/
inductive FileFault where
  | notFound
  | notDirectory
  | isDirectory
  | invalidArgument
  | nameTooLong
  /-- The path has a zero character. -/
  | zeroCharacter
deriving DecidableEq, Repr

/-- The wording of a fault. -/
def FileFault.message : FileFault → String
  | .notFound => "No such file or directory (os error 2)"
  | .notDirectory => "Not a directory (os error 20)"
  | .isDirectory => "Is a directory (os error 21)"
  | .invalidArgument => "Invalid argument (os error 22)"
  | .nameTooLong => "File name too long (os error 36)"
  | .zeroCharacter => "file name contained an unexpected NUL byte"

/-- What stands at a place. -/
inductive Node where
  | directory
  | file (content : Bytes)
deriving DecidableEq, Repr

/-- A tree of files. Directories that paths start from are always there. -/
structure FileStore where
  nodes : List (Location × Node) := []
deriving DecidableEq, Repr

namespace FileStore

/-! ## §2 Looking -/

/-- What stands at a location. -/
def node? (s : FileStore) (l : Location) : Option Node :=
  if l.names = [] then some .directory else (s.nodes.find? (·.1 = l)).map (·.2)

/-- The length of the longest name, in octets. -/
def longestName : Nat := 255

/-- Walks from a location. Each step leaves a directory. -/
def walk (s : FileStore) : Location → List Path.Step → Except FileFault Location
  | l, [] => .ok l
  | l, step :: rest =>
    match s.node? l with
    | none => .error .notFound
    | some (.file _) => .error .notDirectory
    | some .directory =>
      match step with
      | .here => walk s l rest
      | .up => walk s l.parent rest
      | .down name =>
        if longestName < name.utf8ByteSize then .error .nameTooLong
        else walk s (l.child name) rest

/-- The location of a path, at which there may be nothing. -/
def locate (s : FileStore) (p : Path) : Except FileFault Location :=
  if p.hasZero then .error .zeroCharacter
  else if p.text = "" then .error .notFound
  else s.walk ⟨p.isAbsolute, 0, []⟩ p.steps

/-- What stands at a path. -/
def stat (s : FileStore) (p : Path) : Except FileFault Node := do
  match s.node? (← s.locate p) with
  | some node => return node
  | none => .error .notFound

/-- Is anything at a path? -/
def holds (s : FileStore) (p : Path) : Bool := (s.stat p).isOk

/-- The length that a directory is said to have. -/
def directoryLength : Nat := 4096

/-- The length of a file. -/
def length (s : FileStore) (p : Path) : Except FileFault Nat :=
  (s.stat p).map fun
    | .directory => directoryLength
    | .file content => content.length

/-- The content of a file. -/
def read (s : FileStore) (p : Path) : Except FileFault Bytes := do
  match ← s.stat p with
  | .directory => .error .isDirectory
  | .file content => return content

/-- The largest offset that can be sought to. -/
def largestOffset : Nat := 0x7FFFFFFFFFFFFFFF

/-- At most `length` octets of a file from `offset` on. Nothing is read if `length` is zero, so
that even a directory will do. -/
def slice (s : FileStore) (p : Path) (offset length : Nat) : Except FileFault Bytes := do
  let node ← s.stat p
  -- Seeking comes before reading, and so does its fault.
  if largestOffset < offset then .error .invalidArgument
  else if length = 0 then return []
  else
    match node with
    | .directory => .error .isDirectory
    | .file content => return (content.drop offset).take length

/-! ## §3 Changing -/

/-- Puts a node at a location. -/
def set (s : FileStore) (l : Location) (node : Node) : FileStore :=
  ⟨(l, node) :: s.nodes.filter (·.1 ≠ l)⟩

/-- Takes the node at a location away. -/
def erase (s : FileStore) (l : Location) : FileStore := ⟨s.nodes.filter (·.1 ≠ l)⟩

/-- What is left after operations, of which the last one may have failed. -/
structure Change where
  store : FileStore
  fault : Option FileFault := none

/-- Goes on unless an operation has failed. -/
def Change.andThen (c : Change) (next : FileStore → Except FileFault FileStore) : Change :=
  match c.fault with
  | some _ => c
  | none =>
    match next c.store with
    | .ok store => ⟨store, none⟩
    | .error fault => ⟨c.store, some fault⟩

/-- Makes the directories of a walk that are not there yet. -/
def createSteps (s : FileStore) : Location → List Path.Step → Change
  | _, [] => ⟨s, none⟩
  | l, .here :: rest => createSteps s l rest
  | l, .up :: rest => createSteps s l.parent rest
  | l, .down name :: rest =>
    if longestName < name.utf8ByteSize then ⟨s, some .nameTooLong⟩
    else
      match s.node? (l.child name) with
      | some .directory => createSteps s (l.child name) rest
      | some (.file _) => ⟨s, some .notDirectory⟩
      | none => createSteps (s.set (l.child name) .directory) (l.child name) rest

/-- Makes a directory and all directories on the way to it. -/
def createDirs (s : FileStore) (p : Path) : Change :=
  if p.hasZero then ⟨s, some .zeroCharacter⟩ else s.createSteps ⟨p.isAbsolute, 0, []⟩ p.steps

/-- Makes all directories on the way to the last name of a path. -/
def createParents (s : FileStore) (p : Path) : Change :=
  let parents := (p.steps.filter (· ≠ .here)).dropLast
  if parents.any Path.Step.hasZero then ⟨s, some .zeroCharacter⟩
  else s.createSteps ⟨p.isAbsolute, 0, []⟩ parents

/-- The location of a path at which a file is to be made. Its directory has to be there, and a
slash behind its last name is refused. -/
def locateNew (s : FileStore) (p : Path) : Except FileFault Location :=
  if p.namesDirectory && !p.hasZero then
    -- The directory is looked up first: what is wrong on the way there is reported before the
    -- slash.
    match s.walk ⟨p.isAbsolute, 0, []⟩ (p.steps.dropLast.dropLast ++ [.here]) with
    | .ok _ => .error .isDirectory
    | .error fault => .error fault
  else s.locate p

/-- Makes or replaces a file. -/
def write (s : FileStore) (p : Path) (content : Bytes) : Except FileFault FileStore := do
  let l ← s.locateNew p
  match s.node? l with
  | some .directory => .error .isDirectory
  | _ => return s.set l (.file content)

/-- Makes or replaces a file and all directories on the way to it. -/
def put (s : FileStore) (p : Path) (content : Bytes) : Change :=
  (s.createParents p).andThen (·.write p content)

/-- Makes or replaces a file in a directory that is made first. -/
def putIn (s : FileStore) (dir p : Path) (content : Bytes) : Change :=
  (s.createDirs dir).andThen (·.write p content)

/-- Removes a file. -/
def remove (s : FileStore) (p : Path) : Except FileFault FileStore := do
  let l ← s.locate p
  match s.node? l with
  | none => .error .notFound
  | some .directory => .error .isDirectory
  | some (.file _) => return s.erase l

/-- Cuts a file to a length, or fills it up with zeros. -/
def resize (s : FileStore) (p : Path) (length : Nat) : Except FileFault FileStore := do
  let l ← s.locate p
  match s.node? l with
  | none => .error .notFound
  | some .directory => .error .isDirectory
  | some (.file content) =>
    return s.set l (.file (content.take length ++ List.replicate (length - content.length) 0))

/-! ## §4 The view -/

/-- A location that was written holds what was written. -/
theorem node?_set (s : FileStore) {l : Location} (h : l.names ≠ []) (node : Node) :
    (s.set l node).node? l = some node := by
  simp [node?, set, h]

/-- Writing a location leaves all others alone. -/
theorem node?_set_of_ne (s : FileStore) {l m : Location} (h : m ≠ l) (node : Node) :
    (s.set l node).node? m = s.node? m := by
  unfold node? set
  split
  · rfl
  · rw [List.find?_cons_of_neg (by simpa using Ne.symm h), List.find?_filter]
    congr 2
    funext x
    by_cases hx : x.1 = m <;> simp [hx, h]

end FileStore

end Shuffle
