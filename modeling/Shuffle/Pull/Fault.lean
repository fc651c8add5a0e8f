import Shuffle.Fetch.Request
import Shuffle.Index.File
import Shuffle.Store.Files

/-!
# Faults of the pull service

Every fault has a kind, which decides the status of the answer, and a wording.
-/

namespace Shuffle

/-- Who is to blame for a fault. -/
inductive FaultKind where
  /-- The request. -/
  | badRequest
  /-- Nobody: what was asked for is not here. -/
  | notFound
  | internal
  /-- An index file. -/
  | index
  /-- The port handshake. -/
  | metadata
  | file
deriving DecidableEq, Repr

/-- The status of an answer with a fault. -/
def FaultKind.status : FaultKind → Nat
  | .badRequest => 400
  | .notFound => 404
  | _ => 500

/-- The words before a fault's own. -/
def FaultKind.opening : FaultKind → String
  | .badRequest => "bad request: "
  | .notFound => "not found: "
  | .internal => "internal error: "
  | .index => "index error: "
  | .metadata => "invalid service metadata: "
  | .file => ""

/-- Why the pull service cannot answer. -/
inductive PullFault where
  /-- The query is no request. -/
  | query (text : String) (fault : RequestError)
  /-- A key of the request does not fit the index. -/
  | key (fault : KeyError)
  /-- The keys of the request are in the wrong order. -/
  | order (first last : Tuple)
  | noApplication
  /-- None of these paths is there. -/
  | missing (paths : List Path)
  | noLocalDirs
  | index (fault : IndexError)
  /-- The index has no offset for the first key. -/
  | noOffset (data : Path)
  /-- The index gives offsets that do not fit the data. -/
  | outside (first last length : UInt64) (data : Path)
  | handshakeLength (length : Nat)
  | handshakePort (port : Int)
  | file (fault : FileFault)
deriving DecidableEq, Repr

namespace PullFault

/-- The kind of a fault. -/
def kind : PullFault → FaultKind
  | .query .. | .key _ | .order .. => .badRequest
  | .noApplication | .missing _ => .notFound
  | .noLocalDirs => .internal
  | .index _ | .noOffset _ | .outside .. => .index
  | .handshakeLength _ | .handshakePort _ => .metadata
  | .file _ => .file

/-- A fault's own words. -/
def detail : PullFault → String
  | .query text fault => fault.message ++ " in '" ++ text ++ "'"
  | .key fault => fault.detail
  | .order first last => "range start " ++ first.render ++ " sorts after end " ++ last.render
  | .noApplication => "no active application"
  | .missing paths => ", ".intercalate (paths.map Path.text)
  | .noLocalDirs => "no local directories configured"
  | .index fault => fault.detail
  | .noOffset data => "no offset for start key for " ++ data.text
  | .outside first last length data =>
    s!"offsets [{first.toNat}, {last.toNat}) outside data file of {length.toNat} bytes for "
      ++ data.text
  | .handshakeLength length => s!"expected 4 bytes, got {length}"
  | .handshakePort port => s!"port {port} out of range"
  | .file fault => fault.message

/-- The wording of a fault. -/
def message (f : PullFault) : String := f.kind.opening ++ f.detail

/-- The status of an answer with this fault. -/
def status (f : PullFault) : Nat := f.kind.status

/-- A file that cannot be used: it is missing, or it is at fault itself. -/
def ofFile (p : Path) : FileFault → PullFault
  | .notFound => .missing [p]
  | fault => .file fault

end PullFault

end Shuffle
