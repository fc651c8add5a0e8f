import Shuffle.Fetch.Descriptor

/-!
# The pull client

A client opens the URL of a descriptor and takes the answer apart. How a URL is opened is a
parameter: a function from URLs to replies, which has no reply when nobody answers.

- `Url.openingRequest` is what a client sends, and `Reply.read` reads a reply from all that a
  service sent before it closed the connection.
- `FetchOutcome.ofReply` is what a reply means, and `FetchDescriptor.fetch` opens the URL of a
  descriptor.
-/

namespace Shuffle

/-! ## §1 Asking -/

/-- The request that opens a URL. The service closes the connection behind its reply. -/
def Url.openingRequest (url : Url) : String :=
  "GET " ++ url.path ++ ((url.query.map ("?" ++ ·)).getD "") ++ " HTTP/1.0\r\nhost: "
    ++ ((url.host?.map Host.render).getD "")
    ++ (((url.authority.bind (·.port)).map fun p => ":" ++ Decimal.numeral p.toNat).getD "")
    ++ "\r\naccept: */*\r\n\r\n"

/-! ## §2 Replies -/

/-- What a service answers to a client. -/
structure Reply where
  status : Nat
  body : Bytes
deriving DecidableEq, Repr

namespace Reply

/-- Is the request answered as it was asked? -/
def succeeded (r : Reply) : Bool := 200 ≤ r.status && r.status < 300

/-- Cuts octets behind the empty line that ends a head. -/
def splitHead : Bytes → Option (Bytes × Bytes)
  | [] => none
  | b :: rest =>
    match b, rest with
    | 13, 10 :: 13 :: 10 :: body => some ([], body)
    | b, rest => (splitHead rest).map fun (head, body) => (b :: head, body)

/-- The status in the first line of a head. -/
def readStatus (line : String) : Option Nat :=
  match (line.toList.splitOn ' ').map String.ofList with
  | version :: status :: _ =>
    if version.startsWith "HTTP/1." then (Decimal.readUpTo 999 status).toOption else none
  | _ => none

/-- The length of the body as the fields of a head give it. -/
def readLength (lines : List String) : Option Nat :=
  lines.findSome? fun line =>
    match line.toList.span (· ≠ ':') with
    | (name, _ :: value) =>
      if (String.ofList name).toLower = "content-length" then
        (Decimal.readUpTo (UInt64.size - 1) (Blank.trim (String.ofList value))).toOption
      else none
    | _ => none

/-- Reads a reply. Its body ends with the connection and may not be shorter than announced. -/
def read (octets : Bytes) : Option Reply := do
  let (head, body) ← splitHead octets
  match (← Bytes.toText? head).splitOn "\r\n" with
  | [] => none
  | line :: fields =>
    let status ← readStatus line
    match readLength fields with
    | none => some ⟨status, body⟩
    -- Octets behind the announced length do not belong to the reply.
    | some n => if body.length < n then none else some ⟨status, body.take n⟩

end Reply

/-! ## §3 Fetching -/

/-- Why a fetch brought nothing. -/
inductive FetchFault where
  | descriptor (fault : DescriptorError)
  | unanswered (url : String)
  | refused (url : String) (reply : Reply)
deriving DecidableEq, Repr

/-- The wording of a fault. -/
def FetchFault.message : FetchFault → String
  | .descriptor fault => "invalid fetch descriptor: " ++ fault.message
  | .unanswered url =>
    "request to " ++ url ++ " failed: error sending request for url (" ++ url ++ ")"
  | .refused url reply =>
    url ++ " answered " ++ Decimal.numeral reply.status ++ ": " ++ Utf8.decodeLossy reply.body

/-- What a fetch brought. -/
inductive FetchOutcome where
  | data (content : Bytes)
  /-- The partition or the range holds no rows. -/
  | noContent
deriving DecidableEq, Repr

namespace FetchOutcome

/-- The octets of an outcome. -/
def content : FetchOutcome → Bytes
  | .data content => content
  | .noContent => []

/-- What the reply to opening a URL means. -/
def ofReply (url : String) : Option Reply → Except FetchFault FetchOutcome
  | none => .error (.unanswered url)
  | some reply =>
    if reply.status = 204 then .ok .noContent
    else if reply.succeeded then .ok (.data reply.body)
    else .error (.refused url reply)

end FetchOutcome

/-- Fetches what a descriptor asks for. -/
def FetchDescriptor.fetch {m : Type → Type} [Monad m] (get : String → m (Option Reply))
    (d : FetchDescriptor) : m (Except FetchFault FetchOutcome) :=
  match d.toUrl with
  | .error fault => return .error (.descriptor fault)
  | .ok url => return FetchOutcome.ofReply url.render (← get url.render)

end Shuffle
