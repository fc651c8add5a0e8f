import Shuffle.Pull.Chunk

/-!
# Requests and responses

The part of HTTP that the service's endpoints need.

- `RequestTarget.read` reads the target of a request in any of its four forms: a path, a URL, an
  authority, or `*`.
- `Method.read` reads a method. Endpoints answer GET and HEAD.
- `Response` is an answer whose body is a text or slices of files.
-/

namespace Shuffle

/-! ## §1 Targets -/

/-- What a request is aimed at. The target in authority form has an empty path. -/
structure RequestTarget where
  path : String
  query : Option String := none
deriving DecidableEq, Repr

namespace RequestTarget

/-- The longest target, in octets. -/
def longest : Nat := 65534

/-- Is this a character that shows? All characters outside ASCII count. -/
def isVisible (c : Char) : Bool := 0x21 ≤ c.toNat && c.toNat ≠ 0x7F

/-- May a path have this character? -/
def isPathChar (c : Char) : Bool := isVisible c && !"#<>?`".contains c

/-- May a query have this character? -/
def isQueryChar (c : Char) : Bool := isVisible c && !"\"#<>".contains c

/-- May an authority have this character outside of escapes? -/
def isAuthorityChar (c : Char) : Bool := c.isAlphanum || "!$&'()*+,-.:;=@[]_~".contains c

/-- May a scheme have this character? -/
def isSchemeChar (c : Char) : Bool := c.isAlphanum || "+-.~".contains c

/-- What has been seen of an authority. Colons and escapes count anew behind a bracketed address
and behind a user name. -/
structure AuthorityScan where
  colons : Nat := 0
  escapes : Bool := false
  opened : Bool := false
  closed : Bool := false
deriving Repr

/-- Takes a character of an authority. -/
def AuthorityScan.step (s : AuthorityScan) (c : Char) : Option AuthorityScan :=
  if c = '%' then some { s with escapes := true }
  else if !isAuthorityChar c then none
  -- Eight pieces of an address have seven colons between them, and `::` may add one.
  else if c = ':' then if 8 ≤ s.colons then none else some { s with colons := s.colons + 1 }
  else if c = '[' then if s.escapes || s.opened then none else some { s with opened := true }
  else if c = ']' then
    if !s.opened || s.closed then none
    else some { s with closed := true, colons := 0, escapes := false }
  else if c = '@' then some { s with colons := 0, escapes := false }
  else some s

/-- Is a text an authority? Behind the user name it has at most one colon outside brackets, and
something has to stand there. -/
def isAuthority (text : List Char) : Bool :=
  match text.foldlM AuthorityScan.step {} with
  | none => false
  | some s => s.opened == s.closed && s.colons ≤ 1 && !s.escapes && text.getLast? != some '@'

/-- Reads path and query, which end at a fragment. -/
def readPath (text : List Char) : Option RequestTarget :=
  let (path, rest) := text.span fun c => c != '?' && c != '#'
  if !path.all isPathChar then none
  else
    let path := if path = [] then "/" else String.ofList path
    match rest with
    | '?' :: rest =>
      let query := rest.takeWhile (· ≠ '#')
      if query.all isQueryChar then some ⟨path, some (String.ofList query)⟩ else none
    | _ => some ⟨path, none⟩

/-- The longest scheme, in characters. -/
def longestScheme : Nat := 64

/-- What stands behind `scheme://`; none if the text has no scheme. -/
def splitScheme (text : List Char) : Option (List Char × List Char) :=
  match text.span isSchemeChar with
  | (scheme, ':' :: '/' :: '/' :: rest) => some (scheme, rest)
  | _ => none

/-- Reads the target of a request. -/
def read (text : String) : Option RequestTarget :=
  let cs := text.toList
  if cs = [] ∨ longest < text.utf8ByteSize then none
  else if cs = ['*'] then some ⟨"*", none⟩
  else if cs.head? = some '/' then readPath cs
  else
    match splitScheme cs with
    | none => if isAuthority cs then some ⟨"", none⟩ else none
    | some (scheme, rest) =>
      let (authority, path) := rest.span fun c => c != '/' && c != '?' && c != '#'
      -- A target with a scheme is a URL, whose authority does not matter to the service.
      if longestScheme < scheme.length ∨ authority = [] ∨ !isAuthority authority then none
      else readPath path

end RequestTarget

/-! ## §2 Methods -/

/-- The method of a request. -/
inductive Method where
  | get
  | head
  | other
deriving DecidableEq, Repr

/-- May the name of a method have this character? -/
def Method.isTokenChar (c : Char) : Bool := c.isAlphanum || "!#$%&'*+-.^_`|~".contains c

/-- Reads the name of a method. Names are told apart by case. -/
def Method.read (name : String) : Option Method :=
  if name = "" ∨ !name.toList.all isTokenChar then none
  else if name = "GET" then some .get
  else if name = "HEAD" then some .head
  else some .other

/-! ## §3 Responses -/

/-- The body of a response. -/
inductive ResponseBody where
  | text (content : String)
  | chunks (slices : List FileChunk)
deriving DecidableEq, Repr

/-- An answer. -/
structure Response where
  status : Nat
  contentType : Option String := none
  contentLength : Nat := 0
  /-- The methods that would have been allowed. -/
  allow : Option String := none
  body : ResponseBody := .text ""
deriving DecidableEq, Repr

namespace Response

/-- An answer without a body. -/
def empty (status : Nat) : Response := { status }

/-- An answer with a text. -/
def plain (status : Nat) (content : String) : Response :=
  { status, contentType := some "text/plain; charset=utf-8",
    contentLength := content.utf8ByteSize, body := .text content }

/-- An answer with slices of files. -/
def slices (chunks : List FileChunk) : Response :=
  { status := 200, contentType := some "application/octet-stream",
    contentLength := (FileChunk.total chunks).toNat, body := .chunks chunks }

/-- The answer for a method that an endpoint does not have. -/
def wrongMethod : Response := { status := 405, allow := some "GET,HEAD" }

/-- The same answer without its body, as HEAD wants it. -/
def withoutBody (r : Response) : Response := { r with body := .text "" }

end Response

end Shuffle
