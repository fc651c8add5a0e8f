import Shuffle.Text.CharClass
import Shuffle.Url.Host
import Shuffle.Url.Path

/-!
# URLs

- `Url.read` reads an absolute URL as browsers do: blanks around it and line breaks within it are
  dropped, web schemes take backslashes for slashes, and every part is brought into its normal
  form.
- `Url.render` writes a URL.
-/

namespace Shuffle

/-! ## §1 Parts -/

/-- What stands between `//` and the path. User name and password are in their escaped form. -/
structure Authority where
  user : String := ""
  password : String := ""
  host : Option Host := none
  /-- The port, unless it is the scheme's own. -/
  port : Option UInt16 := none
deriving DecidableEq, Repr

/-- An absolute URL in its normal form. -/
structure Url where
  scheme : String
  authority : Option Authority
  path : String
  query : Option String := none
  fragment : Option String := none
deriving DecidableEq, Repr

namespace Url

/-- The port of a scheme. -/
def defaultPort? (scheme : String) : Option UInt16 :=
  if scheme = "http" ∨ scheme = "ws" then some 80
  else if scheme = "https" ∨ scheme = "wss" then some 443
  else if scheme = "ftp" then some 21
  else none

/-- Is this one of the schemes that always have a host? -/
def isWeb (scheme : String) : Bool := (defaultPort? scheme).isSome

/-- The host of a URL. -/
def host? (url : Url) : Option Host := url.authority.bind (·.host)

/-- The port to connect to: the one that is given, or the scheme's own. -/
def port? (url : Url) : Option UInt16 :=
  (url.authority.bind (·.port)) <|> defaultPort? url.scheme

/-! ## §2 Writing -/

/-- User name and password, if there are any. -/
def renderCredentials (a : Authority) : String :=
  if a.user = "" ∧ a.password = "" then ""
  else a.user ++ (if a.password = "" then "" else ":" ++ a.password) ++ "@"

/-- An authority, without the slashes before it. -/
def renderAuthority (a : Authority) : String :=
  renderCredentials a
    ++ ((a.host.map Host.render).getD "")
    ++ ((a.port.map fun p => ":" ++ Decimal.numeral p.toNat).getD "")

/-- A URL as text. A path that would look like an authority is kept apart by `/.`. -/
def render (url : Url) : String :=
  url.scheme ++ ":"
    ++ (match url.authority with
      | some a => "//" ++ renderAuthority a
      | none => if url.path.startsWith "//" then "/." else "")
    ++ url.path
    ++ ((url.query.map ("?" ++ ·)).getD "")
    ++ ((url.fragment.map ("#" ++ ·)).getD "")

/-- The same URL with another query. -/
def withQuery (url : Url) (query : String) : Url :=
  let kept := Percent.encode (Percent.keptInQuery (isWeb url.scheme)) query.toList
  { url with query := some (String.ofList kept) }

/-! ## §3 Cutting a text into parts -/

/-- Drops control characters and spaces at both ends. -/
def trimEnds (text : List Char) : List Char := Blank.trimBy (fun c => c.val ≤ 0x20) text

/-- May a scheme have this character behind its first? -/
def isSchemeChar (c : Char) : Bool := c.isAlphanum || "+-.".contains c

/-- Splits the scheme off, in lower case. -/
def splitScheme (text : List Char) : Option (String × List Char) :=
  match text with
  | [] => none
  | c :: _ =>
    match c.isAlpha, text.span fun c => isSchemeChar c || UrlPath.isBreak c with
    | true, (scheme, ':' :: rest) =>
      some (String.ofList ((UrlPath.withoutBreaks scheme).map Char.toLower), rest)
    | _, _ => none

/-- The part before the query and the fragment, the query, and the fragment. -/
def splitTail (text : List Char) : List Char × Option (List Char) × Option (List Char) :=
  let (front, fragment) := text.span (· ≠ '#')
  let (body, query) := front.span (· ≠ '?')
  let behind := fun (part : List Char) =>
    match part with
    | [] => none
    | _ :: rest => some rest
  (body, behind query, behind fragment)

/-- Cuts at the last `@`. -/
def splitAtLastAt (text : List Char) : Option (List Char × List Char) :=
  let (host, front) := text.reverse.span (· ≠ '@')
  match front with
  | [] => none
  | _ :: user => some (user.reverse, host.reverse)

/-- Cuts before the first colon that stands outside brackets. -/
def splitHost : (inBrackets : Bool) → List Char → List Char × List Char
  | _, [] => ([], [])
  | inBrackets, c :: rest =>
    -- Within brackets a colon belongs to an address of eight pieces.
    if c = ':' ∧ ¬inBrackets then ([], c :: rest)
    else
      let (host, port) :=
        splitHost (if c = '[' then true else if c = ']' then false else inBrackets) rest
      (c :: host, port)

/-! ## §4 Reading the authority -/

/-- Reads user name and password. The first colon separates them. -/
def readCredentials (text : List Char) : Authority :=
  let encode := fun part => String.ofList (Percent.encode Percent.keptInCredentials part)
  let (user, password) := text.span (· ≠ ':')
  { user := encode user, password := encode (password.drop 1) }

/-- The number that digits spell. -/
def digitsValue (digits : List Char) : Nat :=
  digits.foldl (fun n c => n * 10 + (c.toNat - 0x30)) 0

/-- Reads a port, which ends at a backslash. No digits are no port, and neither is the scheme's
own port. -/
def readPort (scheme : String) (text : List Char) :
    Except UrlError (Option UInt16 × List Char) :=
  let (digits, rest) := text.span Char.isDigit
  let value := digitsValue digits
  if 65535 < value then .error .port
  -- A backslash ends the port under every scheme, also where it is no slash.
  else if rest.head?.any (· ≠ '\\') then .error .port
  else if digits.isEmpty ∨ defaultPort? scheme = some (UInt16.ofNat value) then .ok (none, rest)
  else .ok (some (UInt16.ofNat value), rest)

/-- Reads the host under the rules of the scheme. -/
def readHost (scheme : String) (text : List Char) : Except UrlError (Option Host) :=
  if isWeb scheme then (Host.readWeb text).map some else Host.readOpaque text

/-- Reads host and port behind the credentials. Answers also what the port left over. -/
def readHostAndPort (scheme : String) (a : Authority) (text : List Char) :
    Except UrlError (Authority × List Char) := do
  let (hostText, portText) := splitHost false text
  let host ← readHost scheme hostText
  match host, portText with
  | none, ':' :: _ => .error .emptyHost
  | _, [] => return ({ a with host := host }, [])
  | _, _ :: portText =>
    let (port, rest) ← readPort scheme portText
    return ({ a with host := host, port := port }, rest)

/-- Reads an authority. `bounded` tells whether anything follows it in the URL. -/
def readAuthority (scheme : String) (bounded : Bool) (text : List Char) :
    Except UrlError (Authority × List Char) := do
  match splitAtLastAt text with
  | none => readHostAndPort scheme {} text
  | some ([], hostText) =>
    -- An `@` with nothing before it: no credentials, and without a host nothing may follow.
    if hostText.isEmpty ∧ bounded then .error .emptyHost
    else readHostAndPort scheme {} hostText
  | some (user, hostText) =>
    let credentials := readCredentials user
    let (a, rest) ← readHostAndPort scheme credentials hostText
    if a.host.isNone ∧ renderCredentials credentials ≠ "" then .error .emptyHost
    else return (a, rest)

/-! ## §5 Reading a URL -/

/-- Is this a slash, or a backslash where it counts as one? -/
def isSlash (web : Bool) (c : Char) : Bool := c == '/' || (web && c == '\\')

/-- Reads what follows `//`. -/
def readWithAuthority (scheme : String) (tail : Bool) (text : List Char) :
    Except UrlError (Option Authority × String) := do
  let web := isWeb scheme
  let (front, pathText) := text.span (!isSlash web ·)
  let (a, rest) ← readAuthority scheme (tail || !pathText.isEmpty) front
  let pathText := rest ++ pathText
  -- A web URL without a path has the path of the root.
  let path :=
    if pathText.isEmpty && !web then []
    else (UrlPath.read ⟨web, false⟩ pathText).text
  return (some a, String.ofList path)

/-- Reads the host of a file. The local host is none. -/
def readFileHost (text : List Char) : Except UrlError (Option Host) :=
  if text.isEmpty then .ok none
  else
    match Host.readWeb text with
    | .error fault => .error fault
    | .ok host => .ok (if host = .name "localhost" then none else some host)

/-- What follows a slash that a text opens with, tabs and line breaks apart. -/
def behindSlash? (text : List Char) : Option (List Char) :=
  match text.dropWhile UrlPath.isBreak with
  | c :: rest => if isSlash true c then some rest else none
  | [] => none

/-- Reads what follows the `//` of a file URL. A drive letter is no host, and without a host every
slash of the path counts. -/
def readFileWithHost (text : List Char) : Except UrlError (Option Authority × String) := do
  let rules : UrlPath.Rules := ⟨true, true⟩
  let (hostText, pathText) := text.span (!isSlash true ·)
  let hostText := UrlPath.withoutBreaks hostText
  if UrlPath.isDrive hostText then
    -- The drive letter is read again, now as the first segment of the path.
    return (some {}, String.ofList (UrlPath.readSegments rules text).text)
  else
    match ← readFileHost hostText with
    | none => return (some {}, String.ofList (UrlPath.readSegments rules pathText).text)
    | some host =>
      let path := UrlPath.read rules pathText
      return (some { host := if path.drive then none else some host }, String.ofList path.text)

/-- Reads a file URL behind its scheme. -/
def readFile (text : List Char) : Except UrlError (Option Authority × String) :=
  let path := fun part => String.ofList (UrlPath.readSegments ⟨true, true⟩ part).text
  match behindSlash? text with
  | none => .ok (some {}, path text)
  | some inner =>
    match behindSlash? inner with
    | none => .ok (some {}, path inner)
    | some rest => readFileWithHost rest

/-- Reads a URL behind its scheme, up to the query, and not of a file. -/
def readBody (scheme : String) (tail : Bool) (text : List Char) :
    Except UrlError (Option Authority × String) :=
  if isWeb scheme then
    readWithAuthority scheme tail (text.dropWhile (isSlash true))
  else
    match text with
    | '/' :: '/' :: rest => readWithAuthority scheme tail rest
    | '/' :: rest => .ok (none, String.ofList (UrlPath.readSegments ⟨false, false⟩ rest).text)
    | text => .ok (none, String.ofList (Percent.encode Percent.keptInBarePath text))

/-- Reads an absolute URL. Tabs and line breaks in it are ignored, but not by the path of a file. -/
def read (text : String) : Except UrlError Url :=
  match splitScheme (trimEnds text.toList) with
  | none => .error .relative
  | some (scheme, rest) => do
    let (body, query, fragment) := splitTail rest
    -- Breaks are left in the text of a file, where they end a drive letter.
    let (authority, path) ←
      if scheme = "file" then readFile body
      else readBody scheme (query.isSome || fragment.isSome) (UrlPath.withoutBreaks body)
    let escape := fun keep part =>
      String.ofList (Percent.encode keep (UrlPath.withoutBreaks part))
    let web := isWeb scheme || scheme = "file"
    return ⟨scheme, authority, path, query.map (escape (Percent.keptInQuery web)),
      fragment.map (escape Percent.keptInFragment)⟩

end Url

end Shuffle
