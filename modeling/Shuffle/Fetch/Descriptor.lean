import Shuffle.Fetch.Request
import Shuffle.Url.Reader

/-!
# Fetch descriptors

A descriptor is a request together with the pull service that can answer it. As text it is a URL
whose query is the request; its path is `/`, and readers ignore it.

- `FetchDescriptor.render` writes a descriptor and `FetchDescriptor.read` reads one.
- `FetchDescriptor.toUrl` is the URL to open, which fails where the host is no host of a URL.
-/

namespace Shuffle

/-- A request bound to the service that can answer it. -/
structure FetchDescriptor where
  address : PullAddress
  request : FetchRequest
deriving DecidableEq, Repr

/-- Why a text is no descriptor, or a descriptor has no URL. -/
inductive DescriptorError where
  | url (text : String) (fault : UrlError)
  | noHost (url : Url)
  | noPort (url : Url)
  | request (fault : RequestError)
  | address (address : PullAddress) (fault : UrlError)
deriving DecidableEq, Repr

/-- The wording of a fault. -/
def DescriptorError.message : DescriptorError → String
  | .request fault => fault.message
  | .url text fault =>
    "malformed fetch request: invalid fetch URL '" ++ text ++ "': " ++ fault.message
  | .noHost u => "malformed fetch request: fetch URL '" ++ u.render ++ "' has no host"
  | .noPort u => "malformed fetch request: fetch URL '" ++ u.render ++ "' has no port"
  | .address a fault =>
    "malformed fetch request: invalid pull address " ++ a.render ++ ": " ++ fault.message

namespace FetchDescriptor

/-- A descriptor as text. -/
def render (d : FetchDescriptor) : String :=
  "http://" ++ d.address.render ++ "/?" ++ d.request.toQuery

/-- The URL to open. -/
def toUrl (d : FetchDescriptor) : Except DescriptorError Url :=
  match Url.read ("http://" ++ d.address.render ++ "/") with
  | .ok url => .ok (url.withQuery d.request.toQuery)
  | .error fault => .error (.address d.address fault)

/-- The text by which a host is known: an address of eight pieces goes without its brackets. -/
def hostText : Host → String
  | .v6 a => a.renderMixed
  | host => host.render

/-- The descriptor that a URL stands for. -/
def ofUrl (url : Url) : Except DescriptorError FetchDescriptor :=
  match url.host?, url.port? with
  | none, _ => .error (.noHost url)
  | some _, none => .error (.noPort url)
  | some host, some port =>
    match FetchRequest.ofQuery (url.query.getD "") with
    | .error fault => .error (.request fault)
    | .ok request => .ok ⟨⟨hostText host, port⟩, request⟩

/-- Reads a descriptor. Any scheme with a port of its own, or with a port given, will do. -/
def read (text : String) : Except DescriptorError FetchDescriptor :=
  match Url.read text with
  | .error fault => .error (.url text fault)
  | .ok url => ofUrl url

end FetchDescriptor

end Shuffle
