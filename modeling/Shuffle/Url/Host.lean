import Shuffle.Text.Percent
import Shuffle.Text.Utf8
import Shuffle.Url.Address
import Shuffle.Url.Label

/-!
# Hosts

A host is a name, an address of four octets or an address of eight pieces in brackets. How a name
is read depends on the scheme: the web schemes take escapes out, write the name in ASCII, with small
letters and with other characters coded, and recognise numeric addresses; under any other scheme a
name is opaque.
-/

namespace Shuffle

/-- Why a text is no URL. -/
inductive UrlError where
  /-- It does not open with a scheme. -/
  | relative
  | emptyHost
  | port
  | ipv4
  | ipv6
  /-- A character that no host name of a web scheme has. -/
  | domain
  /-- A character that no opaque host name has. -/
  | opaqueDomain
deriving DecidableEq, Repr

/-- The wording of a fault. -/
def UrlError.message : UrlError → String
  | .relative => "relative URL without a base"
  | .emptyHost => "empty host"
  | .port => "invalid port number"
  | .ipv4 => "invalid IPv4 address"
  | .ipv6 => "invalid IPv6 address"
  | .domain => "invalid international domain name"
  | .opaqueDomain => "invalid domain character"

/-- The host of a URL. -/
inductive Host where
  | name (text : String)
  | v4 (address : Ipv4)
  | v6 (address : Ipv6)
deriving DecidableEq, Repr

namespace Host

/-- A host as URLs have it. -/
def render : Host → String
  | .name text => text
  | .v4 a => a.render
  | .v6 a => "[" ++ a.render ++ "]"

/-! ## §1 Bracketed addresses -/

/-- Reads a host that opens with a bracket, from behind the bracket on. -/
def readBracketed (text : List Char) : Except UrlError Host :=
  if text.getLast? ≠ some ']' then .error .ipv6
  else
    match Ipv6.read text.dropLast with
    | some a => .ok (.v6 a)
    | none => .error .ipv6

/-! ## §2 Names -/

/-- Characters that neither kind of name may have. -/
def isReserved (c : Char) : Bool := " #/:<>?@[\\]^|".contains c

/-- May a name of a web scheme have this character? -/
def isDomainChar (c : Char) : Bool := Percent.isPrintable c && !isReserved c && c != '%'

/-- May an opaque name have this character? -/
def isOpaqueChar (c : Char) : Bool := !isReserved c && !"\x00\t\n\r".contains c

/-- Reads the host of a web URL. -/
def readWeb (text : List Char) : Except UrlError Host :=
  match text with
  | [] => .error .emptyHost
  | '[' :: rest => readBracketed rest
  | text =>
    match (Percent.decode (Bytes.ofText (String.ofList text))).toText? with
    -- Escapes stand for octets, and octets that are no text are no name.
    | none => .error .domain
    | some decoded =>
      match Label.toAscii? decoded.toList with
      | none => .error .domain
      -- Characters that stand for nothing may have been all that there was.
      | some [] => .error .emptyHost
      | some ascii =>
        if !ascii.all isDomainChar then .error .domain
        -- A name that ends in a number has to be an address.
        else if Ipv4.isNumeric ascii then
          match Ipv4.read ascii with
          | some a => .ok (.v4 a)
          | none => .error .ipv4
        else .ok (.name (String.ofList ascii))

/-- Reads the host of any other URL. An empty text is no host. -/
def readOpaque (text : List Char) : Except UrlError (Option Host) :=
  match text with
  | [] => .ok none
  | '[' :: rest => (readBracketed rest).map some
  | text =>
    if text.all isOpaqueChar then
      .ok (some (.name (String.ofList (Percent.encode Percent.isPrintable text))))
    else .error .opaqueDomain

end Host

end Shuffle
