import ContractVerifier.Encoding.Unencodable
import ContractVerifier.HostName.Problem

set_option autoImplicit false

/-! # Problems of addresses

Why a text is no address of a request. When an address is put together from parts, a part
may be at fault on its own.
-/

namespace ContractVerifier

/-- The parts of an address. -/
inductive UrlPart where
  | scheme
  | authority
  | path
  | query
  | fragment
  | host
  deriving DecidableEq, Repr

/-- The name of a part. -/
def UrlPart.text : UrlPart → String
  | scheme => "scheme"
  | authority => "authority"
  | path => "path"
  | query => "query"
  | fragment => "fragment"
  | host => "host"

/-- Why a text is no address of a request. -/
inductive UrlError where
  | tooLong
  | partTooLong (part : UrlPart)
  /-- There is a control character, in the address or in a part. -/
  | control (part : Option UrlPart) (c : Char) (position : Nat)
  | port (t : Text)
  /-- The host looks like four octets and is not. -/
  | octets (host : Text)
  /-- The host stands in brackets and is no address in groups. -/
  | groups (host : Text)
  /-- The host's name cannot be written in ASCII. -/
  | name (host : Text)
  /-- The host's name cannot be read back from ASCII. -/
  | encodedName (problem : HostName.Problem)
  /-- A character has no bytes. -/
  | unencodable (u : Unencodable)
  /-- A path behind a host does not begin with a slash. -/
  | rootless
  /-- A path without scheme and host begins with two slashes. -/
  | doubleSlash
  /-- A path without scheme and host begins with a colon. -/
  | leadingColon
  deriving DecidableEq, Repr

namespace UrlError

/-- The name under which an error is reported. -/
def kind : UrlError → String
  | encodedName problem => problem.kind
  | unencodable _ => "UnicodeEncodeError"
  | _ => "InvalidURL"

/-- The wording of an error. -/
def message : UrlError → Text
  | tooLong => "URL too long".toList
  | partTooLong part => ("URL component '" ++ part.text ++ "' too long").toList
  | control part c position =>
    "Invalid non-printable ASCII character in URL".toList ++
      (part.elim [] fun p => (" " ++ p.text ++ " component").toList) ++ ", ".toList ++
      Text.quoted [c] ++ " at position ".toList ++ Text.ofInt position ++ ".".toList
  | port t => "Invalid port: ".toList ++ Text.quoted t
  | octets host => "Invalid IPv4 address: ".toList ++ Text.quoted host
  | groups host => "Invalid IPv6 address: ".toList ++ Text.quoted host
  | name host => "Invalid IDNA hostname: ".toList ++ Text.quoted host
  | encodedName problem => problem.message
  | unencodable u => u.message
  | rootless => "For absolute URLs, path must be empty or begin with '/'".toList
  | doubleSlash => "Relative URLs cannot have a path starting with '//'".toList
  | leadingColon => "Relative URLs cannot have a path starting with ':'".toList

end UrlError

end ContractVerifier
