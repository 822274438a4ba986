import ContractVerifier.Text.Basic

set_option autoImplicit false

/-! # Addresses of requests

An address in its parts: scheme, user, host, port, path, query and fragment. `Url.text`
writes the parts one behind the other. An address without a scheme or a host is
**relative**.
-/

namespace ContractVerifier

/-- An address of a request. -/
structure Url where
  scheme : Text
  user : Text
  host : Text
  port : Option Int
  path : Text
  query : Option Text
  fragment : Option Text
  deriving DecidableEq, Repr

namespace Url

/-- A part behind the character that announces it. -/
def behind (mark : Char) : Option Text → Text
  | some t => mark :: t
  | none => []

/-- Host and port. A host with colons stands in brackets. -/
def hostAndPort (u : Url) : Text :=
  (if u.host.contains ':' then '[' :: (u.host ++ [']']) else u.host) ++
    behind ':' (u.port.map Text.ofInt)

/-- User, host and port. -/
def authority (u : Url) : Text :=
  (if u.user = [] then [] else u.user ++ ['@']) ++ u.hostAndPort

/-- The address in one text. -/
def text (u : Url) : Text :=
  (if u.scheme = [] then [] else u.scheme ++ [':']) ++
    (if u.authority = [] then [] else '/' :: '/' :: u.authority) ++
    u.path ++ behind '?' u.query ++ behind '#' u.fragment

/-- Whether the address has a scheme and a host. -/
def isAbsolute (u : Url) : Bool := !u.scheme.isEmpty && !u.host.isEmpty

/-- The port that a scheme stands for. -/
def defaultPort? (scheme : Text) : Option Int :=
  [("ftp", 21), ("http", 80), ("https", 443), ("ws", 80), ("wss", 443)].lookup
    (String.ofList scheme)

/-- A port that is not the one the scheme stands for anyway. -/
def shownPort (scheme : Text) (port : Option Int) : Option Int :=
  if port = defaultPort? scheme then none else port

end Url

end ContractVerifier
