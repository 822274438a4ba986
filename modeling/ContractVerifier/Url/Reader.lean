import ContractVerifier.HostName.Basic
import ContractVerifier.Number.Decimal
import ContractVerifier.Url.Basic
import ContractVerifier.Url.Host
import ContractVerifier.Url.Problem

set_option autoImplicit false

/-! # Reading addresses

A text is split at the marks `:`, `//`, `?` and `#` into the parts of an address, and the
parts are brought into their usual form: scheme and host in small letters, no port that
goes without saying, no `.` and `..` in the path, and escapes for characters that may not
stand in a part. Escapes that are there already stay.

Main definition: `Url.ofText`.
-/

namespace ContractVerifier.Url

/-- The most characters an address, or a part of one, may have. -/
def maxLength : Nat := 65536

/-- Splits a text before the first of some characters. -/
def splitBefore (marks : List Char) (t : Text) : Text × Text :=
  t.span fun c => !marks.contains c

/-- Takes the scheme off: letters, digits, plus signs, hyphens and points before a colon, the
first of them a letter. There may be a colon without a scheme. -/
def splitScheme (t : Text) : Text × Text :=
  match t.span fun c => c.isAlphanum || ['+', '.', '-'].contains c with
  | (scheme, ':' :: rest) =>
    if scheme.head?.all Char.isAlpha then (scheme, rest) else ([], t)
  | _ => ([], t)

/-- The parts of a text as they are written. -/
structure Parts where
  scheme : Text
  authority : Text
  path : Text
  query : Option Text
  fragment : Option Text
  deriving DecidableEq, Repr

/-- Splits a text into its parts. -/
def split (t : Text) : Parts :=
  let (scheme, rest) := splitScheme t
  let (authority, rest) := match rest with
    | '/' :: '/' :: rest => splitBefore ['/', '?', '#'] rest
    | _ => ([], rest)
  let (path, rest) := splitBefore ['?', '#'] rest
  -- an empty query is not the same as none
  let (query, rest) := match rest with
    | '?' :: rest => ((splitBefore ['#'] rest).map some id)
    | _ => (none, rest)
  let fragment := match rest with
    | '#' :: rest => some rest
    | _ => none
  ⟨scheme, authority, path, query, fragment⟩

/-- The user, who stands before the last at sign, and the rest of an authority. -/
def splitUser (authority : Text) : Text × Text :=
  match (authority.reverse).span (· ≠ '@') with
  | (rest, _ :: user) => (user.reverse, rest.reverse)
  | (rest, []) => ([], rest.reverse)

/-- The host and the text of the port. A host in brackets ends at the last bracket. -/
def splitPort (t : Text) : Text × Text :=
  let bracketed := match t with
    | '[' :: _ => (t.reverse.dropWhile (· ≠ ']')).reverse
    | _ => []
  let host := if bracketed = [] then (t.takeWhile (· ≠ ':')) else bracketed
  match t.drop host.length with
  | ':' :: port => (host, port)
  | port => (host, port)

/-- The usual form of a host. A name beyond ASCII is written in ASCII. -/
def readHost (host : Text) : Except UrlError Text :=
  if looksLikeOctets host then
    if isIPv4 host then .ok host else .error (.octets host)
  else if host.head? = some '[' ∧ host.getLast? = some ']' then
    let inside := (host.drop 1).dropLast
    if isIPv6 inside then .ok inside else .error (.groups host)
  else if host.all HostName.isAscii then .ok (escape keptInHost (Text.lowerLatin host))
  else
    match HostName.encode (Text.lower host) with
    | .ok name => .ok name
    | .error _ => .error (.name host)

/-- The number of a port, if one is given. -/
def readPort (port : Text) : Except UrlError (Option Int) :=
  if port = [] then .ok none
  else
    match Number.readInt port with
    | .ok n => .ok (some n)
    | .error _ => .error (.port port)

/-- One segment of a path, behind those that are kept so far, last first: `.` changes nothing,
and `..` drops the last segment, but not the empty one at the root. -/
def keepSegment (kept : List Text) (segment : Text) : List Text :=
  if segment = ['.'] then kept
  else if segment = ['.', '.'] then if kept = [[]] then kept else kept.drop 1
  else segment :: kept

/-- A path without the segments `.` and `..`. -/
def tidyPath (path : Text) : Text :=
  Text.join ['/'] ((Text.split '/' path).foldl keepSegment []).reverse

/-- Whether `c` is an ASCII control character. -/
def isControl (c : Char) : Bool := c.toNat < 0x20 || c.toNat = 0x7F

/-- A part in which only the characters of `kept` stand as they are. Characters are escaped
one by one, so one without bytes is the first of its text. -/
def escapePart (kept : Char → Bool) (t : Text) : Except UrlError Text :=
  match t.find? Text.isHalf with
  | some c => .error (.unencodable ⟨.utf8, 0, [c]⟩)
  | none => .ok (escape kept t)

/-- `escapePart` of a part that may be missing. -/
def escapePart? (kept : Char → Bool) : Option Text → Except UrlError (Option Text)
  | none => .ok none
  | some t => (escapePart kept t).map some

/-- The address in its usual form that the parts of a text make up. -/
def ofParts (p : Parts) : Except UrlError Url := do
  let (user, rest) := splitUser p.authority
  let (host, port) := splitPort rest
  let user ← escapePart keptInUser user
  let host ← readHost host
  let port ← (shownPort p.scheme ·) <$> readPort port
  let hasAuthority := user ≠ [] ∨ host ≠ [] ∨ port.isSome
  let isRelative := ¬ hasAuthority ∧ p.scheme = []
  -- paths that would be taken for something else if the address were written out
  if hasAuthority ∧ p.path ≠ [] ∧ p.path.head? ≠ some '/' then throw .rootless
  if isRelative ∧ p.path.take 2 = ['/', '/'] then throw .doubleSlash
  if isRelative ∧ p.path.head? = some ':' then throw .leadingColon
  let path ← escapePart keptInPath (if isRelative then p.path else tidyPath p.path)
  let query ← escapePart? keptInQuery p.query
  let fragment ← escapePart? keptInFragment p.fragment
  return { scheme := Text.lowerLatin p.scheme, user, host, port, path, query, fragment }

/-- The first control character of a text, with its position. -/
def control? (t : Text) : Option (Char × Nat) :=
  match t.span fun c => !isControl c with
  | (before, c :: _) => some (c, before.length)
  | (_, []) => none

/-- The address that a text gives. -/
def ofText (t : Text) : Except UrlError Url :=
  if maxLength < t.length then .error .tooLong
  else
    match control? t with
    | some (c, position) => .error (.control none c position)
    | none => ofParts (split t)

/-! ## Putting addresses together

An address that is made of another one is read again from its parts. -/

/-- The parts of an address. -/
def parts (u : Url) : Parts := ⟨u.scheme, u.authority, u.path, u.query, u.fragment⟩

/-- Checks a part that is given on its own. -/
def checkPart (part : UrlPart) (t : Text) : Except UrlError Unit :=
  if maxLength < t.length then .error (.partTooLong part)
  else
    match control? t with
    | some (c, position) => .error (.control (some part) c position)
    | none => .ok ()

/-- The address that given parts make up. -/
def ofGiven (p : Parts) : Except UrlError Url := do
  checkPart .scheme p.scheme
  checkPart .authority p.authority
  checkPart .path p.path
  checkPart .query (p.query.getD [])
  checkPart .fragment (p.fragment.getD [])
  ofParts p

/-- A relative address as an address on its own: a path from the root, and a query. -/
def rooted (u : Url) : Except UrlError Url :=
  ofGiven { scheme := [], authority := [], path := '/' :: u.path.dropWhile (· = '/')
            query := u.query, fragment := none }

/-- The same address with another query. -/
def withQuery (u : Url) (query : Text) : Except UrlError Url :=
  ofGiven { u.parts with query := some query }

/-- The same address with another fragment. -/
def withFragment (u : Url) (fragment : Text) : Except UrlError Url :=
  ofGiven { u.parts with fragment := some fragment }

/-- The address, which has no host, with a host. -/
def withHost (u : Url) (host : Text) : Except UrlError Url := do
  let _ ← ofGiven u.parts
  checkPart .host host
  ofParts ({ u with host }).parts

/-- The host in its own characters. A name that is encoded from its first label on is
decoded. -/
def hostName (u : Url) : Except UrlError Text :=
  match Text.after? HostName.encodedStart u.host with
  | none => .ok u.host
  | some _ =>
    match HostName.decode u.host with
    | .ok name => .ok name
    | .error problem => .error (.encodedName problem)

end ContractVerifier.Url
