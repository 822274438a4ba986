import ContractVerifier.Url.Reader

set_option autoImplicit false

/-! # Joining addresses

A relative address says where something is as seen from another address, its base: beside
it, above it, or at the same host.

Main definition: `Url.join`.
-/

namespace ContractVerifier.Url

/-- The schemes whose addresses may be given relative to a base. -/
def relativeSchemes : List String :=
  ["", "ftp", "http", "gopher", "nntp", "imap", "wais", "file", "https", "shttp", "mms",
   "prospero", "rtsp", "rtspu", "sftp", "svn", "svn+ssh", "ws", "wss"]

/-- The schemes in whose paths the last segment may have parameters behind a semicolon. -/
def parameterSchemes : List String :=
  ["", "ftp", "hdl", "prospero", "http", "https", "shttp", "rtsp", "rtspu", "sip", "sips",
   "mms", "sftp", "tel"]

/-- A path and the parameters of its last segment. -/
def splitParameters (scheme path : Text) : Text × Text :=
  if parameterSchemes.contains (String.ofList scheme) then
    let (last, before) := path.reverse.span (· ≠ '/')
    match last.reverse.span (· ≠ ';') with
    | (segment, _ :: parameters) => (before.reverse ++ segment, parameters)
    | (_, []) => (path, [])
  else (path, [])

/-- The segments of a path as seen from a base path. Empty ones count at the ends only. -/
def segmentsFrom (base path : Text) : List Text :=
  if path.head? = some '/' then Text.split '/' path
  else
    let base := Text.split '/' base
    let base := if base.getLast? = some [] then base else base.dropLast
    match base ++ Text.split '/' path with
    | [] => []
    | first :: rest => first :: (rest.dropLast.filter (· ≠ []) ++ rest.getLast?.toList)

/-- The segments that are left when `.` and `..` are followed. -/
def followDots (segments : List Text) : List Text :=
  let left := segments.foldl (fun done segment =>
    if segment = ['.', '.'] then done.drop 1
    else if segment = ['.'] then done
    else segment :: done) []
  let last := segments.getLast?
  (if last = some ['.'] ∨ last = some ['.', '.'] then [] :: left else left).reverse

/-- An address written out: what is empty is left out, and a path behind a host begins with
a slash. -/
def write (scheme authority path parameters query fragment : Text) : Text :=
  let path := path ++ (if parameters = [] then [] else ';' :: parameters)
  let path := if path ≠ [] ∧ path.head? ≠ some '/' then '/' :: path else path
  scheme ++ ':' :: '/' :: '/' :: authority ++ path ++
    (if query = [] then [] else '?' :: query) ++
    (if fragment = [] then [] else '#' :: fragment)

/-- The text of a relative address as seen from a base with a scheme and a host. -/
def joinedText (base target : Url) : Text :=
  let b := split base.text
  let t := split target.text
  if target.text = [] then base.text
  else if relativeSchemes.contains (String.ofList b.scheme) then
    let (path, parameters) := splitParameters b.scheme t.path
    let query := t.query.getD []
    let fragment := t.fragment.getD []
    if t.authority ≠ [] then write b.scheme t.authority path parameters query fragment
    else
      let (basePath, baseParameters) := splitParameters b.scheme b.path
      if path = [] ∧ parameters = [] then
        write b.scheme b.authority basePath baseParameters
          (if query = [] then b.query.getD [] else query) fragment
      else
        let joined := Text.join ['/'] (followDots (segmentsFrom basePath path))
        write b.scheme b.authority (if joined = [] then ['/'] else joined) parameters query
          fragment
  else target.text

/-- A relative address as seen from a base. -/
def join (base target : Url) : Except UrlError Url := ofText (joinedText base target)

end ContractVerifier.Url
