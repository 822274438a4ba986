import ContractVerifier.Explorer.ContentType
import ContractVerifier.Url.Reader

set_option autoImplicit false

/-! # Exchanges with the explorer

A request to the explorer and what comes back. An `Explorer` is anything that reacts to
requests: with a response, with silence, or with a failure on the way.
-/

namespace ContractVerifier

/-- What is done with an address. -/
inductive HttpMethod where
  | get
  | post
  deriving DecidableEq, Repr

/-- The spelling of a method. -/
def HttpMethod.text : HttpMethod → String
  | get => "GET"
  | post => "POST"

/-- A request as it is sent. -/
structure ExplorerRequest where
  method : HttpMethod
  url : Url
  userAgent : Text
  body : Option Json

/-- The headers that say who asks, what for, and what is sent along. -/
def ExplorerRequest.headers (r : ExplorerRequest) : List (String × Text) :=
  [("accept", "application/json".toList), ("user-agent", r.userAgent)] ++
    if r.body.isSome then [("content-type", "application/json".toList)] else []

/-- A response. -/
structure ExplorerResponse where
  status : Int
  /-- Names with values. A name may come more than once, and capitals in it do not matter. -/
  headers : List (Text × Text)
  body : List UInt8
  deriving DecidableEq, Repr

namespace ExplorerResponse

/-- Whether the explorer did what it was asked for. -/
def isSuccess (r : ExplorerResponse) : Bool := 200 ≤ r.status && r.status < 300

/-- The values of a header, in order; the name is given in small letters. -/
def headerValues (r : ExplorerResponse) (name : String) : List Text :=
  (r.headers.filter fun h => Text.lowerLatin h.1 = name.toList).map (·.2)

/-- The value of a header, if it is there. Several values are one list. -/
def header? (r : ExplorerResponse) (name : String) : Option Text :=
  match r.headerValues name with
  | [] => none
  | values => some (Text.join ", ".toList values)

/-- The body as a text, in the character set that the content type names if it is known, and
in UTF-8 otherwise. What cannot be read is replaced. -/
def text (r : ExplorerResponse) : Except Fault Text :=
  if r.body = [] then .ok []
  else
    match r.header? "content-type" with
    | none => .ok (Utf8.decodeLossy r.body)
    | some contentType => do
      let charset := (← ContentType.charset contentType).getD (.unicode .utf8)
      match charset.decodeLossy r.body with
      | .ok t => return t
      | .error e => throw (.unreadable e)

/-- The body as JSON, in which values may be nested `depth` deep. -/
def json (r : ExplorerResponse) (depth : Nat) : Except Fault Json :=
  match Json.readBytes r.body depth with
  | .ok v => .ok v
  | .error e => .error (.json e)

/-- The statuses that send a client elsewhere. -/
def redirections : List Int := [301, 302, 303, 307, 308]

/-- Where the response sends the client, if it does. -/
def target? (r : ExplorerResponse) : Option Text :=
  if r.status ∈ redirections then r.header? "location" else none

/-- The first name or value of a header that has no bytes, and why. -/
def unencodable? (r : ExplorerResponse) : Option Unencodable :=
  r.headers.findSome? fun h =>
    (Unencodable.find? .ascii h.1).orElse fun _ => Unencodable.find? .ascii h.2

end ExplorerResponse

/-- How the explorer reacts to a request. -/
inductive Reaction where
  | response (r : ExplorerResponse)
  /-- No answer as long as the client waits. -/
  | silence
  | failure (fault : Fault)

/-- Anything that reacts to requests. -/
abbrev Explorer := ExplorerRequest → Reaction

end ContractVerifier
