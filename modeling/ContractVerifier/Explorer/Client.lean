import ContractVerifier.Config.Basic
import ContractVerifier.Explorer.ContentCoding
import ContractVerifier.Explorer.Redirect
import ContractVerifier.Explorer.Request

set_option autoImplicit false

/-! # The explorer's client

The client knows the explorer's three endpoints and counts its calls. Each call is bounded by
the configured time as a whole. A call that **fails in transport** (the request cannot be
made, is not answered in time, or is lost) is counted apart; a refusal is an answer.

Main definitions: `Client.send`, and one function for each endpoint.
-/

namespace ContractVerifier

/-! ## Requests to be made -/

/-- A request before its address is read and its parameters are put into the address. -/
structure RequestDraft where
  method : HttpMethod
  address : Text
  params : Option (List (String × Json)) := none
  body : Option Json := none

namespace RequestDraft

/-- The texts of a parameter: one, or as many as a list has items. -/
def paramTexts : Json → List Text
  | .list items => items.map single
  | v => [single v]
where
  /-- The text of one value. -/
  single : Json → Text
    | .bool true => "true".toList
    | .bool false => "false".toList
    | .null => []
    | v => v.display

/-- The query that parameters make up. -/
def query (params : List (String × Json)) : Except UrlError Text :=
  let pairs := params.flatMap fun p => (paramTexts p.2).map fun t => (p.1.toList, t)
  match Url.Form.unencodable? pairs with
  | some u => .error (.unencodable u)
  | none => .ok (Url.Form.encodePairs pairs)

/-- The address in which the parameters take the place of any query. -/
def url (d : RequestDraft) : Except UrlError Url := do
  let url ← Url.ofText d.address
  -- a text without a scheme or a host counts as a path from the root
  let url ← if url.isAbsolute then .ok url else url.rooted
  match d.params with
  | none => return url
  | some params => url.withQuery (← query params)

/-- The request as it is sent. Its body must have bytes, and its host a name that is ASCII. -/
def request (d : RequestDraft) (userAgent : Text) : Except Fault ExplorerRequest :=
  match d.url with
  | .error e => .error (.address e)
  | .ok url =>
    match d.body.elim (.ok ()) Json.checkWritable with
    | .error e => .error (.ofWriteError e)
    | .ok _ =>
      match url.hostName, Unencodable.find? .ascii url.hostAndPort with
      | .error e, _ => .error (.address e)
      -- the zone of an address in groups may be any text
      | .ok _, some u => .error (.unencodable u)
      | .ok _, none => .ok ⟨d.method, url, userAgent, d.body⟩

end RequestDraft

/-! ## One exchange -/

/-- Whether there is any time left for an answer. There is without a limit. -/
def isTimeLeft : Json → Except Fault Bool
  | .null => .ok true
  | .int n => .ok (0 < n)
  | .float x => .ok x.isPositive
  | .bool b => .ok b
  | v => .error (.noLimit v.kind)

/-- What the client makes of a response. Its headers are texts in ASCII. -/
def ExplorerResponse.received (asked : Url) (r : ExplorerResponse) :
    Except Fault ExplorerResponse :=
  match r.unencodable? with
  | some u => .error (.unencodable u)
  | none =>
    match r.decoded with
    | .error flaw => .error (.compressed flaw)
    | .ok r =>
      if asked.isAbsolute then (r.checkTarget asked).map fun _ => r
      else .error (.noScheme asked.text)

/-- What the client makes of a reaction. -/
def Reaction.result (timeout : Json) (asked : Url) : Reaction → Except Fault ExplorerResponse
  | silence => .error (.noAnswer timeout)
  | failure fault => .error (if fault.isDeadline then .noAnswer timeout else fault)
  | response r => r.received asked

/-- Sends a request, if it can be made, and waits for the answer; the request comes back with
the result. -/
def ExplorerConfig.exchange (e : ExplorerConfig) (explorer : Explorer) (d : RequestDraft) :
    Except Fault ExplorerResponse × Option ExplorerRequest :=
  match isTimeLeft e.requestTimeout with
  | .error fault => (.error fault, none)
  | .ok false => (.error (.noAnswer e.requestTimeout), none)
  | .ok true =>
    match d.request e.userAgent with
    -- a request that cannot be made is not sent
    | .error fault => (.error fault, none)
    | .ok request => ((explorer request).result e.requestTimeout request.url, some request)

/-! ## The client -/

/-- The client: its settings, whether it holds connections, its counters, and how deep values may be
nested in an answer that is read as JSON. -/
structure Client where
  settings : ExplorerConfig
  isOpen : Bool := false
  requests : Nat := 0
  transportErrors : Nat := 0
  depth : Nat := Json.usualDepth

/-- What came of a call: the answer or a fault, the request if one was sent, and the client
afterwards. -/
structure ClientCall where
  result : Except Fault ExplorerResponse
  sent : Option ExplorerRequest
  client : Client

/-- Whether a result is a failure in transport. -/
def isTransportFailure {α : Type} : Except Fault α → Bool
  | .error fault => fault.isTransport
  | .ok _ => false

namespace Client

/-- The explorer's address without slashes at its end. -/
def baseUrl (c : Client) : Text := withoutTrailingSlashes c.settings.baseUrl

/-- Makes one call. Connections are opened first, under a name that must be ASCII. -/
def send (c : Client) (explorer : Explorer) (d : RequestDraft) : ClientCall :=
  let c := { c with requests := c.requests + 1 }
  match Unencodable.find? .ascii c.settings.userAgent with
  | some u => ⟨.error (.unencodable u), none, c⟩
  | none =>
    let (result, sent) := c.settings.exchange explorer d
    let failed := if isTransportFailure result then 1 else 0
    ⟨result, sent, { c with isOpen := true, transportErrors := c.transportErrors + failed }⟩

/-- Gives the connections up. -/
def close (c : Client) : Client := { c with isOpen := false }

/-- The page of a contract. -/
def contractUrl (c : Client) (address : Text) : Text :=
  c.baseUrl ++ "/api/v2/smart-contracts/".toList ++ address

/-- Submits a source by the current interface. -/
def verifyFlattened (c : Client) (explorer : Explorer) (r : VerificationRequest) : ClientCall :=
  c.send explorer
    { method := .post, address := c.contractUrl r.address ++ "/verification/via/flattened-code".toList
      body := some r.jsonBody }

/-- Submits a source by the older interface. -/
def verifyLegacy (c : Client) (explorer : Explorer) (r : VerificationRequest) : ClientCall :=
  c.send explorer
    { method := .get, address := c.baseUrl ++ "/api".toList, params := some r.queryParams }

/-- Asks for a contract. -/
def getContract (c : Client) (explorer : Explorer) (address : Text) : ClientCall :=
  c.send explorer { method := .get, address := c.contractUrl address }

end Client

end ContractVerifier
