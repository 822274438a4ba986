import ContractVerifier.Fault

set_option autoImplicit false

/-! # Events for error monitoring

Before an event is sent to the error monitor, sources and secrets in its request are
filtered out: members of the request's data under a sensitive name, and a query string that
carries a source.

Main definition: `scrub`.
-/

namespace ContractVerifier.Monitoring

/-- The names under which a value is sensitive. -/
def sensitiveNames : List String :=
  ["sourceCode", "source_code", "contractSourceCode", "api_key", "apikey", "secret", "password"]

/-- What stands in the place of a sensitive value. -/
def filtered : Json := .string "[FILTERED]"

/-- The members of a request's data without sensitive values. -/
def scrubData (members : List (Text × Json)) : List (Text × Json) :=
  members.map fun m => if sensitiveNames.any (·.toList = m.1) then (m.1, filtered) else m

/-- A request with its data scrubbed, if the data are an object. -/
def scrubRequestData (request : List (Text × Json)) : List (Text × Json) :=
  request.map fun m =>
    match m with
    | (name, .object data) =>
      if name = "data".toList then (name, .object (scrubData data)) else m
    | _ => m

/-- A request whose query string is hidden if it carries a source. -/
def scrubQuery (request : List (Text × Json)) : List (Text × Json) :=
  request.map fun m =>
    match m with
    | (name, .text query) =>
      if name = "query_string".toList ∧ Text.occursIn "contractSourceCode".toList query then
        (name, filtered)
      else m
    | _ => m

/-- The member of a value that is called `name`, if there is one. In a text or a list a name
can be found, but nothing stands under it, and any other value has no content at all. -/
def member? (name : Text) : Json → Except Fault (Option Json)
  | .object members => .ok (Association.get? name members)
  | .text t => if Text.occursIn name t then .error (.noNamedItems "str") else .ok none
  | .list items =>
    let isName : Json → Bool
      | .text t => t = name
      | _ => false
    if items.any isName then .error (.noNamedItems "list") else .ok none
  | other => .error (.noContent other.kind)

/-- An event without the sources and secrets of its request. A request that is no object is
an error. -/
def scrub (event : Json) : Except Fault Json := do
  match ← member? "request".toList event with
  | none => return event
  | some request =>
    let _ ← member? "data".toList request
    match request with
    | .object members =>
      return event.insert "request" (.object (scrubQuery (scrubRequestData members)))
    | other => throw (.noMembers other.kind)

end ContractVerifier.Monitoring
