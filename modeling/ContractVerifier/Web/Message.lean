import ContractVerifier.Monitoring.Tracker
import ContractVerifier.Url.Escape

set_option autoImplicit false

/-! # Messages of the web interface

A request as it comes in and the answer that goes out. An answer has a status, a JSON value or
nothing as its content, and says where else to go or what is allowed where that matters. While the
service is debugged, the answer to a fault that nobody expected is a page for whoever debugs it.
-/

namespace ContractVerifier.Web

/-- A request. The query and the body are bytes. -/
structure Request where
  method : Text
  path : Text
  query : List UInt8
  body : List UInt8
  /-- The scheme and the host that the request was sent to, those of a client in the same process
  unless it says others. -/
  origin : Text := "http://testserver".toList
  /-- The kinds of content that the client takes, as it lists them. -/
  accept : Text := []
  deriving DecidableEq, Repr

/-- How a page is written. -/
inductive Markup where
  | plain
  | html
  deriving DecidableEq, Repr

/-- An answer. `escaped` is a fault that nobody expected and that is reported beyond the
answer. -/
structure Answer where
  status : Int
  content : Option Json
  location : Option Text := none
  allow : Option Text := none
  escaped : Option Fault := none
  /-- How the page is written that shows where the escaped fault arose, if such a page takes the
  place of the content. -/
  trace : Option Markup := none

/-- A JSON value as an answer, if it can be sent. -/
def Answer.ofJson (status : Int) (v : Json) : Except Fault Answer :=
  match v.checkWritable with
  | .ok _ => .ok { status, content := some v }
  | .error e => .error (.ofWriteError e)

/-! ## What is shown of a value -/

/-- The beginning of the names of members that are kept from clients. -/
def hiddenStart : Text := "_sa".toList

mutual

/-- A value without the members that are kept from clients. -/
def shown : Json → Json
  | .list items => .list (shownItems items)
  | .object members => .object (shownMembers members)
  | v => v

/-- `shown` of all items. -/
def shownItems : List Json → List Json
  | [] => []
  | v :: rest => shown v :: shownItems rest

/-- `shown` of all members that are not kept from clients. -/
def shownMembers : List (Text × Json) → List (Text × Json)
  | [] => []
  | (name, v) :: rest =>
    if Text.startsWith hiddenStart name then shownMembers rest
    else (name, shown v) :: shownMembers rest

end

/-- A JSON value as the answer to a request that went well. -/
def Answer.ofResult (v : Json) : Except Fault Answer := Answer.ofJson 200 (shown v)

/-- The values that a query gives a name, in order. Each byte of a query is a character. -/
def Request.parameters (r : Request) (name : String) : List Text :=
  (Url.Form.decodePairs (r.query.map fun b => Char.ofNat b.toNat)).filterMap fun p =>
    if p.1 = name.toList then some p.2 else none

/-! ## Faults as answers -/

/-- The code that goes with a status. -/
def codeOfStatus (status : Int) : ErrorCode := if status < 500 then .badRequest else .internal

/-- The answer to a request that ended in a fault. -/
def Answer.ofFault (now : Text) : Fault → Answer
  | .service e => { status := e.status, content := some (e.body now) }
  | .web status detail =>
    { status
      content := some (.ofMembers [("success", .bool false), ("error", .text detail),
        ("code", .string (codeOfStatus status).text), ("timestamp", .text now)]) }
  | fault =>
    let e := ServiceError.processing (some (.text fault.describe))
    { status := e.status, content := some (e.body now), escaped := some fault }

/-- The page about a fault that nobody expected, for a client that takes these kinds of content. -/
def Answer.ofTrace (accept : Text) (fault : Fault) : Answer where
  status := 500
  content := none
  escaped := some fault
  trace := some (if Text.occursIn "text/html".toList accept then .html else .plain)

/-- Why the answer to an expected fault cannot be sent, if it cannot. -/
def Answer.fault? (a : Answer) : Option Fault :=
  match a.escaped, a.content.map Json.checkWritable with
  | none, some (.error e) => some (.ofWriteError e)
  | _, _ => none

end ContractVerifier.Web
