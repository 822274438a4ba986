import ContractVerifier.Web.Message

set_option autoImplicit false

/-! # Input of the web interface

What a client has to send. A submission is a JSON object with a contract's address and its
source, both texts and neither empty; a question for a status has the address in its query.

Main definitions: `readSubmission` and `readAddress`.
-/

namespace ContractVerifier.Web

/-- A member that may be a text or null, or be missing. -/
def textMember (members : List (Text × Json)) (name : String) : Except FieldProblem (Option Text) :=
  match Association.get? name.toList members with
  | none => .ok none
  | some .null => .ok none
  | some (.text t) => .ok (some t)
  | some _ => .error .notText

/-- The problems of a member. -/
def problemsOf (members : List (Text × Json)) (name : String) : List (Text × FieldProblem) :=
  match textMember members name with
  | .ok _ => []
  | .error p => [(name.toList, p)]

/-- The text of a member that is there and not empty. -/
def givenText? (members : List (Text × Json)) (name : String) : Option Text :=
  match textMember members name with
  | .ok (some (c :: t)) => some (c :: t)
  | _ => none

/-- A body that cannot be processed. -/
def malformed (details : Details) : Fault := .service (.processing (some details))

/-- What is said of a submission that lacks something. -/
def missingFields : Fault :=
  .service (.validation "Missing required fields: contractAddress and sourceCode".toList none)

/-- The address and the source that a JSON value submits. -/
def submissionOfJson : Json → Except Fault (Text × Text)
  | .object members =>
    match problemsOf members "contractAddress" ++ problemsOf members "sourceCode" with
    | [] =>
      match givenText? members "contractAddress", givenText? members "sourceCode" with
      | some address, some source => .ok (address, source)
      | _, _ => .error missingFields
    | problems => .error (malformed (.fields problems))
  | _ => .error (malformed (.fields [([], .notObject)]))

/-- The address and the source that a body submits, in which values may be nested `depth` deep. A
body that is no JSON text is malformed. -/
def readSubmission (body : List UInt8) (depth : Nat) : Except Fault (Text × Text) :=
  match Json.readBytes body depth with
  | .ok v => submissionOfJson v
  | .error e =>
    let fault := Fault.json e
    .error (if fault.isValue then malformed (.text fault.message) else fault)

/-- The address a query asks about: the last one it gives. -/
def readAddress (r : Request) : Except Fault Text :=
  match (r.parameters "address").getLast? with
  | some (c :: t) => .ok (c :: t)
  | _ => .error (.service (.validation "Address parameter is required".toList none))

end ContractVerifier.Web
