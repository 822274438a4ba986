import ContractVerifier.Fault

set_option autoImplicit false

/-! # Outcomes

What came of a submission (`VerificationOutcome`), and what the explorer says of a contract
(`VerificationStatus`), each with its form in an answer.
-/

namespace ContractVerifier

/-- The explorer's two interfaces. -/
inductive VerificationMethod where
  /-- The current interface. -/
  | v2
  /-- The older interface. -/
  | rpc
  deriving DecidableEq, Repr

namespace VerificationMethod

/-- The spelling of a method. -/
def text : VerificationMethod → String
  | v2 => "v2_api"
  | rpc => "rpc_api"

/-- The method with this spelling. -/
def ofText (t : Text) : Except Fault VerificationMethod :=
  if t = v2.text.toList then .ok v2
  else if t = rpc.text.toList then .ok rpc
  else .error (.unknownMethod t)

theorem ofText_text (m : VerificationMethod) : ofText m.text.toList = .ok m := by
  cases m <;> rfl

end VerificationMethod

/-- What came of a submission. -/
inductive VerificationOutcome where
  /-- The explorer accepted the submission and answered with `payload`. -/
  | success (method : VerificationMethod) (payload : Json)
  /-- No interface accepted it. `explorerStatus` is the status of a refusal. -/
  | failure (address error : Text) (details : Json) (attempted : List VerificationMethod)
      (explorerStatus : Option Int)

namespace VerificationOutcome

/-- Whether the submission was accepted. -/
def isSuccess : VerificationOutcome → Bool
  | success .. => true
  | failure .. => false

/-- The outcome as a value. -/
def toJson : VerificationOutcome → Json
  | success method payload =>
    .ofMembers [("success", .bool true), ("method", .string method.text), ("result", payload)]
  | failure address error details attempted status =>
    .ofMembers ([("success", .bool false), ("error", .text error), ("details", details),
      ("addressHash", .text address),
      ("attemptedMethods", .list (attempted.map fun m => .string m.text))] ++
      (status.map fun s => ("blockscoutStatus", .int s)).toList)

end VerificationOutcome

/-- What the explorer says of a contract, or why it could not be asked. -/
inductive VerificationStatus where
  | known (isVerified : Bool) (status : Json) (message : Option Text)
  | unknown (error details : Json)

namespace VerificationStatus

/-- Whether the explorer could be asked. -/
def isSuccess : VerificationStatus → Bool
  | known .. => true
  | unknown .. => false

/-- The status as a value. An empty message is left out. -/
def toJson : VerificationStatus → Json
  | known isVerified status message =>
    .ofMembers ([("success", .bool true), ("isVerified", .bool isVerified),
      ("verificationStatus", status)] ++
      ((message.filter (· ≠ [])).map fun m => ("message", .text m)).toList)
  | unknown error details =>
    .ofMembers [("success", .bool false), ("error", error), ("details", details)]

end VerificationStatus

end ContractVerifier
