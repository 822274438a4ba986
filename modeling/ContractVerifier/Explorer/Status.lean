import ContractVerifier.Explorer.Submission

set_option autoImplicit false

/-! # Reading a contract's status

What the explorer says of a contract. That it knows nothing of the contract is an answer like
any other; only a failure leaves the status unknown.

Main definition: `Client.readStatus`.
-/

namespace ContractVerifier

namespace VerificationStatus

/-- The status of a contract of which the explorer knows nothing. -/
def notFound (status : Int) : VerificationStatus :=
  known false (.string "not_found")
    (some ("Contract not found on explorer (status: ".toList ++ Text.ofInt status ++ [')']))

/-- The status that a body gives. A body that is no object says nothing. -/
def ofBody (body : Json) : VerificationStatus :=
  let isVerified := ((body.member? "is_verified").map Json.isGiven).getD false
  let status := ((body.member? "verification_status").filter Json.isGiven).getD (.string "unknown")
  known isVerified status none

/-- The status of a contract that could not be asked for. -/
def ofFault (fault : Fault) : VerificationStatus :=
  unknown (.string "Failed to check verification status") (.text fault.describe)

/-- The status that an attempt to read it gives. -/
def ofAttempt : Attempt → Except Fault VerificationStatus
  | .accepted body => .ok (ofBody body)
  | .refused response => .ok (notFound response.status)
  | .failed fault => if fault.isExpected then .ok (ofFault fault) else .error fault

end VerificationStatus

/-- What came of reading a status: the status, the request if one was sent, and the client
afterwards. -/
structure StatusReading where
  status : Except Fault VerificationStatus
  sent : List ExplorerRequest
  client : Client

/-- Reads a contract's status. -/
def Client.readStatus (c : Client) (explorer : Explorer) (address : Text) : StatusReading :=
  let call := c.getContract explorer address
  ⟨VerificationStatus.ofAttempt call.attempt, call.sent.toList, call.client⟩

end ContractVerifier
