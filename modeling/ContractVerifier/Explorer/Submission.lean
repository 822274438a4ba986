import ContractVerifier.Explorer.Client
import ContractVerifier.Monitoring.Breadcrumb

set_option autoImplicit false

/-! # Submitting a contract

A contract is submitted by the explorer's current interface, and by its older one if that
does not accept it. Each interface is tried once. An attempt is **accepted** if the answer is
a success with a JSON body; it may be **refused**, or it may **fail**. Failures in transport
and values that cannot be used count as such; any other fault ends the submission.

Main definition: `Client.submit`.
-/

namespace ContractVerifier

/-- What came of one attempt. -/
inductive Attempt where
  | accepted (payload : Json)
  | refused (response : ExplorerResponse)
  | failed (fault : Fault)

/-- What a call is as an attempt. -/
def ClientCall.attempt (call : ClientCall) : Attempt :=
  match call.result with
  | .error fault => .failed fault
  | .ok response =>
    if response.isSuccess then
      match response.json call.client.depth with
      | .ok payload => .accepted payload
      | .error fault => .failed fault
    else .refused response

/-- Whether a fault of a call is a failure that the client's users expect. -/
def Fault.isExpected (f : Fault) : Bool := f.isTransport || f.isValue

/-- The error of a submission that both interfaces answered and neither accepted. -/
def bothRejected : Text := "Verification failed with both v2 API and RPC methods".toList

/-- The error of a submission to which the older interface gave no usable answer. -/
def bothFailed : Text := "Both verification methods failed".toList

/-- The outcome of a second attempt that did not come to an answer that can be read. -/
def Fault.outcome (address : Text) (fault : Fault) : Except Fault VerificationOutcome :=
  if fault.isExpected then
    .ok (.failure address bothFailed (.text fault.describe) [.v2, .rpc] none)
  else .error fault

/-- The outcome of the second attempt, which is the outcome of the submission. -/
def Attempt.outcome (address : Text) : Attempt → Except Fault VerificationOutcome
  | accepted payload => .ok (.success .rpc payload)
  | refused response =>
    match response.text with
    | .ok details =>
      .ok (.failure address bothRejected (.text details) [.v2, .rpc] (some response.status))
    | .error fault => fault.outcome address
  | failed fault => fault.outcome address

/-- What came of a submission: the outcome, what was sent in order, the notes left on the way,
and the client afterwards. -/
structure Submission where
  outcome : Except Fault VerificationOutcome
  sent : List ExplorerRequest
  notes : List Monitoring.Breadcrumb
  client : Client

namespace Client

/-- Submits a contract. -/
def submit (c : Client) (explorer : Explorer) (r : VerificationRequest) : Submission :=
  let note := (Monitoring.Breadcrumb.ofAttempt · r.address)
  let first := c.verifyFlattened explorer r
  let ended (outcome : Except Fault VerificationOutcome) : Submission :=
    ⟨outcome, first.sent.toList, [note .v2], first.client⟩
  let again : Submission :=
    let second := first.client.verifyLegacy explorer r
    ⟨second.attempt.outcome r.address,
      first.sent.toList ++ second.sent.toList, [note .v2, note .rpc], second.client⟩
  match first.attempt with
  | .accepted payload => ended (.ok (.success .v2 payload))
  | .refused response =>
    match response.text with
    | .error fault => if fault.isExpected then again else ended (.error fault)
    | .ok _ => again
  | .failed fault => if fault.isExpected then again else ended (.error fault)

end Client

end ContractVerifier
