import ContractVerifier.Proofs.Explorer.Reading
import ContractVerifier.Web.App

set_option autoImplicit false

/-! # The shapes of answers

The answer to a valid request depends on what the explorer answers; it has one of a few shapes.
`SubmissionAnswer` and `StatusAnswer` say which, and `ClientCall.PassesOn` and
`ClientCall.TellsStatus` when the explorer's answer allows for one.
-/

namespace ContractVerifier

/-! ## Members that are shown -/

namespace Web

/-- A name that is shown to clients. -/
def IsShown (name : String) : Prop := ¬ Text.startsWith hiddenStart name.toList

instance : DecidablePred IsShown := fun _ => instDecidableNot

/-- An object whose names are all shown keeps its members. -/
theorem shown_ofMembers {members : List (String × Json)}
    (h : ∀ name ∈ members.map Prod.fst, IsShown name) :
    shown (.ofMembers members) = .ofMembers (members.map fun m => (m.1, shown m.2)) := by
  rw [Json.ofMembers, shown]
  show Json.object _ = Json.object _
  congr 1
  induction members with
  | nil => rfl
  | cons m rest ih =>
      rw [List.map_cons, List.forall_mem_cons] at h
      rw [List.map_cons, shownMembers, if_neg h.1, ih h.2]
      rfl

/-- What does not count as given holds no number but zero. -/
theorem isFinite_shown_of_not_isGiven {v : Json} (h : ¬ v.isGiven) : (shown v).isFinite := by
  cases v with
  | float x =>
      have hzero : x.isZero := by simpa [Json.isGiven] using h
      cases x <;> simp_all [shown, Json.isFinite, Number.Binary64.isZero, Number.Binary64.isFinite]
  | list items =>
      obtain rfl : items = [] := by simpa [Json.isGiven] using h
      rfl
  | object members =>
      obtain rfl : members = [] := by simpa [Json.isGiven] using h
      rfl
  | _ => simp [shown, Json.isFinite]

end Web

/-! ## Answers to submissions -/

namespace Web

/-- A body with the time of the answer. -/
def stamped (now : Text) (body : Json) : Json := body.insert "timestamp" (.text now)

/-- What the service answers has bytes, all of it and the part that is shown. -/
def HasBytes (now : Text) (result : Except Fault Json) : Prop :=
  ∀ body, result = .ok body → (stamped now body).HasBytes ∧ (shown (stamped now body)).HasBytes

instance (now : Text) (result : Except Fault Json) : Decidable (HasBytes now result) :=
  match result with
  | .error _ => isTrue fun _ h => nomatch h
  | .ok body =>
    decidable_of_iff ((stamped now body).HasBytes ∧ (shown (stamped now body)).HasBytes)
      ⟨fun h _ hbody => Except.ok.inj hbody ▸ h, fun h => h body rfl⟩

/-- The answer to a submission that was accepted. -/
def acceptedAnswer (page now : Text) (method : VerificationMethod) (result : Json) : Answer where
  status := 200
  content := some (.ofMembers [("success", .bool true), ("method", .string method.text),
    ("result", result), ("blockscoutUrl", .text page), ("timestamp", .text now)])

/-- The answer to a submission that no interface accepted. -/
def rejectedAnswer (address now error details : Text) (status : Option Int) : Answer where
  status := 200
  content := some (.ofMembers ([("success", .bool false), ("error", .text error),
    ("details", .text details), ("addressHash", .text address),
    ("attemptedMethods", .list [.string "v2_api", .string "rpc_api"])] ++
    (status.map fun s => ("blockscoutStatus", .int s)).toList ++ [("timestamp", .text now)]))

/-- The answer to a submission, by what came of the explorer's first and second answer. -/
inductive SubmissionAnswer (first second : ClientCall) (page address now : Text) : Answer → Prop
  | accepted {payload : Json} (h : first.Accepted payload) :
      SubmissionAnswer first second page address now (acceptedAnswer page now .v2 (shown payload))
  | acceptedAgain {payload : Json} (hfirst : ∀ payload, ¬ first.Accepted payload)
      (h : second.Accepted payload) :
      SubmissionAnswer first second page address now (acceptedAnswer page now .rpc (shown payload))
  | refused {status : Int} {details : Text} (hfirst : ∀ payload, ¬ first.Accepted payload)
      (h : second.Refused status details) :
      SubmissionAnswer first second page address now
        (rejectedAnswer address now bothRejected details (some status))
  | failed {details : Text} (hfirst : ∀ payload, ¬ first.Accepted payload)
      (haccepted : ∀ payload, ¬ second.Accepted payload)
      (hrefused : ∀ status details, ¬ second.Refused status details) (hdetails : details ≠ []) :
      SubmissionAnswer first second page address now
        (rejectedAnswer address now bothFailed details none)

theorem SubmissionAnswer.status {first second : ClientCall} {page address now : Text}
    {answer : Answer} (h : SubmissionAnswer first second page address now answer) :
    answer.status = 200 := by
  cases h <;> rfl

end Web

/-- The explorer's answer can be passed on: it does not overflow, and what it accepts with holds no
infinite number where it is shown. -/
structure ClientCall.PassesOn (call : ClientCall) : Prop where
  reads : ¬ call.Overflows
  finite : ∀ payload, call.Accepted payload → (Web.shown payload).isFinite

theorem ClientCall.Accepted.passesOn {call : ClientCall} {payload : Json}
    (h : call.Accepted payload) (hfinite : (Web.shown payload).isFinite) : call.PassesOn where
  reads := h.not_overflows
  finite := by
    intro payload' h'
    rw [h'.unique h]
    exact hfinite

namespace Web

theorem stamped_success (v : Verifier) (address now : Text) (method : VerificationMethod)
    (payload : Json) :
    stamped now (v.withPage true address (VerificationOutcome.success method payload).toJson) =
      .ofMembers [("success", .bool true), ("method", .string method.text), ("result", payload),
        ("blockscoutUrl", .text (v.explorer.addressUrl address)), ("timestamp", .text now)] := by
  unfold stamped
  rw [Verifier.withPage, if_pos rfl, VerificationOutcome.toJson, Json.insert_ofMembers (by simp),
    Json.insert_ofMembers (by simp)]
  rfl

theorem shown_stamped_success (v : Verifier) (address now : Text) (method : VerificationMethod)
    (payload : Json) :
    shown (stamped now
        (v.withPage true address (VerificationOutcome.success method payload).toJson)) =
      .ofMembers [("success", .bool true), ("method", .string method.text),
        ("result", shown payload), ("blockscoutUrl", .text (v.explorer.addressUrl address)),
        ("timestamp", .text now)] := by
  rw [stamped_success, shown_ofMembers]
  · simp [shown, Json.string]
  · simp only [List.map_cons, List.map_nil]
    decide

theorem stamped_failure (v : Verifier) (address now error details : Text) (status : Option Int) :
    stamped now (v.withPage false address
        (VerificationOutcome.failure address error (.text details) [.v2, .rpc] status).toJson) =
      .ofMembers ([("success", .bool false), ("error", .text error), ("details", .text details),
        ("addressHash", .text address),
        ("attemptedMethods", .list [.string "v2_api", .string "rpc_api"])] ++
        (status.map fun s => ("blockscoutStatus", .int s)).toList ++
        [("timestamp", .text now)]) := by
  unfold stamped
  rw [Verifier.withPage, if_neg (by decide), VerificationOutcome.toJson, Json.insert_ofMembers]
  · rfl
  · cases status <;> simp

/-- All of a failure is shown. -/
theorem shown_stamped_failure (v : Verifier) (address now error details : Text)
    (status : Option Int) :
    let body := stamped now (v.withPage false address
      (VerificationOutcome.failure address error (.text details) [.v2, .rpc] status).toJson)
    shown body = body := by
  intro body
  rw [show body = _ from stamped_failure .., shown_ofMembers]
  · cases status <;> simp [shown, shownItems, Json.string]
  · cases status <;>
      simp only [List.map_cons, List.map_nil, Option.map_none, Option.map_some,
        Option.toList_none, Option.toList_some, List.cons_append, List.nil_append] <;>
      decide

theorem ofResult_of_isFinite {body : Json} (hfinite : (shown body).isFinite)
    (hbytes : (shown body).HasBytes) :
    Answer.ofResult body = .ok { status := 200, content := some (shown body) } := by
  rw [Answer.ofResult, Answer.ofJson, Json.checkWritable_of_isFinite hfinite hbytes]

theorem ofResult_of_not_isFinite {body : Json} (h : ¬ (shown body).isFinite) :
    Answer.ofResult body = .error .notFinite := by
  rw [Answer.ofResult, Answer.ofJson, Json.checkWritable_of_not_isFinite h]
  rfl

/-- What an outcome that is a success is answered with. -/
theorem isFinite_stamped_success (v : Verifier) (address now : Text) (method : VerificationMethod)
    (payload : Json) :
    (shown (stamped now (v.withPage true address
        (VerificationOutcome.success method payload).toJson))).isFinite =
      (shown payload).isFinite := by
  rw [shown_stamped_success, Json.isFinite_ofMembers]
  simp [Json.isFinite, Json.string]

theorem isFinite_stamped_failure (v : Verifier) (address now error details : Text)
    (status : Option Int) :
    (shown (stamped now (v.withPage false address
      (VerificationOutcome.failure address error (.text details) [.v2, .rpc] status).toJson))).isFinite
      := by
  rw [shown_stamped_failure, stamped_failure, Json.isFinite_ofMembers]
  cases status <;> simp [Json.isFinite, Json.itemsFinite, Json.string]

end Web

/-! ## What is told of a contract -/

/-- The explorer's answer can be told: it does not overflow, and the status it gives holds no
infinite number where it is shown. -/
structure ClientCall.TellsStatus (call : ClientCall) : Prop where
  reads : ¬ call.Overflows
  finite : ∀ body value, call.Accepted body → body.member? "verification_status" = some value →
    (Web.shown value).isFinite

namespace VerificationStatus

/-- A body tells a status that is finite exactly if the one it gives is. -/
theorem exists_ofBody (body : Json) :
    ∃ isVerified status, ofBody body = .known isVerified status none ∧
      ((Web.shown status).isFinite ↔ ∀ value, body.member? "verification_status" = some value →
        (Web.shown value).isFinite) := by
  refine ⟨_, _, rfl, ?_⟩
  cases hmember : body.member? "verification_status" with
  | none => simp [Web.shown, Json.isFinite, Json.string]
  | some value =>
      by_cases hgiven : value.isGiven
      · rw [Option.filter_some, if_pos hgiven]
        simp
      · have hfinite := Web.isFinite_shown_of_not_isGiven hgiven
        rw [Option.filter_some, if_neg hgiven]
        simp [hfinite, Web.shown, Json.isFinite, Json.string]

end VerificationStatus

namespace Web

/-- The answer that tells a contract's status. -/
def knownAnswer (page address now : Text) (isVerified : Bool) (status : Json)
    (message : Option Text) : Answer where
  status := 200
  content := some (.ofMembers ([("success", .bool true), ("isVerified", .bool isVerified),
    ("verificationStatus", status)] ++ (message.map fun m => ("message", .text m)).toList ++
    [("address", .text address), ("blockscoutUrl", .text page), ("timestamp", .text now)]))

/-- The answer that says why a contract's status cannot be told. -/
def unknownAnswer (address now details : Text) : Answer where
  status := 500
  content := some (.ofMembers [("success", .bool false),
    ("error", .string "Failed to check verification status"), ("details", .text details),
    ("address", .text address), ("timestamp", .text now)])

/-- What is said of a contract that the explorer does not know. -/
def notFoundMessage (code : Int) : Text :=
  "Contract not found on explorer (status: ".toList ++ Text.ofInt code ++ [')']

/-- The answer about a contract, by what came of asking the explorer. -/
inductive StatusAnswer (call : ClientCall) (page address now : Text) : Answer → Prop
  | known {body status : Json} {isVerified : Bool} (h : call.Accepted body)
      (hbody : VerificationStatus.ofBody body = .known isVerified status none) :
      StatusAnswer call page address now
        (knownAnswer page address now isVerified (shown status) none)
  | notFound {code : Int} (h : call.Declines code) :
      StatusAnswer call page address now (knownAnswer page address now false
        (.string "not_found") (some (notFoundMessage code)))
  | unknown {details : Text} (hfails : call.Fails) (hdetails : details ≠ []) :
      StatusAnswer call page address now (unknownAnswer address now details)

theorem StatusAnswer.escaped {call : ClientCall} {page address now : Text} {answer : Answer}
    (h : StatusAnswer call page address now answer) : answer.escaped = none := by
  cases h <;> rfl

/-- An answer is a server's error exactly if the call failed. -/
theorem StatusAnswer.status_eq_iff {call : ClientCall} {page address now : Text} {answer : Answer}
    (h : StatusAnswer call page address now answer) : answer.status = 500 ↔ call.Fails := by
  cases h with
  | known h => exact iff_of_false (by simp [knownAnswer]) h.not_fails
  | notFound h => exact iff_of_false (by simp [knownAnswer]) h.not_fails
  | unknown hfails => exact iff_of_true rfl hfails

/-- A status as a body, with the address and, if it is known, the page. -/
def statusBody (v : Verifier) (address : Text) (status : VerificationStatus) : Json :=
  v.withPage status.isSuccess address (status.toJson.insert "address" (.text address))

/-- A body says of itself whether the status is known. -/
theorem isGiven_success (v : Verifier) (address : Text) (status : VerificationStatus) :
    (((statusBody v address status).member? "success").map Json.isGiven).getD false =
      status.isSuccess := by
  have hpage : (statusBody v address status).member? "success" =
      (status.toJson.insert "address" (.text address)).member? "success" := by
    unfold statusBody Verifier.withPage
    split
    · exact Json.member?_insert_of_ne (by simp) _
    · rfl
  rw [hpage, Json.member?_insert_of_ne (by simp)]
  cases status with
  | known isVerified status message =>
      rw [VerificationStatus.toJson, List.cons_append, Json.member?_ofMembers_cons]
      rfl
  | unknown error details =>
      rw [VerificationStatus.toJson, Json.member?_ofMembers_cons]
      rfl

theorem stamped_known (v : Verifier) (address now : Text) (isVerified : Bool) (status : Json)
    (message : Option Text) (hmessage : message ≠ some []) :
    stamped now (statusBody v address (.known isVerified status message)) =
      .ofMembers ([("success", .bool true), ("isVerified", .bool isVerified),
        ("verificationStatus", status)] ++ (message.map fun m => ("message", .text m)).toList ++
        [("address", .text address), ("blockscoutUrl", .text (v.explorer.addressUrl address)),
          ("timestamp", .text now)]) := by
  have hfilter : message.filter (· ≠ []) = message := by
    cases message with
    | none => rfl
    | some m =>
        have hm : m ≠ [] := fun h => hmessage (by rw [h])
        simp [Option.filter, hm]
  show (((VerificationStatus.known isVerified status message).toJson.insert "address"
    (.text address)).insert "blockscoutUrl" (.text (v.explorer.addressUrl address))).insert
    "timestamp" (.text now) = _
  rw [VerificationStatus.toJson, hfilter, Json.insert_ofMembers, Json.insert_ofMembers,
    Json.insert_ofMembers]
  · simp
  all_goals cases message <;> simp

theorem shown_stamped_known (v : Verifier) (address now : Text) (isVerified : Bool) (status : Json)
    (message : Option Text) (hmessage : message ≠ some []) :
    shown (stamped now (statusBody v address (.known isVerified status message))) =
      .ofMembers ([("success", .bool true), ("isVerified", .bool isVerified),
        ("verificationStatus", shown status)] ++
        (message.map fun m => ("message", .text m)).toList ++
        [("address", .text address), ("blockscoutUrl", .text (v.explorer.addressUrl address)),
          ("timestamp", .text now)]) := by
  rw [stamped_known v address now isVerified status message hmessage, shown_ofMembers]
  · cases message <;> simp [shown]
  · cases message <;>
      simp only [List.map_cons, List.map_nil, Option.map_none, Option.map_some,
        Option.toList_none, Option.toList_some, List.cons_append, List.nil_append] <;>
      decide

theorem stamped_unknown (v : Verifier) (address now details : Text) :
    stamped now (statusBody v address
        (.unknown (.string "Failed to check verification status") (.text details))) =
      .ofMembers [("success", .bool false),
        ("error", .string "Failed to check verification status"), ("details", .text details),
        ("address", .text address), ("timestamp", .text now)] := by
  show ((VerificationStatus.unknown (.string "Failed to check verification status")
    (.text details)).toJson.insert "address" (.text address)).insert "timestamp" (.text now) = _
  rw [VerificationStatus.toJson, Json.insert_ofMembers (by simp), Json.insert_ofMembers (by simp)]
  rfl

end Web

end ContractVerifier
