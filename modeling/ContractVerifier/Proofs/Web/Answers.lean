import ContractVerifier.Proofs.Service.Requests
import ContractVerifier.Proofs.Web.Shapes

set_option autoImplicit false

/-! # Answers to valid requests

A request is valid if it submits an address and a source, or asks about an address, and none of
them is empty. It has a structured answer unless what comes from the explorer cannot be read or
cannot be passed on: a body that is nested too deeply, or a number that is not finite. Those two
end in a fault that nobody expected.

Main statement: `Verifier.handle_structured`.
-/

namespace ContractVerifier

/-! ## Valid requests -/

namespace Web

namespace Request

/-- The request submits an address and a source, neither of them empty, to those who read values
that are nested `depth` deep. -/
def Submits (r : Request) (depth : Nat) (address source : Text) : Prop :=
  r.method = "POST".toList ∧ r.path = contractPath.toList ∧ address ≠ [] ∧ source ≠ [] ∧
    ∃ members, Json.readBytes r.body depth = .ok (.object members) ∧
      Association.get? "contractAddress".toList members = some (.text address) ∧
      Association.get? "sourceCode".toList members = some (.text source)

/-- The request asks about an address that is not empty. -/
def AsksAbout (r : Request) (address : Text) : Prop :=
  r.method = "GET".toList ∧ r.path = contractPath.toList ∧ address ≠ [] ∧
    (r.parameters "address").getLast? = some address

variable {r : Request} {depth : Nat} {address source : Text}

theorem Submits.endpoint (h : r.Submits depth address source) :
    endpoint r.method r.path = .ok .submit := by
  obtain ⟨hmethod, hpath, -⟩ := h
  rw [hmethod, hpath]
  rfl

theorem AsksAbout.endpoint (h : r.AsksAbout address) : endpoint r.method r.path = .ok .status := by
  obtain ⟨hmethod, hpath, -⟩ := h
  rw [hmethod, hpath]
  rfl

theorem Submits.read (h : r.Submits depth address source) :
    readSubmission r.body depth = .ok (address, source) := by
  obtain ⟨-, -, haddress, hsource, members, hbody, hgetAddress, hgetSource⟩ := h
  obtain ⟨c, address, rfl⟩ := List.exists_cons_of_ne_nil haddress
  obtain ⟨d, source, rfl⟩ := List.exists_cons_of_ne_nil hsource
  have htextAddress : textMember members "contractAddress" = .ok (some (c :: address)) := by
    rw [textMember, hgetAddress]
  have htextSource : textMember members "sourceCode" = .ok (some (d :: source)) := by
    rw [textMember, hgetSource]
  simp only [readSubmission, hbody, submissionOfJson, problemsOf, givenText?, htextAddress,
    htextSource, List.append_nil]

theorem AsksAbout.read (h : r.AsksAbout address) : readAddress r = .ok address := by
  obtain ⟨-, -, haddress, hlast⟩ := h
  obtain ⟨c, address, rfl⟩ := List.exists_cons_of_ne_nil haddress
  rw [readAddress, hlast]

end Request

/-! ## Faults that nobody expected -/

namespace App

variable {σ : Type} {a : App} {service : Service σ} {now : Text} {r : Request} {s s' : σ}
  {e : Endpoint}

theorem handle_of_serve_ok {answer : Answer} (hendpoint : endpoint r.method r.path = .ok e)
    (h : a.serve service now e r s = (.ok answer, s')) :
    a.handle service now r s = (answer, a, s') := by
  rw [handle, hendpoint]
  simp only [h]

theorem handle_of_serve_error {fault : Fault} (hendpoint : endpoint r.method r.path = .ok e)
    (h : a.serve service now e r s = (.error fault, s')) :
    (a.handle service now r s).1 = (a.fail now r fault).1 := by
  rw [handle, hendpoint]
  simp only [h]

/-- A fault that nobody expected is a server's error, and it escapes, debugged or not. -/
structure Surprises (now : Text) (fault : Fault) : Prop where
  escaped : (Answer.ofFault now fault).escaped = some fault
  status : (Answer.ofFault now fault).status = 500

theorem surprises_of_escaped {fault fault' : Fault}
    (h : (Answer.ofFault now fault).escaped = some fault') : Surprises now fault := by
  cases fault with
  | service => cases h
  | web => cases h
  | _ => exact ⟨rfl, rfl⟩

theorem surprises_ofWriteError (now : Text) (e : Json.WriteError) :
    Surprises now (.ofWriteError e) := by
  cases e <;> exact ⟨rfl, rfl⟩

theorem fail_of_surprises {fault : Fault} (h : Surprises now fault) :
    a.fail now r fault = a.surprise now r fault := by
  simp only [fail, h.escaped]

/-- How a request ends that ended in a fault: with an answer to it that can be sent, or with a
surprise, which is the fault itself or comes of an answer that cannot be sent. -/
theorem fail_cases (a : App) (now : Text) (r : Request) (fault : Fault) :
    ((Answer.ofFault now fault).escaped = none ∧ (Answer.ofFault now fault).fault? = none ∧
        a.fail now r fault = (Answer.ofFault now fault, a.track now r fault)) ∨
      (Surprises now fault ∧ a.fail now r fault = a.surprise now r fault) ∨
      ∃ fault', Surprises now fault' ∧
        a.fail now r fault = (a.track now r fault).surprise now r fault' := by
  cases hescaped : (Answer.ofFault now fault).escaped with
  | some fault' =>
      have hfault : Surprises now fault := surprises_of_escaped hescaped
      exact .inr (.inl ⟨hfault, fail_of_surprises hfault⟩)
  | none =>
      -- the fault was expected, and its answer may still be one that cannot be sent
      cases hfault : (Answer.ofFault now fault).fault? with
      | none =>
          refine .inl ⟨rfl, rfl, ?_⟩
          simp only [fail, hescaped, hfault]
      | some fault' =>
          refine .inr (.inr ⟨fault', ?_, ?_⟩)
          · unfold Answer.fault? at hfault
            split at hfault
            · cases hfault
              exact surprises_ofWriteError now _
            · cases hfault
          · simp only [fail, hescaped, hfault]

theorem status_surprise {fault : Fault} (h : Surprises now fault) :
    (a.surprise now r fault).1.status = 500 := by
  unfold surprise
  split
  · rfl
  · exact h.status

theorem escaped_surprise {fault : Fault} (h : Surprises now fault) :
    (a.surprise now r fault).1.escaped = some fault := by
  unfold surprise
  split
  · rfl
  · exact h.escaped

/-- An answer with another fault in place of a server's error is a server's error. -/
theorem status_fail {fault : Fault} (h : (Answer.ofFault now fault).status = 500) :
    (a.fail now r fault).1.status = 500 := by
  rcases a.fail_cases now r fault with ⟨-, -, hfail⟩ | ⟨hfault, hfail⟩ | ⟨fault', hfault, hfail⟩
  · rw [hfail]
    exact h
  · rw [hfail]
    exact status_surprise hfault
  · rw [hfail]
    exact status_surprise hfault

/-- A fault that nobody expected is reported beyond its answer. -/
theorem escaped_fail {fault : Fault} (h : Surprises now fault) :
    (a.fail now r fault).1.escaped = some fault := by
  rw [fail_of_surprises h]
  exact escaped_surprise h

end App

end Web

/-! ## Answers to submissions -/

namespace Web.App

variable {σ : Type} {a : App} {service : Service σ} {now : Text} {r : Request} {s : σ}
  {address source : Text} {body : Json}

theorem serve_of_verified (a : App) (now : Text) (h : r.Submits a.depth address source)
    (hverify : (service.verify address source s).1 = .ok body) :
    a.serve service now .submit r s =
      (Answer.ofResult (stamped now body), (service.verify address source s).2) := by
  have heq : service.verify address source s = (.ok body, (service.verify address source s).2) :=
    Prod.ext hverify rfl
  rw [serve, submit, h.read]
  simp only
  rw [heq]
  rfl

theorem serve_of_unverified {fault : Fault} (h : r.Submits a.depth address source)
    (hverify : (service.verify address source s).1 = .error fault) :
    a.serve service now .submit r s =
      (.error (asProcessing fault), (service.verify address source s).2) := by
  have heq : service.verify address source s =
      (.error fault, (service.verify address source s).2) := Prod.ext hverify rfl
  rw [serve, submit, h.read]
  simp only
  rw [heq]

/-- A submission that goes well is answered with what the service says. -/
theorem handle_of_verified (a : App) (service : Service σ) (h : r.Submits a.depth address source)
    (hverify : (service.verify address source s).1 = .ok body)
    (hfinite : (shown (stamped now body)).isFinite)
    (hbytes : HasBytes now (service.verify address source s).1) :
    (a.handle service now r s).1 = { status := 200, content := some (shown (stamped now body)) } ∧
      (a.handle service now r s).2.1 = a := by
  have hserve := serve_of_verified a now h hverify
  rw [ofResult_of_isFinite hfinite (hbytes body hverify).2] at hserve
  rw [handle_of_serve_ok h.endpoint hserve]
  exact ⟨rfl, rfl⟩

/-- A submission that the service fails is a server's error, unless the fault is the service's
own. -/
theorem status_handle_of_unverified {fault : Fault} (h : r.Submits a.depth address source)
    (hverify : (service.verify address source s).1 = .error fault)
    (hstatus : (Answer.ofFault now (asProcessing fault)).status = 500) :
    (a.handle service now r s).1.status = 500 := by
  rw [handle_of_serve_error h.endpoint (serve_of_unverified h hverify)]
  exact status_fail hstatus

/-- So is one that would be answered with a number that is not finite. -/
theorem status_handle_of_not_isFinite (h : r.Submits a.depth address source)
    (hverify : (service.verify address source s).1 = .ok body)
    (hfinite : ¬ (shown (stamped now body)).isFinite) :
    (a.handle service now r s).1.status = 500 := by
  have hserve := serve_of_verified a now h hverify
  rw [ofResult_of_not_isFinite hfinite] at hserve
  rw [handle_of_serve_error h.endpoint hserve]
  exact status_fail rfl

end Web.App

namespace Verifier

open Web

variable {v : Verifier} {sys : Flatten.System} {explorer : Explorer} {a : App} {now : Text}
  {r : Request} {s : Session} {address source : Text} {request : VerificationRequest}

/-- A submission with an outcome that can be passed on is answered with it. -/
theorem handle_of_success {method : VerificationMethod} {payload : Json}
    (h : r.Submits a.depth address source)
    (hrequest : v.requestFor sys s.tree address source = .ok request)
    (hbytes : HasBytes now (v.verify sys explorer address source s).1)
    (houtcome : (s.client.submit explorer request).outcome = .ok (.success method payload))
    (hfinite : (shown payload).isFinite) :
    (a.handle (v.toService sys explorer) now r s).1 =
        acceptedAnswer (v.explorer.addressUrl address) now method (shown payload) ∧
      (a.handle (v.toService sys explorer) now r s).2.1 = a := by
  have hverify : (v.verify sys explorer address source s).1 =
      .ok (v.withPage true address (VerificationOutcome.success method payload).toJson) := by
    rw [verify_of_requestFor hrequest, houtcome]
    rfl
  have hanswer := App.handle_of_verified a (v.toService sys explorer) h hverify
    (by rw [isFinite_stamped_success]; exact hfinite) hbytes
  rw [shown_stamped_success] at hanswer
  exact hanswer

theorem handle_of_failure {error details : Text} {status : Option Int}
    (h : r.Submits a.depth address source)
    (hrequest : v.requestFor sys s.tree address source = .ok request)
    (hbytes : HasBytes now (v.verify sys explorer address source s).1)
    (houtcome : (s.client.submit explorer request).outcome =
      .ok (.failure address error (.text details) [.v2, .rpc] status)) :
    (a.handle (v.toService sys explorer) now r s).1 =
        rejectedAnswer address now error details status ∧
      (a.handle (v.toService sys explorer) now r s).2.1 = a := by
  have hverify : (v.verify sys explorer address source s).1 = .ok (v.withPage false address
      (VerificationOutcome.failure address error (.text details) [.v2, .rpc] status).toJson) := by
    rw [verify_of_requestFor hrequest, houtcome]
    rfl
  have hanswer := App.handle_of_verified a (v.toService sys explorer) h hverify
    (isFinite_stamped_failure ..) hbytes
  rw [shown_stamped_failure, stamped_failure] at hanswer
  exact hanswer

/-- A submission with a payload that cannot be passed on is a server's error. -/
theorem status_of_infinite {method : VerificationMethod} {payload : Json}
    (h : r.Submits a.depth address source)
    (hrequest : v.requestFor sys s.tree address source = .ok request)
    (houtcome : (s.client.submit explorer request).outcome = .ok (.success method payload))
    (hfinite : ¬ (shown payload).isFinite) :
    (a.handle (v.toService sys explorer) now r s).1.status = 500 := by
  have hverify : (v.verify sys explorer address source s).1 =
      .ok (v.withPage true address (VerificationOutcome.success method payload).toJson) := by
    rw [verify_of_requestFor hrequest, houtcome]
    rfl
  refine App.status_handle_of_not_isFinite h hverify ?_
  rw [isFinite_stamped_success]
  exact hfinite

/-- So is one that overflows. -/
theorem status_of_overflow {nesting : Json.Nesting} (h : r.Submits a.depth address source)
    (hrequest : v.requestFor sys s.tree address source = .ok request)
    (houtcome : (s.client.submit explorer request).outcome = .error (.json (.depth nesting))) :
    (a.handle (v.toService sys explorer) now r s).1.status = 500 := by
  have hverify : (v.verify sys explorer address source s).1 = .error (.json (.depth nesting)) := by
    rw [verify_of_requestFor hrequest, houtcome]
    rfl
  exact App.status_handle_of_unverified h hverify rfl

/-- A submission with a regular explorer, whose deciding answer can be passed on. -/
theorem submissionAnswer_of_passesOn
    (hlimit : s.client.settings.HasLimit) (hexplorer : explorer.IsRegular)
    (h : r.Submits a.depth address source)
    (hbytes : HasBytes now (v.verify sys explorer address source s).1)
    (hrequest : v.requestFor sys s.tree address source = .ok request) :
    let first := s.client.verifyFlattened explorer request
    let second := first.client.verifyLegacy explorer request
    let answered := a.handle (v.toService sys explorer) now r s
    first.PassesOn → (∃ payload, first.Accepted payload) ∨ second.PassesOn →
      SubmissionAnswer first second (v.explorer.addressUrl address) address now answered.1 ∧
        answered.2.1 = a := by
  intro first second answered hfirst hdecides
  have hregular : first.IsRegular := Client.isRegular_send hlimit hexplorer _
  by_cases haccepted : ∃ payload, first.Accepted payload
  · obtain ⟨payload, haccepted⟩ := haccepted
    have houtcome := congrArg Submission.outcome (Client.submit_of_accepted haccepted)
    obtain ⟨hanswer, hsame⟩ := handle_of_success (a := a) h hrequest hbytes houtcome
      (hfirst.finite payload haccepted)
    exact ⟨hanswer ▸ .accepted haccepted, hsame⟩
  · have hnot : ∀ payload, ¬ first.Accepted payload := fun payload h => haccepted ⟨payload, h⟩
    have hsecond : second.PassesOn := hdecides.resolve_left haccepted
    have hsubmit := congrArg Submission.outcome
      (Client.submit_of_not_accepted hregular hnot hfirst.reads)
    obtain ⟨hrpc, hrefused, hfailed⟩ := Client.outcome_cases
      (Client.isRegular_verifyLegacy (r := request) hlimit hexplorer) request.address
    have hsame : request.address = address := address_of_requestFor hrequest
    rw [hsame] at hsubmit hrefused hfailed hrpc
    by_cases haccepts : ∃ payload, second.Accepted payload
    · obtain ⟨payload, haccepts⟩ := haccepts
      obtain ⟨hanswer, happ⟩ := handle_of_success (a := a) h hrequest hbytes
        (hsubmit.trans (hrpc payload haccepts)) (hsecond.finite payload haccepts)
      exact ⟨hanswer ▸ .acceptedAgain hnot haccepts, happ⟩
    · by_cases hrefuses : ∃ status details, second.Refused status details
      · obtain ⟨status, details, hrefuses⟩ := hrefuses
        obtain ⟨hanswer, happ⟩ := handle_of_failure (a := a) h hrequest hbytes
          (hsubmit.trans (hrefused status details hrefuses))
        exact ⟨hanswer ▸ .refused hnot hrefuses, happ⟩
      · have haccepts' : ∀ payload, ¬ second.Accepted payload := fun p h => haccepts ⟨p, h⟩
        have hrefuses' : ∀ status details, ¬ second.Refused status details :=
          fun status details h => hrefuses ⟨status, details, h⟩
        obtain ⟨details, hdetails, houtcome⟩ := hfailed haccepts' hrefuses' hsecond.reads
        obtain ⟨hanswer, happ⟩ := handle_of_failure (a := a) h hrequest hbytes
          (hsubmit.trans houtcome)
        exact ⟨hanswer ▸ .failed hnot haccepts' hrefuses' hdetails, happ⟩

/-- A submission whose deciding answer cannot be passed on is a server's error. -/
theorem status_of_not_passesOn
    (hlimit : s.client.settings.HasLimit) (hexplorer : explorer.IsRegular)
    (h : r.Submits a.depth address source)
    (hrequest : v.requestFor sys s.tree address source = .ok request) :
    let first := s.client.verifyFlattened explorer request
    let second := first.client.verifyLegacy explorer request
    ¬ (first.PassesOn ∧ ((∃ payload, first.Accepted payload) ∨ second.PassesOn)) →
      (a.handle (v.toService sys explorer) now r s).1.status = 500 := by
  intro first second hnot
  have hregular : first.IsRegular := Client.isRegular_send hlimit hexplorer _
  by_cases haccepted : ∃ payload, first.Accepted payload
  · obtain ⟨payload, haccepted⟩ := haccepted
    have houtcome := congrArg Submission.outcome (Client.submit_of_accepted haccepted)
    exact status_of_infinite h hrequest houtcome fun hfinite =>
      hnot ⟨haccepted.passesOn hfinite, .inl ⟨_, haccepted⟩⟩
  · have hnone : ∀ payload, ¬ first.Accepted payload := fun payload h => haccepted ⟨payload, h⟩
    by_cases hoverflows : first.Overflows
    · obtain ⟨nesting, hsubmit⟩ := Client.submit_of_overflows hoverflows
      exact status_of_overflow h hrequest (congrArg Submission.outcome hsubmit)
    · -- the first answer passes on, so the second one decides and does not
      have hfirst : first.PassesOn := ⟨hoverflows, fun payload h => absurd h (hnone payload)⟩
      have hsecond : ¬ second.PassesOn := fun h => hnot ⟨hfirst, .inr h⟩
      have hsubmit := congrArg Submission.outcome
        (Client.submit_of_not_accepted hregular hnone hoverflows)
      have hregularSecond := Client.isRegular_verifyLegacy (r := request) hlimit hexplorer
      by_cases hoverflowsSecond : second.Overflows
      · obtain ⟨nesting, houtcome⟩ :=
          Client.outcome_of_overflows hoverflowsSecond request.address
        exact status_of_overflow h hrequest (hsubmit.trans houtcome)
      · by_cases haccepts : ∃ payload, second.Accepted payload
        · obtain ⟨payload, haccepts⟩ := haccepts
          obtain ⟨hrpc, -, -⟩ := Client.outcome_cases hregularSecond request.address
          exact status_of_infinite h hrequest (hsubmit.trans (hrpc payload haccepts))
            fun hfinite => hsecond (haccepts.passesOn hfinite)
        · exact absurd ⟨hoverflowsSecond, fun payload h => absurd ⟨payload, h⟩ haccepts⟩ hsecond

end Verifier

/-! ## Answers about a contract -/

namespace Web.App

variable {σ : Type} {a : App} {service : Service σ} {now : Text} {r : Request} {s : σ}
  {address : Text} {body : Json}

/-- What is told goes out with status 200, and why nothing can be told with status 500. -/
theorem serve_of_told (service : Service σ) (h : r.AsksAbout address)
    (hstatus : (service.status address s).1 = .ok body) :
    a.serve service now .status r s =
      (if ((body.member? "success").map Json.isGiven).getD false then
        Answer.ofResult (stamped now body) else Answer.ofJson 500 (stamped now body),
        (service.status address s).2) := by
  have heq : service.status address s = (.ok body, (service.status address s).2) :=
    Prod.ext hstatus rfl
  rw [serve, status, h.read]
  simp only
  rw [heq]
  rfl

theorem serve_of_untold (a : App) (service : Service σ) (now : Text) {fault : Fault}
    (h : r.AsksAbout address)
    (hstatus : (service.status address s).1 = .error fault) :
    a.serve service now .status r s = (.error fault, (service.status address s).2) := by
  have heq : service.status address s = (.error fault, (service.status address s).2) :=
    Prod.ext hstatus rfl
  rw [serve, status, h.read]
  simp only
  rw [heq]

end Web.App

namespace Verifier

open Web

variable {v : Verifier} {sys : Flatten.System} {explorer : Explorer} {a : App} {now : Text}
  {r : Request} {s : Session} {address : Text}

theorem status_eq (v : Verifier) (explorer : Explorer) (address : Text) (s : Session) :
    (v.status explorer address s).1 =
      (VerificationStatus.ofAttempt
        (s.client.getContract explorer address).attempt).map
          (statusBody v address) := rfl

/-- What is made of a status: it is told, or it says why it cannot be. -/
theorem serve_of_status (v : Verifier) (sys : Flatten.System) (a : App) (now : Text)
    {status : VerificationStatus} (h : r.AsksAbout address)
    (hstatus : VerificationStatus.ofAttempt
      (s.client.getContract explorer address).attempt = .ok status) :
    a.serve (v.toService sys explorer) now .status r s =
      (if status.isSuccess then Answer.ofResult (stamped now (statusBody v address status))
        else Answer.ofJson 500 (stamped now (statusBody v address status)),
        (v.status explorer address s).2) := by
  have hbody : (v.status explorer address s).1 = .ok (statusBody v address status) := by
    rw [status_eq, hstatus]
    rfl
  rw [App.serve_of_told (v.toService sys explorer) h hbody, isGiven_success]
  rfl

/-- A status that is known and finite is told. -/
theorem handle_of_known (sys : Flatten.System) (a : App) {isVerified : Bool} {status : Json}
    {message : Option Text} (h : r.AsksAbout address) (hbytes : HasBytes now (v.status explorer address s).1)
    (hstatus : VerificationStatus.ofAttempt
      (s.client.getContract explorer address).attempt =
        .ok (.known isVerified status message))
    (hmessage : message ≠ some []) (hfinite : (shown status).isFinite) :
    (a.handle (v.toService sys explorer) now r s).1 =
        knownAnswer (v.explorer.addressUrl address) address now isVerified (shown status) message ∧
      (a.handle (v.toService sys explorer) now r s).2.1 = a := by
  have hbody : (v.status explorer address s).1 =
      .ok (statusBody v address (.known isVerified status message)) := by
    rw [status_eq, hstatus]
    rfl
  have hfiniteBody :
      (shown (stamped now (statusBody v address (.known isVerified status message)))).isFinite := by
    rw [shown_stamped_known _ _ _ _ _ _ hmessage, Json.isFinite_ofMembers]
    cases message <;> simp [Json.isFinite, hfinite]
  have hserve := serve_of_status v sys a now h hstatus
  rw [if_pos (by simp [VerificationStatus.isSuccess]),
    ofResult_of_isFinite hfiniteBody (hbytes _ hbody).2, shown_stamped_known _ _ _ _ _ _ hmessage] at hserve
  rw [App.handle_of_serve_ok h.endpoint hserve]
  exact ⟨rfl, rfl⟩

/-- A status that cannot be told is answered with the reason. -/
theorem handle_of_unknown (sys : Flatten.System) (a : App) {details : Text}
    (h : r.AsksAbout address)
    (hbytes : HasBytes now (v.status explorer address s).1)
    (hstatus : VerificationStatus.ofAttempt
      (s.client.getContract explorer address).attempt =
        .ok (.unknown (.string "Failed to check verification status") (.text details))) :
    (a.handle (v.toService sys explorer) now r s).1 = unknownAnswer address now details ∧
      (a.handle (v.toService sys explorer) now r s).2.1 = a := by
  have hbody : (v.status explorer address s).1 = .ok (statusBody v address
      (.unknown (.string "Failed to check verification status") (.text details))) := by
    rw [status_eq, hstatus]
    rfl
  have hfinite : (stamped now (statusBody v address
      (.unknown (.string "Failed to check verification status") (.text details)))).isFinite := by
    rw [stamped_unknown, Json.isFinite_ofMembers]
    rfl
  have hserve := serve_of_status v sys a now h hstatus
  rw [if_neg (by simp [VerificationStatus.isSuccess]), Answer.ofJson,
    Json.checkWritable_of_isFinite hfinite (hbytes _ hbody).1, stamped_unknown] at hserve
  rw [App.handle_of_serve_ok h.endpoint hserve]
  exact ⟨rfl, rfl⟩

/-- A status that is not finite ends in a fault that nobody expected. -/
theorem escaped_of_infinite {isVerified : Bool} {status : Json} (h : r.AsksAbout address)
    (hstatus : VerificationStatus.ofAttempt
      (s.client.getContract explorer address).attempt =
        .ok (.known isVerified status none))
    (hfinite : ¬ (shown status).isFinite) :
    (a.handle (v.toService sys explorer) now r s).1.escaped = some .notFinite := by
  have hfiniteBody :
      ¬ (shown (stamped now (statusBody v address (.known isVerified status none)))).isFinite := by
    rw [shown_stamped_known _ _ _ _ _ _ (by simp), Json.isFinite_ofMembers]
    simp [hfinite]
  have hserve := serve_of_status v sys a now h hstatus
  rw [if_pos (by simp [VerificationStatus.isSuccess]), ofResult_of_not_isFinite hfiniteBody]
    at hserve
  rw [App.handle_of_serve_error h.endpoint hserve]
  exact App.escaped_fail ⟨rfl, rfl⟩

/-- So does an answer of the explorer that overflows. -/
theorem escaped_of_overflow {nesting : Json.Nesting} (h : r.AsksAbout address)
    (hstatus : VerificationStatus.ofAttempt
      (s.client.getContract explorer address).attempt =
        .error (.json (.depth nesting))) :
    (a.handle (v.toService sys explorer) now r s).1.escaped = some (.json (.depth nesting)) := by
  have hbody : (v.status explorer address s).1 = .error (.json (.depth nesting)) := by
    rw [status_eq, hstatus]
    rfl
  have hserve := App.serve_of_untold a (v.toService sys explorer) now h hbody
  rw [App.handle_of_serve_error h.endpoint hserve]
  exact App.escaped_fail ⟨rfl, rfl⟩

/-- The answer to a question, if the explorer's answer tells a status. -/
theorem statusAnswer_of_tellsStatus (sys : Flatten.System) (a : App)
    (hlimit : s.client.settings.HasLimit)
    (hexplorer : explorer.IsForeseen) (h : r.AsksAbout address)
    (hbytes : HasBytes now (v.status explorer address s).1) :
    let call := s.client.getContract explorer address
    let answered := a.handle (v.toService sys explorer) now r s
    call.TellsStatus →
      StatusAnswer call (v.explorer.addressUrl address) address now answered.1 ∧
        answered.2.1 = a := by
  intro call answered htells
  rcases call.accepted_or_declines_or_fails with
    ⟨body, haccepted⟩ | ⟨code, hdeclines⟩ | hfails
  · obtain ⟨isVerified, status, hbody, hfinite⟩ := VerificationStatus.exists_ofBody body
    have hstatus := VerificationStatus.ofAttempt_of_accepted haccepted
    rw [hbody] at hstatus
    obtain ⟨hanswer, happ⟩ := handle_of_known sys a h hbytes hstatus (by simp)
      (hfinite.mpr fun value hvalue => htells.finite body value haccepted hvalue)
    exact ⟨hanswer ▸ .known haccepted hbody, happ⟩
  · have hstatus := VerificationStatus.ofAttempt_of_declines hdeclines
    obtain ⟨hanswer, happ⟩ := handle_of_known sys a h hbytes hstatus (by simp) rfl
    exact ⟨hanswer ▸ .notFound hdeclines, happ⟩
  · obtain ⟨details, hdetails, hstatus⟩ := VerificationStatus.ofAttempt_of_fails
      (fun _ hfault => Client.isExpected_of_send hlimit hexplorer hfault) hfails htells.reads
    obtain ⟨hanswer, happ⟩ := handle_of_unknown sys a h hbytes hstatus
    exact ⟨hanswer ▸ .unknown hfails hdetails, happ⟩

/-- A status that cannot be told ends in a fault that nobody expected. -/
theorem escaped_of_not_tellsStatus (sys : Flatten.System) (a : App) (now : Text)
    (h : r.AsksAbout address) (hnot : ¬ (s.client.getContract explorer address).TellsStatus) :
    ∃ fault, (a.handle (v.toService sys explorer) now r s).1.escaped = some fault := by
  by_cases hoverflows : (s.client.getContract explorer address).Overflows
  · obtain ⟨nesting, hstatus⟩ := VerificationStatus.ofAttempt_of_overflows hoverflows
    exact ⟨_, escaped_of_overflow h hstatus⟩
  · have hinfinite : ∃ body value, (s.client.getContract explorer address).Accepted body ∧
        body.member? "verification_status" = some value ∧ ¬ (shown value).isFinite := by
      by_contra hfinite
      refine hnot ⟨hoverflows, fun body value haccepted hvalue => ?_⟩
      by_contra hinfinite
      exact hfinite ⟨body, value, haccepted, hvalue, hinfinite⟩
    obtain ⟨body, value, haccepted, hvalue, hinfinite⟩ := hinfinite
    obtain ⟨isVerified, status, hbody, hfinite⟩ := VerificationStatus.exists_ofBody body
    have hstatus := VerificationStatus.ofAttempt_of_accepted haccepted
    rw [hbody] at hstatus
    exact ⟨_, escaped_of_infinite h hstatus fun h => hinfinite (hfinite.mp h value hvalue)⟩

end Verifier

/-! ## All valid requests -/

namespace Verifier

open Web

/-- **A valid request has a structured answer**, as long as the explorer's answers can be read and
passed on. A question for a status is answered with one of the shapes of `StatusAnswer` if and only
if it tells a status, with any foreseen explorer; and a submission with one of those of
`SubmissionAnswer` if and only if the answer that decides it can be passed on, with any regular
explorer and any backend that gives texts. In these cases no fault is tracked. The answer about a
contract is then a server's error exactly if the call failed or a success had a body that is no
JSON. -/
theorem handle_structured (v : Verifier) (sys : Flatten.System) (explorer : Explorer) (a : App)
    (now : Text) (s : Session) (hlimit : s.client.settings.HasLimit)
    (hexplorer : explorer.IsForeseen) :
    (explorer.IsRegular → v.flattener.backend.GivesTexts sys.run →
      ∀ r address source, r.Submits a.depth address source →
      HasBytes now (v.verify sys explorer address source s).1 →
      ∃ request, v.requestFor sys s.tree address source = .ok request ∧
        let first := s.client.verifyFlattened explorer request
        let second := first.client.verifyLegacy explorer request
        let answered := a.handle (v.toService sys explorer) now r s
        (SubmissionAnswer first second (v.explorer.addressUrl address) address now answered.1 ∧
            answered.2.1 = a ↔
          first.PassesOn ∧ ((∃ payload, first.Accepted payload) ∨ second.PassesOn))) ∧
    (∀ r address, r.AsksAbout address → HasBytes now (v.status explorer address s).1 →
      let call := s.client.getContract explorer address
      let answered := a.handle (v.toService sys explorer) now r s
      (StatusAnswer call (v.explorer.addressUrl address) address now answered.1 ∧
          answered.2.1 = a ↔ call.TellsStatus) ∧
      (call.TellsStatus → (answered.1.status = 500 ↔ call.Fails))) := by
  constructor
  · intro hregular hbackend r address source h hbytes
    obtain ⟨request, hrequest⟩ := exists_requestFor hbackend s.tree address source
    refine ⟨request, hrequest, ?_⟩
    intro first second answered
    constructor
    · rintro ⟨hanswer, -⟩
      by_contra hnot
      have hstatus := hanswer.status
      rw [status_of_not_passesOn hlimit hregular h hrequest hnot] at hstatus
      cases hstatus
    · rintro ⟨hfirst, hdecides⟩
      exact submissionAnswer_of_passesOn hlimit hregular h hbytes hrequest hfirst hdecides
  · intro r address h hbytes call answered
    have htold := statusAnswer_of_tellsStatus sys a hlimit hexplorer h hbytes
    refine ⟨⟨?_, htold⟩, fun htells => (htold htells).1.status_eq_iff⟩
    rintro ⟨hanswer, -⟩
    by_contra hnot
    obtain ⟨fault, hescaped⟩ := escaped_of_not_tellsStatus sys a now h hnot
    rw [hanswer.escaped] at hescaped
    cases hescaped

/-- A verifier of an explorer nearby. -/
def nearby : Verifier where
  compiler := {}
  explorer := Client.nearby.settings
  flattener := ⟨.importGraph, ⟨[], [], []⟩, [['l']], none⟩

/-- A system without commands and without scratch directories. -/
def bare : Flatten.System := ⟨fun _ => .error .namesTaken, ⟨.ofText "/t".toList, []⟩⟩

/-- An interface that has seen no errors. -/
def plain : App := { config := {}, registry := ⟨[], [], []⟩ }

/-- A submission of a small contract. -/
def submitting : Request where
  method := "POST".toList
  path := contractPath.toList
  query := []
  body := Utf8.encode
    "\x7b\"contractAddress\":\"0xa\",\"sourceCode\":\"contract M\"\x7d".toList

/-- A question about a contract. -/
def asking : Request where
  method := "GET".toList
  path := contractPath.toList
  query := Utf8.encode "address=0xa".toList
  body := []

/-- The names and the texts of an object that has no other members. -/
def textsOf? : Json → Option (List (Text × Text))
  | .object members => members.mapM fun
    | (name, .text t) => some (name, t)
    | _ => none
  | _ => none

theorem eq_ofTexts_of_textsOf? {v : Json} {texts : List (Text × Text)}
    (h : textsOf? v = some texts) : v = .object (texts.map fun m => (m.1, .text m.2)) := by
  cases v with
  | object members =>
      refine congrArg Json.object ?_
      rw [textsOf?] at h
      induction members generalizing texts with
      | nil =>
          cases h
          rfl
      | cons m rest ih =>
          obtain ⟨name, v⟩ := m
          rw [List.mapM_cons] at h
          cases v with
          | text t =>
              obtain ⟨_, ⟨⟩, h⟩ := Option.bind_eq_some_iff.mp h
              obtain ⟨others, hothers, ⟨⟩⟩ := Option.bind_eq_some_iff.mp h
              rw [ih hothers]
              rfl
          | _ => cases h
  | _ => cases h

/-- Bytes of an object of texts are read as that object. -/
theorem readBytes_of_textsOf? (bytes : List UInt8) (texts : List (Text × Text))
    (depth : Nat) (h : (Json.readBytes bytes depth).toOption.bind textsOf? = some texts) :
    Json.readBytes bytes depth = .ok (.object (texts.map fun m => (m.1, .text m.2))) := by
  obtain ⟨v, hread, hv⟩ := Option.bind_eq_some_iff.mp h
  rw [← eq_ofTexts_of_textsOf? hv]
  exact eq_ok_of_toOption hread

theorem submits_submitting :
    submitting.Submits plain.depth "0xa".toList "contract M".toList := by
  have hread := readBytes_of_textsOf? submitting.body [("contractAddress".toList, "0xa".toList),
    ("sourceCode".toList, "contract M".toList)] plain.depth (by decide +kernel)
  exact ⟨rfl, rfl, by decide, by decide, _, hread, rfl, rfl⟩

theorem asksAbout_asking : asking.AsksAbout "0xa".toList :=
  ⟨rfl, rfl, by decide, by decide +kernel⟩

/-- A list that the explorer accepts a submission with is passed on, and so is its word that it
does not know the contract. -/
theorem handle_structured_accepted :
    let explorer := Explorer.answering ⟨200, [], Utf8.encode "[1]".toList⟩ ⟨404, [], []⟩
    let service := nearby.toService bare explorer
    let s := nearby.newSession ⟨[]⟩
    let submission := nearby.verify bare explorer "0xa".toList "contract M".toList s
    let reading := nearby.status explorer "0xa".toList s
    (s.client.settings.HasLimit ∧ explorer.IsForeseen ∧ explorer.IsRegular ∧
        nearby.flattener.backend.GivesTexts bare.run) ∧
      (submitting.Submits plain.depth "0xa".toList "contract M".toList ∧
        HasBytes ['t'] submission.1 ∧
        (plain.handle service ['t'] submitting s).1.status = 200 ∧
        (plain.handle service ['t'] submitting s).2.1 = plain) ∧
      (asking.AsksAbout "0xa".toList ∧ HasBytes ['t'] reading.1 ∧
        (plain.handle service ['t'] asking s).1.status ≠ 500 ∧
        (plain.handle service ['t'] asking s).2.1 = plain) := by
  intro explorer service s submission reading
  have hlimit : s.client.settings.HasLimit := ⟨true, rfl⟩
  have hregular : explorer.IsRegular := Explorer.isRegular_answering rfl rfl
  have hbackend : nearby.flattener.backend.GivesTexts bare.run :=
    Flatten.Backend.givesTexts_importGraph _ _
  have hsubmission : HasBytes ['t'] submission.1 := by decide +kernel
  have hreading : HasBytes ['t'] reading.1 := by decide +kernel
  obtain ⟨hsubmits, hasks⟩ :=
    handle_structured nearby bare explorer plain ['t'] s hlimit hregular.isForeseen
  obtain ⟨request, hrequest, hsubmits⟩ :=
    hsubmits hregular hbackend submitting _ _ submits_submitting hsubmission
  obtain ⟨hasks, hstatus⟩ := hasks asking _ asksAbout_asking hreading
  refine ⟨⟨hlimit, hregular.isForeseen, hregular, hbackend⟩, ⟨submits_submitting, hsubmission, ?_⟩,
    asksAbout_asking, hreading, ?_⟩
  · have hsent : (nearby.requestFor bare s.tree "0xa".toList "contract M".toList).toOption.all
        fun request => (s.client.verifyFlattened explorer request).result.toOption =
          some ⟨200, [], Utf8.encode "[1]".toList⟩ := by decide +kernel
    rw [hrequest] at hsent
    have hdepth : (s.client.verifyFlattened explorer request).client.depth = Json.usualDepth := by
      rw [Client.verifyFlattened, Client.depth_send]
      rfl
    have hfinite : (ExplorerResponse.json ⟨200, [], Utf8.encode "[1]".toList⟩
        Json.usualDepth).toOption.any fun payload => (shown payload).isFinite := by decide +kernel
    obtain ⟨payload, hread, hfinite⟩ := (Option.any_eq_true ..).mp hfinite
    have haccepted : (s.client.verifyFlattened explorer request).Accepted payload :=
      ⟨_, eq_ok_of_toOption (of_decide_eq_true hsent), rfl, hdepth ▸ eq_ok_of_toOption hread⟩
    obtain ⟨hanswer, hsame⟩ := hsubmits.mpr ⟨haccepted.passesOn hfinite, .inl ⟨_, haccepted⟩⟩
    exact ⟨hanswer.status, hsame⟩
  · have hdeclines : (s.client.getContract explorer "0xa".toList).Declines 404 :=
      ⟨⟨404, [], []⟩, eq_ok_of_toOption (by decide +kernel), by decide, rfl⟩
    have htells : (s.client.getContract explorer "0xa".toList).TellsStatus :=
      ⟨hdeclines.not_overflows, fun body _ h => absurd h (hdeclines.not_accepted body)⟩
    obtain ⟨-, hsame⟩ := hasks.mpr htells
    exact ⟨fun h => hdeclines.not_fails ((hstatus htells).mp h), hsame⟩

/-- A number that is not finite is read but cannot be passed on: the answers are server's errors,
and the second is one that nobody expected. -/
theorem handle_not_structured :
    let answers (body : List UInt8) (r : Request) :=
      plain.handle (nearby.toService bare (Explorer.answering ⟨200, [], body⟩ ⟨200, [], body⟩))
        ['t'] r (nearby.newSession ⟨[]⟩)
    let status := "\x7b\"verification_status\":NaN\x7d".toList
    (submitting.Submits plain.depth "0xa".toList "contract M".toList ∧
        (answers (Utf8.encode "NaN".toList) submitting).1.status = 500) ∧
      asking.AsksAbout "0xa".toList ∧ (answers (Utf8.encode status) asking).1.escaped.isSome := by
  intro answers status
  refine ⟨⟨submits_submitting, ?_⟩, asksAbout_asking, ?_⟩
  · decide +kernel
  · decide +kernel

end Verifier

end ContractVerifier
