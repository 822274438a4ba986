import ContractVerifier.Explorer.Status
import ContractVerifier.Proofs.Explorer.Protocol
import ContractVerifier.Proofs.Json.Members

set_option autoImplicit false

/-! # What a status says

A status is read by one call. `VerificationStatus.Reports` says how the two belong together: the
status is unknown if the call **fails**, a refusal tells that the contract was not found, and a
contract is verified only if the explorer **confirms** it.

A status is read from every foreseen explorer, unless its answer overflows
(`Client.readStatus_reports`).
-/

namespace ContractVerifier

namespace ClientCall

/-- The call came to no answer, or to a success whose body is no JSON. -/
def Fails (call : ClientCall) : Prop :=
  (∃ fault, call.result = .error fault) ∨
    ∃ r fault, call.result = .ok r ∧ r.isSuccess ∧ r.json call.client.depth = .error fault

/-- The explorer answered with this status, which is no success. -/
def Declines (call : ClientCall) (status : Int) : Prop :=
  ∃ r, call.result = .ok r ∧ ¬ r.isSuccess ∧ r.status = status

variable {call : ClientCall} {r : ExplorerResponse}

theorem not_fails_of_ok (h : call.result = .ok r)
    (hread : r.isSuccess → ∃ body, r.json call.client.depth = .ok body) : ¬ call.Fails := by
  rintro (⟨fault, hfault⟩ | ⟨r', fault, hr', hsuccess, hjson⟩)
  · cases h.symm.trans hfault
  · cases h.symm.trans hr'
    obtain ⟨body, hbody⟩ := hread hsuccess
    cases hbody.symm.trans hjson

theorem not_overflows_of_refused (h : call.result = .ok r) (hrefused : ¬ r.isSuccess) :
    ¬ call.Overflows := by
  rintro ⟨r', nesting, hr', hsuccess, -⟩
  cases h.symm.trans hr'
  exact hrefused hsuccess

theorem Accepted.not_fails {body : Json} (h : call.Accepted body) : ¬ call.Fails := by
  obtain ⟨r, hr, -, hjson⟩ := h
  exact not_fails_of_ok hr fun _ => ⟨body, hjson⟩

theorem Declines.not_fails {status : Int} (h : call.Declines status) : ¬ call.Fails := by
  obtain ⟨r, hr, hrefused, -⟩ := h
  exact not_fails_of_ok hr fun hsuccess => absurd hsuccess hrefused

theorem Declines.not_overflows {status : Int} (h : call.Declines status) : ¬ call.Overflows := by
  obtain ⟨r, hr, hrefused, -⟩ := h
  exact not_overflows_of_refused hr hrefused

theorem Declines.not_accepted {status : Int} (h : call.Declines status) (body : Json) :
    ¬ call.Accepted body := by
  rintro ⟨r', hr', hsuccess, -⟩
  obtain ⟨r, hr, hrefused, -⟩ := h
  cases hr.symm.trans hr'
  exact hrefused hsuccess

/-- A call is accepted or declined, or it fails. -/
theorem accepted_or_declines_or_fails (call : ClientCall) :
    (∃ body, call.Accepted body) ∨ (∃ status, call.Declines status) ∨ call.Fails := by
  cases hresult : call.result with
  | error fault => exact .inr (.inr (.inl ⟨fault, hresult⟩))
  | ok r =>
      by_cases hsuccess : r.isSuccess
      · rcases json_cases r call.client.depth with ⟨body, hjson⟩ | ⟨e, hjson⟩
        · exact .inl ⟨body, r, hresult, hsuccess, hjson⟩
        · exact .inr (.inr (.inr ⟨r, _, hresult, hsuccess, hjson⟩))
      · exact .inr (.inl ⟨r.status, r, hresult, hsuccess, rfl⟩)

/-- A success whose body is no JSON overflows unless the fault is expected. -/
theorem overflows_iff_of_unread {e : Json.ReadError} (h : call.result = .ok r)
    (hsuccess : r.isSuccess) (hjson : r.json call.client.depth = .error (.json e)) :
    call.Overflows ↔ ¬ (Fault.json e).isExpected := by
  rw [Fault.isExpected_json]
  constructor
  · rintro ⟨r', nesting, hr', -, hdepth⟩ hno
    cases h.symm.trans hr'
    cases hjson.symm.trans hdepth
    exact hno nesting rfl
  · intro hdepth
    by_contra hno
    exact hdepth fun nesting he => hno ⟨r, nesting, h, hsuccess, he ▸ hjson⟩

end ClientCall

/-- A body that confirms a contract: an object in which `is_verified` counts as given. -/
def Json.Confirms (body : Json) : Prop :=
  ∃ members v, body = .object members ∧ body.member? "is_verified" = some v ∧ v.isGiven

namespace VerificationStatus

/-- Whether the contract is known to be verified. -/
def isVerified : VerificationStatus → Bool
  | known isVerified .. => isVerified
  | unknown .. => false

theorem isVerified_ofBody (body : Json) : (ofBody body).isVerified ↔ body.Confirms := by
  have hmember : (ofBody body).isVerified ↔
      ∃ v, body.member? "is_verified" = some v ∧ v.isGiven := by
    show ((body.member? "is_verified").map Json.isGiven).getD false ↔ _
    cases body.member? "is_verified" <;> simp
  rw [hmember]
  constructor
  · rintro ⟨v, hv, hgiven⟩
    cases body with
    | object members => exact ⟨members, v, rfl, hv, hgiven⟩
    | _ => cases hv
  · rintro ⟨members, v, -, hv, hgiven⟩
    exact ⟨v, hv, hgiven⟩

/-- What a status says of the call that it was read by. -/
structure Reports (status : VerificationStatus) (call : ClientCall) : Prop where
  isSuccess : status.isSuccess = false ↔ call.Fails
  details : status.isSuccess = false → ∃ details, details ≠ [] ∧
    status = .unknown (.string "Failed to check verification status") (.text details)
  refused : ∀ r, call.result = .ok r → r.isSuccess = false → status = .notFound r.status
  isVerified : status.isVerified ↔ ∃ body, call.Accepted body ∧ body.Confirms

variable {call : ClientCall}

theorem reports_ofFault {fault : Fault} (hexpected : fault.isExpected) (hfails : call.Fails)
    (hrefused : ∀ r, call.result = .ok r → r.isSuccess) : (ofFault fault).Reports call where
  isSuccess := iff_of_true rfl hfails
  details _ := ⟨_, Fault.describe_ne_nil_of_named (Fault.isNamed_of_isExpected hexpected), rfl⟩
  refused r hr h := by
    rw [hrefused r hr] at h
    cases h
  isVerified := by
    refine iff_of_false (by simp [ofFault, VerificationStatus.isVerified]) ?_
    rintro ⟨body, haccepted, -⟩
    exact haccepted.not_fails hfails

theorem reports_ofBody {body : Json} (h : call.Accepted body) : (ofBody body).Reports call where
  isSuccess := iff_of_false nofun h.not_fails
  details := nofun
  refused r hr hrefused := by
    obtain ⟨r', hr', hsuccess, -⟩ := h
    cases hr.symm.trans hr'
    rw [hsuccess] at hrefused
    cases hrefused
  isVerified := by
    rw [isVerified_ofBody]
    refine ⟨fun hconfirms => ⟨body, h, hconfirms⟩, ?_⟩
    rintro ⟨body', h', hconfirms⟩
    rwa [h.unique h']

theorem reports_notFound {r : ExplorerResponse} (h : call.result = .ok r)
    (hrefused : ¬ r.isSuccess) : (notFound r.status).Reports call where
  isSuccess := iff_of_false nofun (ClientCall.Declines.not_fails ⟨r, h, hrefused, rfl⟩)
  details := nofun
  refused r' hr' _ := by
    cases h.symm.trans hr'
    rfl
  isVerified := by
    refine iff_of_false nofun ?_
    rintro ⟨body, haccepted, -⟩
    exact ClientCall.Declines.not_accepted ⟨r, h, hrefused, rfl⟩ body haccepted

/-- A fault that is expected becomes a status, and it is the only kind that does. -/
theorem ofAttempt_failed {fault : Fault} {status : VerificationStatus} :
    ofAttempt (.failed fault) = .ok status ↔ fault.isExpected ∧ status = ofFault fault := by
  rw [ofAttempt]
  split
  · rename_i hexpected
    exact ⟨fun h => ⟨hexpected, (Except.ok.inj h).symm⟩, fun h => by rw [h.2]⟩
  · rename_i hforeign
    exact ⟨nofun, fun h => absurd h.1 hforeign⟩

/-- What a call with expected faults comes to. -/
theorem ofAttempt_ofResult (call : ClientCall)
    (hexpected : ∀ fault, call.result = .error fault → fault.isExpected) :
    ((∃ status, ofAttempt call.attempt = .ok status) ↔ ¬ call.Overflows) ∧
      ∀ status, ofAttempt call.attempt = .ok status → status.Reports call := by
  unfold ClientCall.attempt
  cases hresult : call.result with
  | error fault =>
      have hnot : ¬ call.Overflows := by
        rintro ⟨r, nesting, hr, -⟩
        cases hresult.symm.trans hr
      have hanswer : ∀ r, call.result = .ok r → r.isSuccess := by
        intro r hr
        cases hresult.symm.trans hr
      refine ⟨iff_of_true ⟨_, ofAttempt_failed.mpr ⟨hexpected fault hresult, rfl⟩⟩ hnot, ?_⟩
      rintro status hstatus
      obtain ⟨hfault, rfl⟩ := ofAttempt_failed.mp hstatus
      exact reports_ofFault hfault (.inl ⟨fault, hresult⟩) hanswer
  | ok r =>
      simp only
      by_cases hsuccess : r.isSuccess
      · rw [if_pos hsuccess]
        rcases ClientCall.json_cases r call.client.depth with ⟨body, hjson⟩ | ⟨e, hjson⟩
        · have haccepted : call.Accepted body := ⟨r, hresult, hsuccess, hjson⟩
          rw [hjson]
          refine ⟨iff_of_true ⟨_, rfl⟩ haccepted.not_overflows, ?_⟩
          rintro _ ⟨⟩
          exact reports_ofBody haccepted
        · have hanswer : ∀ r', call.result = .ok r' → r'.isSuccess := by
            intro r' hr'
            cases hresult.symm.trans hr'
            exact hsuccess
          rw [hjson, ClientCall.overflows_iff_of_unread hresult hsuccess hjson, not_not]
          refine ⟨⟨?_, fun h => ⟨_, ofAttempt_failed.mpr ⟨h, rfl⟩⟩⟩, ?_⟩
          · rintro ⟨status, hstatus⟩
            exact (ofAttempt_failed.mp hstatus).1
          · intro status hstatus
            obtain ⟨hfault, rfl⟩ := ofAttempt_failed.mp hstatus
            exact reports_ofFault hfault (.inr ⟨r, _, hresult, hsuccess, hjson⟩) hanswer
      · rw [if_neg hsuccess]
        refine ⟨iff_of_true ⟨_, rfl⟩ (ClientCall.not_overflows_of_refused hresult hsuccess), ?_⟩
        rintro _ ⟨⟩
        exact reports_notFound hresult hsuccess

theorem ofAttempt_of_accepted {body : Json} (h : call.Accepted body) :
    ofAttempt call.attempt = .ok (ofBody body) := by
  obtain ⟨r, hresult, hsuccess, hjson⟩ := h
  simp only [ClientCall.attempt, hresult, if_pos hsuccess, hjson, ofAttempt]

theorem ofAttempt_of_declines {status : Int} (h : call.Declines status) :
    ofAttempt call.attempt = .ok (notFound status) := by
  obtain ⟨r, hresult, hrefused, rfl⟩ := h
  simp only [ClientCall.attempt, hresult, if_neg hrefused, ofAttempt]

/-- A call that fails tells why, unless it overflows. -/
theorem ofAttempt_of_fails (hexpected : ∀ fault, call.result = .error fault → fault.isExpected)
    (h : call.Fails) (hreads : ¬ call.Overflows) :
    ∃ details, details ≠ [] ∧ ofAttempt call.attempt =
      .ok (.unknown (.string "Failed to check verification status") (.text details)) := by
  -- there is a status, and one that reports a failure can only be unknown
  obtain ⟨htotal, hreports⟩ := ofAttempt_ofResult call hexpected
  obtain ⟨status, hstatus⟩ := htotal.mpr hreads
  have htold := hreports status hstatus
  obtain ⟨details, hdetails, rfl⟩ := htold.details (htold.isSuccess.mpr h)
  exact ⟨details, hdetails, hstatus⟩

theorem ofAttempt_of_overflows (h : call.Overflows) :
    ∃ nesting, ofAttempt call.attempt = .error (.json (.depth nesting)) := by
  obtain ⟨r, nesting, hresult, hsuccess, hjson⟩ := h
  refine ⟨nesting, ?_⟩
  simp only [ClientCall.attempt, hresult, if_pos hsuccess, hjson, ofAttempt,
    if_neg (Fault.not_isExpected_depth nesting)]

/-! ## Answers -/

/-- An answer shows what is known of a contract if anything is, and why nothing is known if not. -/
structure IsRendered (status : VerificationStatus) : Prop where
  known : ∀ name ∈ ["isVerified", "verificationStatus"],
    ((status.toJson.member? name).isSome ↔ status.isSuccess)
  unknown : ∀ name ∈ ["error", "details"],
    ((status.toJson.member? name).isSome ↔ ¬ status.isSuccess)

theorem isRendered (status : VerificationStatus) : status.IsRendered := by
  cases status with
  | known isVerified found message =>
      cases message.filter (· ≠ []) <;>
        constructor <;> simp [toJson, Json.member?_ofMembers, isSuccess]
  | unknown error details =>
      constructor <;> simp [toJson, Json.member?_ofMembers, isSuccess]

end VerificationStatus

namespace Client

variable {c : Client} {explorer : Explorer}

/-- **A status is read of every contract**, for a client with a limit of time and a foreseen
explorer, unless the explorer's answer overflows; and it reports what came of the call. -/
theorem readStatus_reports (hlimit : c.settings.HasLimit) (hexplorer : explorer.IsForeseen)
    (address : Text) :
    let call := c.getContract explorer address
    let reading := c.readStatus explorer address
    ((∃ status, reading.status = .ok status) ↔ ¬ call.Overflows) ∧
      ∀ status, reading.status = .ok status → status.Reports call ∧ status.IsRendered := by
  intro call reading
  obtain ⟨htotal, hreports⟩ := VerificationStatus.ofAttempt_ofResult call
    fun _ h => isExpected_of_send hlimit hexplorer h
  exact ⟨htotal, fun status h => ⟨hreports status h, status.isRendered⟩⟩

/-- An answer that overflows gives no status. -/
theorem readStatus_of_overflows {address : Text} (h : (c.getContract explorer address).Overflows)
    (status : VerificationStatus) : (c.readStatus explorer address).status ≠ .ok status := by
  obtain ⟨nesting, herror⟩ := VerificationStatus.ofAttempt_of_overflows h
  intro hstatus
  cases herror.symm.trans hstatus

/-- Of a contract that is gone it is known that it was not found. -/
theorem readStatus_reports_gone :
    let explorer := Explorer.answering ⟨200, [], []⟩ ⟨404, [], Utf8.encode "gone".toList⟩
    nearby.settings.HasLimit ∧ explorer.IsForeseen ∧
      (nearby.readStatus explorer small.address).status = .ok (.notFound 404) := by
  intro explorer
  have hlimit : nearby.settings.HasLimit := ⟨true, rfl⟩
  have hexplorer : explorer.IsForeseen :=
    (Explorer.isRegular_answering rfl rfl).isForeseen
  have hresult : (nearby.getContract explorer small.address).result =
      .ok ⟨404, [], Utf8.encode "gone".toList⟩ := eq_ok_of_toOption (by decide +kernel)
  have hreads := ClientCall.not_overflows_of_refused hresult (by decide)
  obtain ⟨htotal, hreports⟩ := readStatus_reports hlimit hexplorer small.address
  obtain ⟨status, hstatus⟩ := htotal.mpr hreads
  have hgone := (hreports status hstatus).1.refused _ hresult (by decide)
  rw [hgone] at hstatus
  exact ⟨hlimit, hexplorer, hstatus⟩

/-- A success with a body of five thousand opening brackets gives no status. -/
theorem readStatus_fails_on_brackets :
    let explorer := Explorer.answering ⟨200, [], []⟩ ⟨200, [], List.replicate 5000 0x5B⟩
    explorer.IsForeseen ∧
      ∀ status, (nearby.readStatus explorer small.address).status ≠ .ok status := by
  intro explorer
  have hresult : (nearby.getContract explorer small.address).result =
      .ok ⟨200, [], List.replicate 5000 0x5B⟩ := by
    refine result_nearby (by decide +kernel) fun asked hmethod => ?_
    simp only [explorer, Explorer.answering, hmethod]
  have hdepth : (nearby.getContract explorer small.address).client.depth < 5000 := by
    rw [getContract, depth_send]
    decide
  exact ⟨(Explorer.isRegular_answering rfl rfl).isForeseen,
    readStatus_of_overflows (ClientCall.overflows_of_brackets hresult hdepth)⟩

end Client

end ContractVerifier
