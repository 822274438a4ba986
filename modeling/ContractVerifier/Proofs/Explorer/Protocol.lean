import ContractVerifier.Proofs.Explorer.Expected
import ContractVerifier.Proofs.Json.Depth

set_option autoImplicit false

/-! # The submission protocol

A call can be accepted, refused, or neither. `Accepted`, `Refused` and `Overflows` say so of one
call; `submit_protocol` says what a submission comes to, given what came of its one or two calls.

With a regular explorer a submission has an outcome unless an attempt **overflows**: the explorer
accepts it with a body that is nested too deeply to be read. That is the one fault of a call that is
neither one of transport nor one of a value.
-/

namespace ContractVerifier

/-! ## What came of one call -/

namespace ClientCall

/-- The explorer answered with a success whose body is JSON. -/
def Accepted (call : ClientCall) (payload : Json) : Prop :=
  ∃ r, call.result = .ok r ∧ r.isSuccess ∧ r.json call.client.depth = .ok payload

/-- The explorer answered with anything but a success. -/
def Refused (call : ClientCall) (status : Int) (details : Text) : Prop :=
  ∃ r, call.result = .ok r ∧ ¬ r.isSuccess ∧ r.status = status ∧ r.text = .ok details

/-- The explorer answered with a success whose body is nested too deeply. -/
def Overflows (call : ClientCall) : Prop :=
  ∃ r nesting, call.result = .ok r ∧ r.isSuccess ∧
    r.json call.client.depth = .error (.json (.depth nesting))

/-- A call is **regular** if the faults it can end in are expected and its answer can be shown. -/
structure IsRegular (call : ClientCall) : Prop where
  expected : ∀ fault, call.result = .error fault → fault.isExpected
  text : ∀ r, call.result = .ok r → ∃ t, r.text = .ok t

/-- How a call ends, as an attempt. -/
inductive Ending (call : ClientCall) : Attempt → Prop
  | accepted {payload : Json} (h : call.Accepted payload) : Ending call (.accepted payload)
  | refused {r : ExplorerResponse} {details : Text} (h : call.Refused r.status details)
      (htext : r.text = .ok details) : Ending call (.refused r)
  /-- Neither accepted nor refused, for a reason that is expected. -/
  | failed {fault : Fault} (hexpected : fault.isExpected)
      (haccepted : ∀ payload, ¬ call.Accepted payload)
      (hrefused : ∀ status details, ¬ call.Refused status details)
      (hoverflows : ¬ call.Overflows) : Ending call (.failed fault)
  | overflow {nesting : Json.Nesting} (h : call.Overflows) :
      Ending call (.failed (.json (.depth nesting)))

variable {call : ClientCall}

/-- What the body of a success can be read as. -/
theorem json_cases (r : ExplorerResponse) (depth : Nat) :
    (∃ payload, r.json depth = .ok payload) ∨ ∃ e, r.json depth = .error (.json e) := by
  unfold ExplorerResponse.json
  cases Json.readBytes r.body depth with
  | ok payload => exact .inl ⟨payload, rfl⟩
  | error e => exact .inr ⟨e, rfl⟩

theorem ending_of_error {fault : Fault} (h : call.result = .error fault)
    (hexpected : fault.isExpected) : call.Ending (.failed fault) := by
  have hnot : ∀ r, call.result ≠ .ok r := by
    intro r hr
    rw [h] at hr
    cases hr
  refine .failed hexpected ?_ ?_ ?_
  · rintro payload ⟨r, hr, -⟩
    exact hnot r hr
  · rintro status details ⟨r, hr, -⟩
    exact hnot r hr
  · rintro ⟨r, nesting, hr, -⟩
    exact hnot r hr

theorem not_accepted_of_unread {r : ExplorerResponse} {e : Json.ReadError}
    (h : call.result = .ok r) (hjson : r.json call.client.depth = .error (.json e))
    (payload : Json) : ¬ call.Accepted payload := by
  rintro ⟨r', hr', -, hpayload⟩
  cases h.symm.trans hr'
  cases hjson.symm.trans hpayload

theorem not_overflows_of_unread {r : ExplorerResponse} {e : Json.ReadError}
    (h : call.result = .ok r) (hjson : r.json call.client.depth = .error (.json e))
    (hdepth : ∀ nesting, e ≠ .depth nesting) : ¬ call.Overflows := by
  rintro ⟨r', nesting, hr', -, hnesting⟩
  cases h.symm.trans hr'
  cases hjson.symm.trans hnesting
  exact hdepth nesting rfl

/-- A success whose body is no JSON is a failure that is expected, or it overflows. -/
theorem ending_of_unread {r : ExplorerResponse} {e : Json.ReadError} (h : call.result = .ok r)
    (hsuccess : r.isSuccess) (hjson : r.json call.client.depth = .error (.json e)) :
    call.Ending (.failed (.json e)) := by
  by_cases hexpected : (Fault.json e).isExpected
  · refine .failed hexpected (not_accepted_of_unread h hjson) ?_
      (not_overflows_of_unread h hjson ((Fault.isExpected_json e).mp hexpected))
    rintro status details ⟨r', hr', hrefused, -⟩
    cases h.symm.trans hr'
    exact hrefused hsuccess
  · rw [Fault.isExpected_json] at hexpected
    obtain ⟨nesting, hnot⟩ := Classical.not_forall.mp hexpected
    obtain rfl : e = .depth nesting := Classical.not_not.mp hnot
    exact .overflow ⟨r, nesting, h, hsuccess, hjson⟩

/-- Every regular call ends in one of these ways. -/
theorem IsRegular.ending (h : call.IsRegular) : call.Ending call.attempt := by
  unfold attempt
  cases hresult : call.result with
  | error fault => exact ending_of_error hresult (h.expected fault hresult)
  | ok r =>
      simp only
      by_cases hsuccess : r.isSuccess
      · rw [if_pos hsuccess]
        rcases json_cases r call.client.depth with ⟨payload, hjson⟩ | ⟨e, hjson⟩
        · rw [hjson]
          exact .accepted ⟨r, hresult, hsuccess, hjson⟩
        · rw [hjson]
          exact ending_of_unread hresult hsuccess hjson
      · rw [if_neg hsuccess]
        obtain ⟨details, htext⟩ := h.text r hresult
        exact .refused ⟨r, hresult, hsuccess, rfl, htext⟩ htext

/-- A success with a body of brackets alone overflows if they are more than lists may be nested. -/
theorem overflows_of_brackets {n : Nat}
    (h : call.result = .ok ⟨200, [], List.replicate n 0x5B⟩) (hdepth : call.client.depth < n) :
    call.Overflows := by
  refine ⟨_, .array, h, rfl, ?_⟩
  rw [ExplorerResponse.json, Json.readBytes_brackets hdepth]

theorem Accepted.unique {a b : Json} (ha : call.Accepted a) (hb : call.Accepted b) : a = b := by
  obtain ⟨r, hr, -, hjson⟩ := ha
  obtain ⟨r', hr', -, hjson'⟩ := hb
  cases hr.symm.trans hr'
  exact Except.ok.inj (hjson.symm.trans hjson')

theorem Refused.unique {status status' : Int} {details details' : Text}
    (h : call.Refused status details) (h' : call.Refused status' details') :
    status = status' ∧ details = details' := by
  obtain ⟨r, hr, -, hstatus, htext⟩ := h
  obtain ⟨r', hr', -, hstatus', htext'⟩ := h'
  cases hr.symm.trans hr'
  exact ⟨hstatus.symm.trans hstatus', Except.ok.inj (htext.symm.trans htext')⟩

theorem Accepted.not_refused {payload : Json} {status : Int} {details : Text}
    (h : call.Accepted payload) : ¬ call.Refused status details := by
  rintro ⟨r', hr', hrefused, -⟩
  obtain ⟨r, hr, hsuccess, -⟩ := h
  cases hr.symm.trans hr'
  exact hrefused hsuccess

theorem Accepted.not_overflows {payload : Json} (h : call.Accepted payload) :
    ¬ call.Overflows := by
  rintro ⟨r', nesting, hr', -, hdepth⟩
  obtain ⟨r, hr, -, hjson⟩ := h
  cases hr.symm.trans hr'
  cases hjson.symm.trans hdepth

theorem Refused.not_overflows {status : Int} {details : Text} (h : call.Refused status details) :
    ¬ call.Overflows := by
  rintro ⟨r', nesting, hr', hsuccess, -⟩
  obtain ⟨r, hr, hrefused, -⟩ := h
  cases hr.symm.trans hr'
  exact hrefused hsuccess

end ClientCall

/-! ## Submissions -/

namespace Client

variable {c : Client} {explorer : Explorer} {r : VerificationRequest}

theorem isRegular_send (hlimit : c.settings.HasLimit) (hexplorer : explorer.IsRegular)
    (d : RequestDraft) : (c.send explorer d).IsRegular where
  expected _ h := isExpected_of_send hlimit hexplorer.isForeseen h
  text _ h := text_of_send hexplorer h

/-- The second call is as regular as the first. -/
theorem isRegular_verifyLegacy (hlimit : c.settings.HasLimit) (hexplorer : explorer.IsRegular) :
    ((c.verifyFlattened explorer r).client.verifyLegacy explorer r).IsRegular := by
  refine isRegular_send ?_ hexplorer _
  rw [verifyFlattened, settings_send]
  exact hlimit

/-- The notes that go with the attempts. -/
def noted (r : VerificationRequest) (methods : List VerificationMethod) :
    List Monitoring.Breadcrumb :=
  methods.map (Monitoring.Breadcrumb.ofAttempt · r.address)

theorem submit_of_accepted {payload : Json}
    (h : (c.verifyFlattened explorer r).Accepted payload) :
    c.submit explorer r = ⟨.ok (.success .v2 payload),
      (c.verifyFlattened explorer r).sent.toList, noted r [.v2],
      (c.verifyFlattened explorer r).client⟩ := by
  obtain ⟨answer, hresult, hsuccess, hjson⟩ := h
  simp only [submit, hresult, ClientCall.attempt, if_pos hsuccess, hjson]
  rfl

theorem submit_of_overflows (h : (c.verifyFlattened explorer r).Overflows) :
    ∃ nesting, c.submit explorer r = ⟨.error (.json (.depth nesting)),
      (c.verifyFlattened explorer r).sent.toList, noted r [.v2],
      (c.verifyFlattened explorer r).client⟩ := by
  obtain ⟨answer, nesting, hresult, hsuccess, hjson⟩ := h
  refine ⟨nesting, ?_⟩
  simp only [submit, hresult, ClientCall.attempt, if_pos hsuccess, hjson,
    if_neg (Fault.not_isExpected_depth nesting)]
  rfl

/-- Without a payload the second call is made, and decides. -/
theorem submit_of_not_accepted (hregular : (c.verifyFlattened explorer r).IsRegular)
    (haccepted : ∀ payload, ¬ (c.verifyFlattened explorer r).Accepted payload)
    (hoverflows : ¬ (c.verifyFlattened explorer r).Overflows) :
    let second := (c.verifyFlattened explorer r).client.verifyLegacy explorer r
    c.submit explorer r = ⟨second.attempt.outcome r.address,
      (c.verifyFlattened explorer r).sent.toList ++ second.sent.toList, noted r [.v2, .rpc],
      second.client⟩ := by
  intro second
  unfold submit
  simp only
  have hending := hregular.ending
  generalize (c.verifyFlattened explorer r).attempt = attempt at hending
  cases hending with
  | accepted h => exact absurd h (haccepted _)
  | refused h htext =>
      simp only [htext]
      rfl
  | failed hexpected =>
      simp only [if_pos hexpected]
      rfl
  | overflow h => exact absurd h hoverflows

/-- What the second call makes of the submission. -/
theorem outcome_cases {call : ClientCall} (hregular : call.IsRegular) (address : Text) :
    let outcome := call.attempt.outcome address
    let failure := VerificationOutcome.failure address
    (∀ payload, call.Accepted payload → outcome = .ok (.success .rpc payload)) ∧
    (∀ status details, call.Refused status details →
      outcome = .ok (failure bothRejected (.text details) [.v2, .rpc] (some status))) ∧
    ((∀ payload, ¬ call.Accepted payload) → (∀ status details, ¬ call.Refused status details) →
      ¬ call.Overflows → ∃ details, details ≠ [] ∧
        outcome = .ok (failure bothFailed (.text details) [.v2, .rpc] none)) := by
  have hending := hregular.ending
  generalize call.attempt = attempt at hending ⊢
  cases hending with
  | accepted h =>
      refine ⟨fun payload h' => ?_, fun _ _ h' => absurd h' h.not_refused,
        fun h' => absurd h (h' _)⟩
      rw [h.unique h']
      rfl
  | @refused answer details h htext =>
      refine ⟨fun _ h' => absurd h h'.not_refused, fun status details' h' => ?_,
        fun _ h' => absurd h (h' _ _)⟩
      obtain ⟨rfl, rfl⟩ := h.unique h'
      simp only [Attempt.outcome, htext]
  | @failed fault hexpected haccepted hrefused hoverflows =>
      refine ⟨fun _ h' => absurd h' (haccepted _), fun _ _ h' => absurd h' (hrefused _ _),
        fun _ _ _ => ⟨fault.describe, ?_, ?_⟩⟩
      · exact Fault.describe_ne_nil_of_named (Fault.isNamed_of_isExpected hexpected)
      · simp only [Attempt.outcome, Fault.outcome, if_pos hexpected]
  | overflow h =>
      exact ⟨fun _ h' => absurd h h'.not_overflows, fun _ _ h' => absurd h h'.not_overflows,
        fun _ _ h' => absurd h h'⟩

/-- A second call that overflows leads to a fault. -/
theorem outcome_of_overflows {call : ClientCall} (h : call.Overflows) (address : Text) :
    ∃ nesting, call.attempt.outcome address =
      .error (.json (.depth nesting)) := by
  obtain ⟨answer, nesting, hresult, hsuccess, hjson⟩ := h
  refine ⟨nesting, ?_⟩
  simp only [hresult, ClientCall.attempt, if_pos hsuccess, hjson, Attempt.outcome, Fault.outcome,
    if_neg (Fault.not_isExpected_depth nesting)]

/-- The second call leads to an outcome unless it overflows. -/
theorem exists_outcome_iff {call : ClientCall} (hregular : call.IsRegular) (address : Text) :
    (∃ outcome, call.attempt.outcome address = .ok outcome) ↔
      ¬ call.Overflows := by
  have hending := hregular.ending
  generalize call.attempt = attempt at hending ⊢
  cases hending with
  | accepted h => exact iff_of_true ⟨_, rfl⟩ h.not_overflows
  | refused h htext =>
      simp only [Attempt.outcome, htext]
      exact iff_of_true ⟨_, rfl⟩ h.not_overflows
  | failed hexpected _ _ hoverflows =>
      simp only [Attempt.outcome, Fault.outcome, if_pos hexpected]
      exact iff_of_true ⟨_, rfl⟩ hoverflows
  | @overflow nesting h =>
      simp only [Attempt.outcome, Fault.outcome, if_neg (Fault.not_isExpected_depth nesting)]
      exact iff_of_false (fun hok => nomatch hok.choose_spec) fun hnot => hnot h

/-- What a submission sends: at most one request by each interface, the current one first. -/
theorem sublist_methods_submit (explorer : Explorer) (r : VerificationRequest) :
    let first := c.verifyFlattened explorer r
    let second := first.client.verifyLegacy explorer r
    ((first.sent.toList ++ second.sent.toList).map ExplorerRequest.method).Sublist
      [.post, .get] := by
  intro first second
  rw [List.map_append]
  exact List.Sublist.append sublist_methods_send sublist_methods_send

/-- **The submission protocol**, for a client with a limit of time and a regular explorer. The
current interface is tried first. If it accepts the submission, that is the outcome, and the older
one is not tried. Otherwise, and unless the first answer overflows, the older one is tried once:
either it accepts the submission; or it refuses it, and the outcome is a failure with the status
and the text of the refusal; or the outcome is a failure that says why the second call came to
nothing. There is an outcome exactly if no attempt that is made overflows. Every attempt is noted
and counted, and sends at most one request. -/
theorem submit_protocol (hlimit : c.settings.HasLimit) (hexplorer : explorer.IsRegular) :
    let s := c.submit explorer r
    let first := c.verifyFlattened explorer r
    let second := first.client.verifyLegacy explorer r
    let failure := VerificationOutcome.failure r.address
    (∀ payload, first.Accepted payload →
      s = ⟨.ok (.success .v2 payload), first.sent.toList, noted r [.v2], first.client⟩) ∧
    ((∀ payload, ¬ first.Accepted payload) → ¬ first.Overflows →
      (s.sent = first.sent.toList ++ second.sent.toList ∧ s.notes = noted r [.v2, .rpc] ∧
        s.client = second.client) ∧
      (∀ payload, second.Accepted payload → s.outcome = .ok (.success .rpc payload)) ∧
      (∀ status details, second.Refused status details →
        s.outcome = .ok (failure bothRejected (.text details) [.v2, .rpc] (some status))) ∧
      ((∀ payload, ¬ second.Accepted payload) →
        (∀ status details, ¬ second.Refused status details) → ¬ second.Overflows →
        ∃ details, details ≠ [] ∧
          s.outcome = .ok (failure bothFailed (.text details) [.v2, .rpc] none))) ∧
    ((∃ outcome, s.outcome = .ok outcome) ↔
      ¬ first.Overflows ∧ ((∃ payload, first.Accepted payload) ∨ ¬ second.Overflows)) ∧
    s.client.requests = c.requests + s.notes.length ∧
    (s.sent.map ExplorerRequest.method).Sublist [.post, .get] := by
  intro s first second failure
  have hfirst : first.IsRegular := isRegular_send hlimit hexplorer _
  have hsecond : second.IsRegular := isRegular_verifyLegacy hlimit hexplorer
  have hsent : ((first.sent.toList ++ second.sent.toList).map ExplorerRequest.method).Sublist
      [.post, .get] := sublist_methods_submit explorer r
  have hsentFirst : (first.sent.toList.map ExplorerRequest.method).Sublist [.post, .get] :=
    sublist_methods_send.trans (List.sublist_append_left [HttpMethod.post] [HttpMethod.get])
  have hrequests : first.client.requests = c.requests + 1 := requests_send
  by_cases haccepted : ∃ payload, first.Accepted payload
  · -- the older interface is not tried
    obtain ⟨payload, haccepted⟩ := haccepted
    have hs : s = _ := submit_of_accepted haccepted
    refine ⟨fun payload' h => ?_, fun h => absurd haccepted (h payload), ?_, ?_, ?_⟩
    · rw [← haccepted.unique h, hs]
    · rw [hs]
      exact iff_of_true ⟨_, rfl⟩ ⟨haccepted.not_overflows, .inl ⟨payload, haccepted⟩⟩
    · rw [hs]
      exact hrequests
    · rw [hs]
      exact hsentFirst
  · have hnot : ∀ payload, ¬ first.Accepted payload := fun payload h => haccepted ⟨payload, h⟩
    by_cases hoverflows : first.Overflows
    · -- the fault of the first call is that of the submission
      obtain ⟨nesting, hs⟩ := submit_of_overflows hoverflows
      refine ⟨fun payload h => absurd h (hnot payload), fun _ h => absurd hoverflows h, ?_, ?_, ?_⟩
      · refine iff_of_false ?_ (fun h => h.1 hoverflows)
        rintro ⟨outcome, houtcome⟩
        rw [show s = _ from hs] at houtcome
        cases houtcome
      · rw [show s = _ from hs]
        exact hrequests
      · rw [show s = _ from hs]
        exact hsentFirst
    · -- both are tried, and the second call decides
      have hs : s = _ := submit_of_not_accepted hfirst hnot hoverflows
      refine ⟨fun payload h => absurd h (hnot payload), fun _ _ => ?_, ?_, ?_, ?_⟩
      · rw [hs]
        exact ⟨⟨rfl, rfl, rfl⟩, outcome_cases hsecond r.address⟩
      · rw [hs, exists_outcome_iff hsecond]
        exact ⟨fun h => ⟨hoverflows, .inr h⟩, fun h => h.2.resolve_left haccepted⟩
      · rw [hs]
        show second.client.requests = c.requests + 2
        rw [show second.client.requests = first.client.requests + 1 from requests_send, hrequests]
      · rw [hs]
        exact hsent

end Client

/-! ## An explorer with fixed answers -/

/-- The explorer that gives one answer by each interface. -/
def Explorer.answering (v2 rpc : ExplorerResponse) : Explorer := fun request =>
  match request.method with
  | .post => .response v2
  | .get => .response rpc

theorem Explorer.isRegular_answering {v2 rpc : ExplorerResponse} (hv2 : v2.headers = [])
    (hrpc : rpc.headers = []) : (answering v2 rpc).IsRegular := by
  intro asked
  unfold answering
  cases asked.method with
  | post => exact Reaction.isRegular_of_no_headers hv2
  | get => exact Reaction.isRegular_of_no_headers hrpc

theorem eq_ok_of_toOption {ε α : Type} {result : Except ε α} {a : α}
    (h : result.toOption = some a) : result = .ok a := by
  cases result with
  | ok b => rw [Option.some.inj h]
  | error fault => cases h

/-- A response without headers that redirects nowhere is received as it is. -/
theorem ExplorerResponse.received_plain {asked : Url} {status : Int} (body : List UInt8)
    (hasked : asked.isAbsolute) (hstatus : status ∉ redirections) :
    (⟨status, [], body⟩ : ExplorerResponse).received asked = .ok ⟨status, [], body⟩ := by
  have hdecoded : (⟨status, [], body⟩ : ExplorerResponse).decoded = .ok ⟨status, [], body⟩ := rfl
  have htarget : (⟨status, [], body⟩ : ExplorerResponse).checkTarget asked = .ok () := by
    simp only [checkTarget, target?, if_neg hstatus]
  have hheaders : (⟨status, [], body⟩ : ExplorerResponse).unencodable? = none := rfl
  simp only [received, hheaders, hdecoded, if_pos hasked, htarget]
  rfl

namespace Client

/-- A client of an explorer nearby. -/
def nearby : Client :=
  { settings := { baseUrl := "http://e".toList, requestTimeout := .int 1, userAgent := ['v'] } }

/-- A small contract to be verified. -/
def small : VerificationRequest :=
  { address := "0xa".toList, sourceCode := "contract M {}".toList, metadata := ⟨['M'], ['v']⟩ }

/-- What is asked of the explorer nearby is answered as the explorer answers, whatever the body. -/
theorem result_nearby {d : RequestDraft} {explorer : Explorer} {body : List UInt8}
    (hrequest : ((d.request nearby.settings.userAgent).toOption.map (·.url.isAbsolute)) = some true)
    (hexplorer : ∀ asked, asked.method = d.method → explorer asked = .response ⟨200, [], body⟩) :
    (nearby.send explorer d).result = .ok ⟨200, [], body⟩ := by
  obtain ⟨asked, hasked, habsolute⟩ := Option.map_eq_some_iff.mp hrequest
  have hmade : d.request nearby.settings.userAgent = .ok asked := eq_ok_of_toOption hasked
  have hexchange : nearby.settings.exchange explorer d = (.ok ⟨200, [], body⟩, some asked) := by
    have htime : isTimeLeft nearby.settings.requestTimeout = .ok true := rfl
    simp only [ExplorerConfig.exchange, htime, hmade,
      hexplorer asked (RequestDraft.method_of_request hmade), Reaction.result,
      ExplorerResponse.received_plain body habsolute (by decide : (200 : Int) ∉ _)]
  have hagent : Unencodable.find? .ascii nearby.settings.userAgent = none := by decide
  simp only [send, hagent, hexchange]

/-- A success without a body is not accepted, and the refusal that follows it decides. -/
theorem submit_protocol_refused :
    let explorer := Explorer.answering ⟨200, [], []⟩ ⟨404, [], Utf8.encode "gone".toList⟩
    nearby.settings.HasLimit ∧ explorer.IsRegular ∧
      (nearby.submit explorer small).outcome = .ok (.failure small.address bothRejected
        (.text "gone".toList) [.v2, .rpc] (some 404)) := by
  intro explorer
  let first := nearby.verifyFlattened explorer small
  let second := first.client.verifyLegacy explorer small
  have hlimit : nearby.settings.HasLimit := ⟨true, rfl⟩
  have hexplorer : explorer.IsRegular := Explorer.isRegular_answering rfl rfl
  have hfirst : first.result = .ok ⟨200, [], []⟩ :=
    eq_ok_of_toOption (by decide +kernel)
  have hunread : ∀ depth, (⟨200, [], []⟩ : ExplorerResponse).json depth =
      .error (.json (.syntaxError (Json.locate [] .value 0))) := by
    intro depth
    cases depth <;> rfl
  have hsecond : second.Refused 404 "gone".toList :=
    ⟨⟨404, [], Utf8.encode "gone".toList⟩, eq_ok_of_toOption (by decide +kernel), by decide, rfl,
      eq_ok_of_toOption (by decide +kernel)⟩
  obtain ⟨-, hagain, -⟩ := submit_protocol (r := small) hlimit hexplorer
  obtain ⟨-, -, hrefused, -⟩ := hagain (ClientCall.not_accepted_of_unread hfirst (hunread _))
    (ClientCall.not_overflows_of_unread hfirst (hunread _) (by rintro _ ⟨⟩))
  exact ⟨hlimit, hexplorer, hrefused 404 "gone".toList hsecond⟩

/-- A success with a body of five thousand opening brackets ends the submission without an outcome:
the older interface is not tried. -/
theorem submit_fails_on_brackets :
    let explorer := Explorer.answering ⟨200, [], List.replicate 5000 0x5B⟩
      ⟨200, [], Utf8.encode "1".toList⟩
    explorer.IsRegular ∧ (∀ outcome, (nearby.submit explorer small).outcome ≠ .ok outcome) ∧
      (nearby.submit explorer small).notes = noted small [.v2] := by
  intro explorer
  have hfirst : (nearby.verifyFlattened explorer small).result =
      .ok ⟨200, [], List.replicate 5000 0x5B⟩ := by
    refine result_nearby (by decide +kernel) fun asked hmethod => ?_
    simp only [explorer, Explorer.answering, hmethod]
  have hdepth : (nearby.verifyFlattened explorer small).client.depth < 5000 := by
    rw [verifyFlattened, depth_send]
    decide
  obtain ⟨nesting, hsubmit⟩ :=
    submit_of_overflows (ClientCall.overflows_of_brackets hfirst hdepth)
  refine ⟨Explorer.isRegular_answering rfl rfl, ?_, ?_⟩
  · intro outcome h
    rw [hsubmit] at h
    cases h
  · rw [hsubmit]

end Client

end ContractVerifier
