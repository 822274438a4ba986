import ContractVerifier.Explorer.Status
import ContractVerifier.Proofs.Explorer.Protocol

set_option autoImplicit false

/-! # The client's counters

A client is used by those who submit contracts, by those who read statuses, and by itself, and it may
be closed at any time (`Client.Use`). Each use makes some calls: none, one, or two (`Client.calls`).

`Client.Counted` says that a client has counted some calls: all of them, and those that failed in
transport. One call does so (`counted_send`), hence one use does (`counted_use`), hence a whole run
(`counted_after`). `Client.Loses` tells which calls fail in transport by what happens on the way.

Whether a client holds connections is not looked at by any call (`Client.Alike`), so closing it changes
nothing. All of this is `counters_match`.
-/

namespace ContractVerifier

/-! ## Calls that are lost -/

/-- Whether a call failed in transport. -/
def ClientCall.isLost (call : ClientCall) : Bool := isTransportFailure call.result

theorem ClientCall.isLost_iff (call : ClientCall) :
    call.isLost = true ↔ ∃ fault, call.result = .error fault ∧ fault.isTransport := by
  rw [isLost]
  cases call.result with
  | ok r => simp [isTransportFailure]
  | error fault => simp [isTransportFailure]

/-- A reaction is **lost** if the client gets no answer that it can use, because of the transport: there
is silence, time is up, the transport fails, or a response cannot be unpacked or followed. -/
def Reaction.IsLost (asked : Url) : Reaction → Prop
  | silence => True
  | failure fault => fault.isDeadline ∨ fault.isTransport
  | response r => ∃ fault, r.received asked = .error fault ∧ fault.isTransport

theorem Reaction.isTransportFailure_result (timeout : Json) (asked : Url) (reaction : Reaction) :
    isTransportFailure (reaction.result timeout asked) = true ↔ reaction.IsLost asked := by
  cases reaction with
  | silence => exact iff_of_true rfl trivial
  | failure fault =>
      rw [result]
      by_cases hdeadline : fault.isDeadline
      · rw [if_pos hdeadline]
        exact iff_of_true rfl (.inl hdeadline)
      · rw [if_neg hdeadline]
        exact ⟨.inr, fun h => h.resolve_left hdeadline⟩
  | response r =>
      show isTransportFailure (r.received asked) = true ↔
        ∃ fault, r.received asked = .error fault ∧ fault.isTransport
      cases r.received asked with
      | ok r' => simp [isTransportFailure]
      | error fault => simp [isTransportFailure]

/-- Of the faults of reading an address, those that say it is none are of the transport. -/
theorem UrlError.isTransport_iff (e : UrlError) :
    (Fault.address e).isTransport = true ↔ e.kind = "InvalidURL" := by
  cases e with
  | encodedName p =>
      cases p <;> simp [Fault.isTransport, Fault.kind, kind, HostName.Problem.kind,
        Fault.transportKinds]
  | unencodable u => simp [Fault.isTransport, Fault.kind, kind, Fault.transportKinds]
  | _ => exact iff_of_true rfl rfl

theorem Fault.isTransport_ofWriteError (e : Json.WriteError) :
    (Fault.ofWriteError e).isTransport = false := by
  cases e <;> rfl

/-- A request that cannot be made is lost if its address is none. -/
theorem RequestDraft.isTransport_of_request {d : RequestDraft} {userAgent : Text} {fault : Fault}
    (h : d.request userAgent = .error fault) :
    fault.isTransport = true ↔ ∃ e, fault = .address e ∧ e.kind = "InvalidURL" := by
  have haddress : ∀ e, (Fault.address e).isTransport = true ↔
      ∃ e', Fault.address e = .address e' ∧ e'.kind = "InvalidURL" := by
    intro e
    rw [UrlError.isTransport_iff]
    refine ⟨fun he => ⟨e, rfl, he⟩, ?_⟩
    rintro ⟨e', he', hkind⟩
    cases he'
    exact hkind
  unfold request at h
  split at h
  · cases h
    exact haddress _
  · split at h
    · rename_i e _
      cases h
      refine iff_of_false (by rw [Fault.isTransport_ofWriteError]; decide) ?_
      rintro ⟨e', he', -⟩
      cases e <;> cases he'
    · split at h
      · cases h
        exact haddress _
      · cases h
        refine iff_of_false (by rintro ⟨⟩) ?_
        rintro ⟨e', he', -⟩
        cases he'
      · cases h

/-- How a call is lost: no time is left for it, its address is none, or the reaction to its request is
lost. Nothing of this happens before the client has opened connections. -/
structure Client.Loses (c : Client) (explorer : Explorer) (d : RequestDraft) : Prop where
  opened : Unencodable.find? .ascii c.settings.userAgent = none
  lost : isTimeLeft c.settings.requestTimeout = .ok false ∨
    isTimeLeft c.settings.requestTimeout = .ok true ∧
      ((∃ e, d.request c.settings.userAgent = .error (.address e) ∧ e.kind = "InvalidURL") ∨
        ∃ request, d.request c.settings.userAgent = .ok request ∧
          (explorer request).IsLost request.url)

theorem ExplorerConfig.isTransportFailure_exchange (e : ExplorerConfig) (explorer : Explorer)
    (d : RequestDraft) :
    isTransportFailure (e.exchange explorer d).1 = true ↔
      isTimeLeft e.requestTimeout = .ok false ∨ isTimeLeft e.requestTimeout = .ok true ∧
        ((∃ u, d.request e.userAgent = .error (.address u) ∧ u.kind = "InvalidURL") ∨
          ∃ request, d.request e.userAgent = .ok request ∧
            (explorer request).IsLost request.url) := by
  unfold exchange
  cases htime : isTimeLeft e.requestTimeout with
  | error fault =>
      have hfault : fault.isTransport = false := by
        unfold isTimeLeft at htime
        split at htime <;> cases htime
        rfl
      simp [isTransportFailure, hfault]
  | ok isLeft =>
      cases isLeft with
      | false => exact iff_of_true rfl (.inl rfl)
      | true =>
          cases hrequest : d.request e.userAgent with
          | error fault =>
              simp only [isTransportFailure]
              rw [RequestDraft.isTransport_of_request hrequest]
              simp
          | ok request =>
              simp only
              rw [Reaction.isTransportFailure_result]
              simp

namespace Client

variable {c : Client} {explorer : Explorer} {d : RequestDraft}

/-- Without a name that has bytes, no connections are opened and nothing is sent. -/
theorem send_of_unencodable {u : Unencodable}
    (h : Unencodable.find? .ascii c.settings.userAgent = some u) :
    c.send explorer d =
      ⟨.error (.unencodable u), none, { c with requests := c.requests + 1 }⟩ := by
  unfold send
  simp only [h]

theorem send_of_encodable (h : Unencodable.find? .ascii c.settings.userAgent = none) :
    c.send explorer d =
      ⟨(c.settings.exchange explorer d).1, (c.settings.exchange explorer d).2,
        { c with
          isOpen := true
          requests := c.requests + 1
          transportErrors := c.transportErrors +
            if isTransportFailure (c.settings.exchange explorer d).1 then 1 else 0 }⟩ := by
  unfold send
  simp only [h]

/-- **A call is lost exactly if something on the way loses it.** An answer that is received is not lost,
whatever it says, and neither is a call that ends in any other fault. -/
theorem isLost_send (c : Client) (explorer : Explorer) (d : RequestDraft) :
    (c.send explorer d).isLost = true ↔ c.Loses explorer d := by
  unfold ClientCall.isLost
  cases hagent : Unencodable.find? .ascii c.settings.userAgent with
  | some u =>
      have hclosed : ¬ c.Loses explorer d := by
        intro h
        cases hagent.symm.trans h.opened
      rw [send_of_unencodable hagent]
      exact iff_of_false (by rintro ⟨⟩) hclosed
  | none =>
      rw [send_of_encodable hagent, ExplorerConfig.isTransportFailure_exchange]
      exact ⟨fun h => ⟨hagent, h⟩, fun h => h.lost⟩

end Client

/-! ## Uses -/

/-- The outcome of a submission that its first attempt ends. An attempt that does not end it is passed on
to the older interface. -/
def Attempt.final? : Attempt → Option (Except Fault VerificationOutcome)
  | accepted payload => some (.ok (.success .v2 payload))
  | refused response =>
    match response.text with
    | .ok _ => none
    | .error fault => if fault.isExpected then none else some (.error fault)
  | failed fault => if fault.isExpected then none else some (.error fault)

namespace Client

/-- What a client is used for. -/
inductive Use where
  | submit (r : VerificationRequest)
  | read (address : Text)
  | verifyFlattened (r : VerificationRequest)
  | verifyLegacy (r : VerificationRequest)
  | getContract (address : Text)
  | close

/-- What a use comes to. -/
inductive Use.Result where
  | outcome (outcome : Except Fault VerificationOutcome) (notes : List Monitoring.Breadcrumb)
  | status (status : Except Fault VerificationStatus)
  | answer (answer : Except Fault ExplorerResponse)
  | closed

/-- Whether a use closes the client. -/
def Use.isClose : Use → Bool
  | close => true
  | _ => false

/-- Whether the client was closed. -/
def Use.Result.isClosed : Use.Result → Bool
  | closed => true
  | _ => false

/-- What a use comes to, what was sent, and the client afterwards. -/
structure Used where
  result : Use.Result
  sent : List ExplorerRequest
  client : Client

/-- A use that is one call. -/
def Used.ofCall (call : ClientCall) : Used := ⟨.answer call.result, call.sent.toList, call.client⟩

/-- Uses the client. -/
def use (c : Client) (explorer : Explorer) : Use → Used
  | .submit r =>
    let s := c.submit explorer r
    ⟨.outcome s.outcome s.notes, s.sent, s.client⟩
  | .read address =>
    let s := c.readStatus explorer address
    ⟨.status s.status, s.sent, s.client⟩
  | .verifyFlattened r => .ofCall (c.verifyFlattened explorer r)
  | .verifyLegacy r => .ofCall (c.verifyLegacy explorer r)
  | .getContract address => .ofCall (c.getContract explorer address)
  | .close => ⟨.closed, [], c.close⟩

/-- The calls that a use makes, one after another. -/
def calls (c : Client) (explorer : Explorer) : Use → List ClientCall
  | .submit r =>
    let first := c.verifyFlattened explorer r
    first :: first.attempt.final?.elim
      [first.client.verifyLegacy explorer r] fun _ => []
  | .read address => [c.getContract explorer address]
  | .verifyFlattened r => [c.verifyFlattened explorer r]
  | .verifyLegacy r => [c.verifyLegacy explorer r]
  | .getContract address => [c.getContract explorer address]
  | .close => []

variable {c c' c'' : Client} {explorer : Explorer} {d : RequestDraft} {r : VerificationRequest}

/-- A submission ends with its first attempt, or the second one decides. -/
theorem submit_eq (c : Client) (explorer : Explorer) (r : VerificationRequest) :
    let first := c.verifyFlattened explorer r
    let second := first.client.verifyLegacy explorer r
    c.submit explorer r = first.attempt.final?.elim
      ⟨second.attempt.outcome r.address, first.sent.toList ++ second.sent.toList,
        noted r [.v2, .rpc], second.client⟩
      fun outcome => ⟨outcome, first.sent.toList, noted r [.v2], first.client⟩ := by
  intro first second
  unfold submit
  simp only
  cases (c.verifyFlattened explorer r).attempt with
  | accepted payload => rfl
  | refused response =>
      simp only [Attempt.final?]
      cases response.text with
      | ok details => rfl
      | error fault =>
          simp only
          split <;> rfl
  | failed fault =>
      simp only [Attempt.final?]
      split <;> rfl

/-- What a use sends is what its calls send. -/
theorem sent_use (c : Client) (explorer : Explorer) (u : Use) :
    (c.use explorer u).sent = (c.calls explorer u).flatMap (·.sent.toList) := by
  cases u with
  | submit r =>
      show (c.submit explorer r).sent = _
      rw [submit_eq, calls]
      cases (c.verifyFlattened explorer r).attempt.final? <;> simp
  | close => rfl
  | _ => exact (List.append_nil _).symm

/-- Each call of a use is one of the client as it is set up. -/
theorem exists_send_of_mem_calls {u : Use} {call : ClientCall} (h : call ∈ c.calls explorer u) :
    ∃ (client : Client) (draft : RequestDraft), client.settings = c.settings ∧
      call = client.send explorer draft := by
  cases u with
  | submit r =>
      rw [calls, List.mem_cons] at h
      rcases h with rfl | h
      · exact ⟨c, _, rfl, rfl⟩
      · cases hfinal : (c.verifyFlattened explorer r).attempt.final? with
        | some outcome =>
            rw [hfinal] at h
            cases h
        | none =>
            rw [hfinal, Option.elim_none, List.mem_singleton] at h
            exact ⟨_, _, settings_send, h⟩
  | close => cases h
  | _ => exact ⟨c, _, rfl, List.mem_singleton.mp h⟩

/-- No use changes how the client is set up. -/
theorem settings_use (c : Client) (explorer : Explorer) (u : Use) :
    (c.use explorer u).client.settings = c.settings := by
  cases u with
  | submit r =>
      have hfirst : (c.verifyFlattened explorer r).client.settings = c.settings := settings_send
      show (c.submit explorer r).client.settings = _
      rw [submit_eq]
      cases (c.verifyFlattened explorer r).attempt.final? with
      | some outcome => exact hfirst
      | none => exact settings_send.trans hfirst
  | close => rfl
  | _ => exact settings_send

/-! ## Counting -/

/-- From `c` to `c'` a client has counted these calls. -/
structure Counted (c c' : Client) (made : List ClientCall) : Prop where
  requests : c'.requests = c.requests + made.length
  transportErrors : c'.transportErrors = c.transportErrors + made.countP ClientCall.isLost

theorem Counted.append {made made' : List ClientCall} (h : Counted c c' made)
    (h' : Counted c' c'' made') : Counted c c'' (made ++ made') where
  requests := by
    rw [h'.requests, h.requests, List.length_append, Nat.add_assoc]
  transportErrors := by
    rw [h'.transportErrors, h.transportErrors, List.countP_append, Nat.add_assoc]

/-- **A call is counted**, and a second time if it is lost. -/
theorem counted_send (c : Client) (explorer : Explorer) (d : RequestDraft) :
    Counted c (c.send explorer d).client [c.send explorer d] := by
  constructor
  · rw [requests_send, List.length_singleton]
  · rw [List.countP_singleton, ClientCall.isLost]
    cases hagent : Unencodable.find? .ascii c.settings.userAgent with
    | some u =>
        rw [send_of_unencodable hagent]
        rfl
    | none => rw [send_of_encodable hagent]

theorem counted_use (c : Client) (explorer : Explorer) (u : Use) :
    Counted c (c.use explorer u).client (c.calls explorer u) := by
  cases u with
  | submit r =>
      have hfirst := c.counted_send explorer
        { method := .post
          address := c.contractUrl r.address ++ "/verification/via/flattened-code".toList
          body := some r.jsonBody }
      show Counted c (c.submit explorer r).client _
      rw [submit_eq, calls]
      cases (c.verifyFlattened explorer r).attempt.final? with
      | some outcome => exact hfirst
      -- the second call is made by the client that the first one leaves
      | none => exact hfirst.append (counted_send _ explorer _)
  | close => exact ⟨rfl, rfl⟩
  | _ => exact c.counted_send explorer _

/-! ## Connections -/

/-- Two clients are **alike** if they differ at most in the connections that they hold. -/
structure Alike (c c' : Client) : Prop where
  settings : c.settings = c'.settings
  depth : c.depth = c'.depth
  requests : c.requests = c'.requests
  transportErrors : c.transportErrors = c'.transportErrors

/-- Two calls come to the same, and leave clients that are alike. -/
structure SameCall (call call' : ClientCall) : Prop where
  result : call.result = call'.result
  sent : call.sent = call'.sent
  client : call.client.Alike call'.client

/-- Two uses come to the same, and leave clients that are alike. -/
structure SameUse (used used' : Used) : Prop where
  result : used.result = used'.result
  sent : used.sent = used'.sent
  client : used.client.Alike used'.client

theorem Alike.refl (c : Client) : c.Alike c := ⟨rfl, rfl, rfl, rfl⟩

/-- No call looks at the connections. -/
theorem Alike.send (h : c.Alike c') (explorer : Explorer) (d : RequestDraft) :
    SameCall (c.send explorer d) (c'.send explorer d) := by
  cases hagent : Unencodable.find? .ascii c.settings.userAgent with
  | some u =>
      have hagent' := h.settings ▸ hagent
      rw [send_of_unencodable hagent, send_of_unencodable hagent']
      exact ⟨rfl, rfl, h.settings, h.depth, congrArg (· + 1) h.requests, h.transportErrors⟩
  | none =>
      have hagent' := h.settings ▸ hagent
      rw [send_of_encodable hagent, send_of_encodable hagent', h.settings, h.requests,
        h.transportErrors]
      exact ⟨rfl, rfl, rfl, h.depth, rfl, rfl⟩

theorem Alike.baseUrl_eq (h : c.Alike c') : c.baseUrl = c'.baseUrl := by
  rw [baseUrl, baseUrl, h.settings]

theorem Alike.verifyFlattened (h : c.Alike c') (explorer : Explorer) (r : VerificationRequest) :
    SameCall (c.verifyFlattened explorer r) (c'.verifyFlattened explorer r) := by
  unfold Client.verifyFlattened contractUrl
  rw [h.baseUrl_eq]
  exact h.send explorer _

theorem Alike.verifyLegacy (h : c.Alike c') (explorer : Explorer) (r : VerificationRequest) :
    SameCall (c.verifyLegacy explorer r) (c'.verifyLegacy explorer r) := by
  unfold Client.verifyLegacy
  rw [h.baseUrl_eq]
  exact h.send explorer _

theorem Alike.getContract (h : c.Alike c') (explorer : Explorer) (address : Text) :
    SameCall (c.getContract explorer address) (c'.getContract explorer address) := by
  unfold Client.getContract contractUrl
  rw [h.baseUrl_eq]
  exact h.send explorer _

/-- Calls that come to the same are the same attempts. -/
theorem SameCall.attempt_eq {call call' : ClientCall} (h : SameCall call call') :
    call.attempt = call'.attempt := by
  rw [ClientCall.attempt, ClientCall.attempt, h.result, h.client.depth]

theorem SameCall.ofCall {call call' : ClientCall} (h : SameCall call call') :
    SameUse (.ofCall call) (.ofCall call') where
  result := congrArg Use.Result.answer h.result
  sent := congrArg Option.toList h.sent
  client := h.client

theorem Alike.use (h : c.Alike c') (explorer : Explorer) (u : Use) :
    SameUse (c.use explorer u) (c'.use explorer u) := by
  cases u with
  | submit r =>
      have hfirst := h.verifyFlattened explorer r
      have hsecond := hfirst.client.verifyLegacy explorer r
      simp only [Client.use, submit_eq, hfirst.attempt_eq, hfirst.sent, hsecond.attempt_eq,
        hsecond.sent]
      cases (c'.verifyFlattened explorer r).attempt.final? with
      | some outcome => exact ⟨rfl, rfl, hfirst.client⟩
      | none => exact ⟨rfl, rfl, hsecond.client⟩
  | read address =>
      have hcall := h.getContract explorer address
      have hstatus := congrArg VerificationStatus.ofAttempt hcall.attempt_eq
      exact ⟨congrArg Use.Result.status hstatus, congrArg Option.toList hcall.sent, hcall.client⟩
  | verifyFlattened r => exact (h.verifyFlattened explorer r).ofCall
  | verifyLegacy r => exact (h.verifyLegacy explorer r).ofCall
  | getContract address => exact (h.getContract explorer address).ofCall
  | close => exact ⟨rfl, rfl, h.settings, h.depth, h.requests, h.transportErrors⟩

/-- A closed client is like the one that was closed. -/
theorem Alike.close (h : c.Alike c') : c.close.Alike c' :=
  ⟨h.settings, h.depth, h.requests, h.transportErrors⟩

/-- Only closing a client comes to that. -/
theorem isClosed_use (c : Client) (explorer : Explorer) (u : Use) :
    (c.use explorer u).result.isClosed = u.isClose := by
  cases u <;> rfl

/-! ## Runs -/

/-- The client after some uses, each with the explorer as it is then. -/
def after (c : Client) : List (Explorer × Use) → Client
  | [] => c
  | step :: steps => (c.use step.1 step.2).client.after steps

/-- What some uses come to, in order, with what is sent. -/
def results (c : Client) : List (Explorer × Use) → List (Use.Result × List ExplorerRequest)
  | [] => []
  | step :: steps =>
    let used := c.use step.1 step.2
    (used.result, used.sent) :: used.client.results steps

/-- All calls that some uses make, in order. -/
def callsIn (c : Client) : List (Explorer × Use) → List ClientCall
  | [] => []
  | step :: steps => c.calls step.1 step.2 ++ (c.use step.1 step.2).client.callsIn steps

/-- **A run counts all calls that it makes.** -/
theorem counted_after (c : Client) (steps : List (Explorer × Use)) :
    Counted c (c.after steps) (c.callsIn steps) := by
  induction steps generalizing c with
  | nil => exact ⟨rfl, rfl⟩
  | cons step steps ih => exact (c.counted_use step.1 step.2).append (ih _)

/-- What is sent in a run is sent by its calls. -/
theorem sent_results (c : Client) (steps : List (Explorer × Use)) :
    (c.results steps).flatMap Prod.snd = (c.callsIn steps).flatMap (·.sent.toList) := by
  induction steps generalizing c with
  | nil => rfl
  | cons step steps ih =>
      rw [results, callsIn, List.flatMap_cons, List.flatMap_append, ih, sent_use]

/-- Every call of a run is lost exactly if something loses it. -/
theorem isLost_of_mem_callsIn {steps : List (Explorer × Use)} {call : ClientCall}
    (h : call ∈ c.callsIn steps) : ∃ (client : Client) (step : Explorer × Use)
      (draft : RequestDraft), client.settings = c.settings ∧ step ∈ steps ∧
        call = client.send step.1 draft ∧ (call.isLost = true ↔ client.Loses step.1 draft) := by
  induction steps generalizing c with
  | nil => cases h
  | cons step steps ih =>
      rw [callsIn, List.mem_append] at h
      rcases h with h | h
      · obtain ⟨client, draft, hsettings, rfl⟩ := exists_send_of_mem_calls h
        exact ⟨client, step, draft, hsettings, List.mem_cons_self .., rfl, isLost_send _ _ _⟩
      · obtain ⟨client, later, draft, hsettings, hlater, hcall⟩ := ih h
        exact ⟨client, later, draft, hsettings.trans (settings_use _ _ _),
          List.mem_cons_of_mem _ hlater, hcall⟩

/-- **Closing the client changes nothing**: without it the same uses come to the same. -/
theorem Alike.run (h : c.Alike c') (steps : List (Explorer × Use)) :
    c'.results (steps.filter (!·.2.isClose)) = (c.results steps).filter (!·.1.isClosed) ∧
      (c.after steps).Alike (c'.after (steps.filter (!·.2.isClose))) := by
  induction steps generalizing c c' with
  | nil => exact ⟨rfl, h⟩
  | cons step steps ih =>
      obtain ⟨explorer, u⟩ := step
      have hclosed := c.isClosed_use explorer u
      by_cases hclose : u.isClose
      · -- the client that was not closed has one step less to go
        obtain rfl : u = .close := by
          cases u <;> first | rfl | cases hclose
        exact ih h.close
      · have huse := h.use explorer u
        obtain ⟨hresults, hafter⟩ := ih huse.client
        rw [Bool.not_eq_true] at hclose
        rw [hclose] at hclosed
        simp only [List.filter_cons, results, after, hclose, hclosed, Bool.not_false, if_true]
        rw [hresults, huse.result, huse.sent]
        exact ⟨rfl, hafter⟩

/-- A submission makes a call for each note that it leaves: one if its first attempt is accepted, and two
if the older interface is tried. -/
theorem length_calls_submit (c : Client) (explorer : Explorer) (r : VerificationRequest) :
    let notes := (c.submit explorer r).notes
    (c.calls explorer (.submit r)).length = notes.length ∧
      (notes = noted r [.v2] ∨ notes = noted r [.v2, .rpc]) ∧
      ∀ payload, (c.verifyFlattened explorer r).Accepted payload → notes = noted r [.v2] := by
  intro notes
  refine ⟨?_, ?_, fun payload h => ?_⟩
  · show _ = (c.submit explorer r).notes.length
    rw [submit_eq, calls]
    cases (c.verifyFlattened explorer r).attempt.final? <;> rfl
  · show (c.submit explorer r).notes = _ ∨ (c.submit explorer r).notes = _
    rw [submit_eq]
    cases (c.verifyFlattened explorer r).attempt.final? with
    | some outcome => exact .inl rfl
    | none => exact .inr rfl
  · show (c.submit explorer r).notes = _
    rw [submit_of_accepted h]

/-- **The counters match what happened**, for every client and all its uses, whatever the explorers do.
It has counted every call that was made (one for reading a status, and one or two for a submission),
and those that failed in transport, and no others. Closing the client in between changes neither its
counters nor what any other use comes to. -/
theorem counters_match (settings : ExplorerConfig) (depth : Nat) (steps : List (Explorer × Use)) :
    let fresh : Client := { settings := settings, depth := depth }
    let c := fresh.after steps
    let made := fresh.callsIn steps
    let unclosed := steps.filter (!·.2.isClose)
    (c.requests = made.length ∧ c.transportErrors = made.countP ClientCall.isLost ∧
        c.transportErrors ≤ c.requests) ∧
      (∀ call ∈ made, ∃ (client : Client) (step : Explorer × Use) (draft : RequestDraft),
        client.settings = settings ∧ step ∈ steps ∧ call = client.send step.1 draft ∧
          (call.isLost = true ↔ ∃ fault, call.result = .error fault ∧ fault.isTransport) ∧
          (call.isLost = true ↔ client.Loses step.1 draft)) ∧
      (fresh.results steps).flatMap Prod.snd = made.flatMap (·.sent.toList) ∧
      (∀ explorer address, (c.calls explorer (.read address)).length = 1) ∧
      (∀ explorer r, let notes := (c.submit explorer r).notes
        (c.calls explorer (.submit r)).length = notes.length ∧
          (notes = noted r [.v2] ∨ notes = noted r [.v2, .rpc]) ∧
          ∀ payload, (c.verifyFlattened explorer r).Accepted payload → notes = noted r [.v2]) ∧
      fresh.results unclosed = (fresh.results steps).filter (!·.1.isClosed) ∧
      (fresh.after unclosed).requests = c.requests ∧
      (fresh.after unclosed).transportErrors = c.transportErrors := by
  intro fresh c made unclosed
  have hcounted := fresh.counted_after steps
  have hrequests : c.requests = made.length := by
    rw [hcounted.requests, Nat.zero_add]
  have htransport : c.transportErrors = made.countP ClientCall.isLost := by
    rw [hcounted.transportErrors, Nat.zero_add]
  have hle : c.transportErrors ≤ c.requests := by
    rw [hrequests, htransport]
    exact List.countP_le_length
  obtain ⟨hresults, hafter⟩ := (Alike.refl fresh).run steps
  refine ⟨⟨hrequests, htransport, hle⟩, fun call hcall => ?_, fresh.sent_results steps,
    fun _ _ => rfl, fun explorer r => c.length_calls_submit explorer r, hresults,
    hafter.requests.symm, hafter.transportErrors.symm⟩
  obtain ⟨client, step, draft, hsettings, hstep, hsend, hlost⟩ := isLost_of_mem_callsIn hcall
  exact ⟨client, step, draft, hsettings, hstep, hsend, call.isLost_iff, hlost⟩

end Client

end ContractVerifier
