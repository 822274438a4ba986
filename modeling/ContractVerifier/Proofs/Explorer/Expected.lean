import ContractVerifier.Config.Variables
import ContractVerifier.Explorer.Submission
import ContractVerifier.Proofs.Faults.Names

set_option autoImplicit false

/-! # Expected faults

A call to the explorer ends in an answer or in a fault, and those who make the call expect only
some faults. Here is that a call ends in no other fault (`Client.isExpected_of_send`), as long as
the client has a limit of time and the explorer is foreseen: it answers with anything, does not
answer, or fails in an expected way. An explorer is regular if, besides, all its answers can be shown
as texts.

A body that is no JSON is expected too, with one exception: values that are nested too deeply
(`Fault.isExpected_json`).
-/

namespace ContractVerifier

/-! ## Faults by cause -/

namespace Fault

theorem kind_mem_of_isExpected {f : Fault} (h : f.isExpected) :
    f.kind ∈ transportKinds ++ valueKinds := by
  simpa [isExpected, isTransport, isValue] using h

/-- A fault that is expected has a name. -/
theorem isNamed_of_isExpected {f : Fault} (h : f.isExpected) : f.IsNamed := by
  cases f with
  | foreign kind message =>
      have hmem : kind ∈ transportKinds ++ valueKinds := kind_mem_of_isExpected h
      rintro rfl
      exact absurd hmem (by decide)
  | _ => trivial

theorem isExpected_address (e : UrlError) : (address e).isExpected := by
  cases e with
  | encodedName p => cases p <;> rfl
  | _ => rfl

theorem isExpected_ofWriteError (e : Json.WriteError) : (ofWriteError e).isExpected := by
  cases e <;> rfl

/-- Of the faults of reading JSON, only a nesting that is too deep is not expected. -/
theorem isExpected_json (e : Json.ReadError) :
    (json e).isExpected ↔ ∀ nesting, e ≠ .depth nesting := by
  cases e with
  | depth nesting => simp [isExpected, isTransport, isValue, kind, transportKinds, valueKinds]
  | _ => exact iff_of_true rfl (by rintro _ ⟨⟩)

theorem not_isExpected_depth (nesting : Json.Nesting) :
    ¬ (json (.depth nesting)).isExpected := by
  rw [isExpected_json]
  exact fun h => h nesting rfl

end Fault

/-! ## One exchange -/

/-- A reaction is **regular** if it is a response that can be shown as a text once it has been
received, silence, or a fault that is expected or says that time is up. -/
def Reaction.IsRegular (asked : Url) : Reaction → Prop
  | .response r => ∀ r', r.received asked = .ok r' → ∃ t, r'.text = .ok t
  | .silence => True
  | .failure fault => fault.isExpected ∨ fault.isDeadline

/-- An explorer is **regular** if its reactions to all requests are. -/
def Explorer.IsRegular (explorer : Explorer) : Prop :=
  ∀ asked, (explorer asked).IsRegular asked.url

/-- A reaction is **foreseen** unless it is a fault that is neither expected nor says that time is
up. -/
def Reaction.IsForeseen : Reaction → Prop
  | .failure fault => fault.isExpected ∨ fault.isDeadline
  | _ => True

/-- An explorer is **foreseen** if its reactions to all requests are. -/
def Explorer.IsForeseen (explorer : Explorer) : Prop := ∀ asked, (explorer asked).IsForeseen

theorem Explorer.IsRegular.isForeseen {explorer : Explorer} (h : explorer.IsRegular) :
    explorer.IsForeseen := by
  intro asked
  have hregular := h asked
  cases hreaction : explorer asked with
  | response => trivial
  | silence => trivial
  | failure fault =>
      rw [hreaction] at hregular
      exact hregular

/-- The settings have a limit of time, if only that there is none. -/
def ExplorerConfig.HasLimit (e : ExplorerConfig) : Prop :=
  ∃ isLeft, isTimeLeft e.requestTimeout = .ok isLeft

/-- Settings that are read from variables have a limit. -/
theorem Config.hasLimit_of_explorerOf {vars : Variables} {e : ExplorerConfig}
    (h : explorerOf vars = .ok e) : e.HasLimit := by
  unfold explorerOf at h
  cases htimeout : vars.fraction "EXPLORER_TIMEOUT_SECONDS" "30" with
  | error fault => rw [htimeout] at h; cases h
  | ok timeout =>
      rw [htimeout] at h
      cases h
      unfold Variables.fraction at htimeout
      simp only at htimeout
      split at htimeout
      · cases htimeout
        exact ⟨_, rfl⟩
      · cases htimeout

theorem RequestDraft.isExpected_of_request {d : RequestDraft} {userAgent : Text} {fault : Fault}
    (h : d.request userAgent = .error fault) : fault.isExpected := by
  unfold request at h
  split at h
  · cases h
    exact Fault.isExpected_address _
  · split at h
    · cases h
      exact Fault.isExpected_ofWriteError _
    · split at h
      · cases h
        exact Fault.isExpected_address _
      · cases h
        rfl
      · cases h

/-- A request is made as its draft says. -/
theorem RequestDraft.method_of_request {d : RequestDraft} {userAgent : Text}
    {request : ExplorerRequest} (h : d.request userAgent = .ok request) :
    request.method = d.method := by
  unfold RequestDraft.request at h
  split at h
  · cases h
  · split at h
    · cases h
    · split at h
      · cases h
      · cases h
      · cases h
        rfl

theorem ExplorerResponse.isExpected_of_checkTarget {asked : Url} {r : ExplorerResponse}
    {fault : Fault} (h : r.checkTarget asked = .error fault) : fault.isExpected := by
  unfold checkTarget at h
  split at h
  · cases h
  · split at h
    · cases h
      rfl
    · split at h
      · cases h
        exact Fault.isExpected_address _
      · cases h

theorem ExplorerResponse.isExpected_of_received {asked : Url} {r : ExplorerResponse}
    {fault : Fault} (h : r.received asked = .error fault) : fault.isExpected := by
  unfold received at h
  split at h
  · cases h
    rfl
  · split at h
    · cases h
      rfl
    · rename_i r' _
      split at h
      · cases htarget : r'.checkTarget asked with
        | ok _ => rw [htarget] at h; cases h
        | error fault' =>
            rw [htarget] at h
            cases h
            exact isExpected_of_checkTarget htarget
      · cases h
        rfl

/-- Receiving a response may change its body, but not its headers. -/
theorem ExplorerResponse.headers_of_received {asked : Url} {r r' : ExplorerResponse}
    (h : r.received asked = .ok r') : r'.headers = r.headers := by
  unfold received at h
  split at h
  · cases h
  · split at h
    · cases h
    · rename_i decoded hdecoded
      have hheaders : decoded.headers = r.headers := by
        unfold ExplorerResponse.decoded at hdecoded
        cases hbody : r.codings.reverse.foldlM (fun body coding => coding.decode body) r.body with
        | error flaw => rw [hbody] at hdecoded; cases hdecoded
        | ok body =>
            rw [hbody] at hdecoded
            cases hdecoded
            rfl
      split at h
      · cases htarget : decoded.checkTarget asked with
        | error fault => rw [htarget] at h; cases h
        | ok _ =>
            rw [htarget] at h
            cases h
            exact hheaders
      · cases h

/-- A response without headers is regular: its text is read as UTF-8. -/
theorem Reaction.isRegular_of_no_headers {asked : Url} {r : ExplorerResponse}
    (h : r.headers = []) : (response r).IsRegular asked := by
  intro r' hreceived
  have hheaders : r'.headers = [] := (ExplorerResponse.headers_of_received hreceived).trans h
  have hnone : r'.header? "content-type" = none := by
    simp [ExplorerResponse.header?, ExplorerResponse.headerValues, hheaders]
  unfold ExplorerResponse.text
  split
  · exact ⟨_, rfl⟩
  · rw [hnone]
    exact ⟨_, rfl⟩

theorem Reaction.isExpected_of_result {timeout : Json} {asked : Url} {reaction : Reaction}
    (hforeseen : reaction.IsForeseen) {fault : Fault}
    (h : reaction.result timeout asked = .error fault) : fault.isExpected := by
  cases reaction with
  | response r => exact ExplorerResponse.isExpected_of_received h
  | silence =>
      cases h
      rfl
  | failure fault' =>
      rw [result] at h
      split at h
      · cases h
        rfl
      · rename_i hdeadline
        cases h
        exact hforeseen.resolve_right hdeadline

/-- What comes back from a regular explorer can be shown as a text. -/
theorem Reaction.text_of_result {timeout : Json} {asked : Url} {reaction : Reaction}
    (hregular : reaction.IsRegular asked) {r : ExplorerResponse}
    (h : reaction.result timeout asked = .ok r) : ∃ t, r.text = .ok t := by
  cases reaction with
  | response r' => exact hregular r h
  | silence => cases h
  | failure fault => cases h

namespace ExplorerConfig

variable {e : ExplorerConfig} {explorer : Explorer} {d : RequestDraft}

theorem isExpected_of_exchange (hlimit : e.HasLimit) (hexplorer : explorer.IsForeseen)
    {fault : Fault} (h : (e.exchange explorer d).1 = .error fault) : fault.isExpected := by
  obtain ⟨isLeft, hleft⟩ := hlimit
  rw [exchange, hleft] at h
  cases isLeft with
  | false =>
      cases h
      rfl
  | true =>
      simp only at h
      split at h
      · rename_i hrequest
        cases h
        exact RequestDraft.isExpected_of_request hrequest
      · exact Reaction.isExpected_of_result (hexplorer _) h

theorem text_of_exchange (hexplorer : explorer.IsRegular) {r : ExplorerResponse}
    (h : (e.exchange explorer d).1 = .ok r) : ∃ t, r.text = .ok t := by
  unfold exchange at h
  split at h
  · cases h
  · cases h
  · split at h
    · cases h
    · exact Reaction.text_of_result (hexplorer _) h

/-- What is sent is the request that was to be made. -/
theorem request_of_exchange {request : ExplorerRequest}
    (h : (e.exchange explorer d).2 = some request) : d.request e.userAgent = .ok request := by
  unfold exchange at h
  split at h
  · cases h
  · cases h
  · split at h
    · cases h
    · rename_i hrequest
      cases h
      exact hrequest

end ExplorerConfig

/-! ## Calls -/

namespace Client

variable {c : Client} {explorer : Explorer} {d : RequestDraft}

/-- **A call to a foreseen explorer ends in an answer, or in a fault that is expected.** -/
theorem isExpected_of_send (hlimit : c.settings.HasLimit) (hexplorer : explorer.IsForeseen)
    {fault : Fault} (h : (c.send explorer d).result = .error fault) : fault.isExpected := by
  unfold send at h
  simp only at h
  split at h
  · cases h
    rfl
  · exact ExplorerConfig.isExpected_of_exchange hlimit hexplorer h

theorem text_of_send (hexplorer : explorer.IsRegular) {r : ExplorerResponse}
    (h : (c.send explorer d).result = .ok r) : ∃ t, r.text = .ok t := by
  unfold send at h
  simp only at h
  split at h
  · cases h
  · exact ExplorerConfig.text_of_exchange hexplorer h

/-- What a call sends is the request it was to make. -/
theorem request_of_send {request : ExplorerRequest}
    (h : (c.send explorer d).sent = some request) :
    d.request c.settings.userAgent = .ok request := by
  unfold send at h
  simp only at h
  split at h
  · cases h
  · exact ExplorerConfig.request_of_exchange h

/-- A call sends one request at most. -/
theorem sublist_methods_send :
    ((c.send explorer d).sent.toList.map ExplorerRequest.method).Sublist [d.method] := by
  cases h : (c.send explorer d).sent with
  | none => exact List.nil_sublist _
  | some request =>
      rw [← RequestDraft.method_of_request (request_of_send h)]
      exact List.Sublist.refl _

@[simp] theorem settings_send : (c.send explorer d).client.settings = c.settings := by
  unfold send
  simp only
  split <;> rfl

/-- How deep answers are read is a matter of the client, before a call and after it. -/
@[simp] theorem depth_send : (c.send explorer d).client.depth = c.depth := by
  unfold send
  simp only
  split <;> rfl

/-- A call counts as one request, whatever comes of it. -/
@[simp] theorem requests_send : (c.send explorer d).client.requests = c.requests + 1 := by
  unfold send
  simp only
  split <;> rfl

end Client

end ContractVerifier
