import ContractVerifier.Proofs.Web.Answers

set_option autoImplicit false

/-! # The shape of errors

An answer that an endpoint gives with an error's status is flat: an object that says that nothing
came of the request, what went wrong, and when. The router answers requests that have no endpoint in
a shape of its own, and while the service is debugged, a page takes the place of the object if there
was a fault that nobody expected.

Main statement: `Verifier.handle_isFlat_iff`. That not every error is flat is
`Verifier.stray_not_isFlat`.
-/

namespace ContractVerifier

namespace Web

/-- The content says that nothing came of a request, and what went wrong at that time. -/
def Answer.IsFlat (now : Text) (answer : Answer) : Prop :=
  ∃ body error, answer.content = some body ∧
    body.member? "success" = some (.bool false) ∧
    body.member? "error" = some (.text error) ∧
    body.member? "timestamp" = some (.text now)

/-- What the service gives instead of a status says what went wrong. -/
def Service.ExplainsItself {σ : Type} (service : Service σ) : Prop :=
  ∀ address s body, (service.status address s).1 = .ok body →
    ((body.member? "success").map Json.isGiven).getD false = false →
      body.member? "success" = some (.bool false) ∧
        ∃ error, body.member? "error" = some (.text error)

/-! ## Faults -/

theorem isFlat_body (e : ServiceError) (status : Int) (escaped : Option Fault) (now : Text) :
    Answer.IsFlat now { status, content := some (e.body now), escaped } := by
  refine ⟨e.body now, e.message, rfl, ?_, ?_, ?_⟩ <;>
    rw [ServiceError.body, Json.member?_ofMembers]
  · rfl
  · rfl
  · cases e.details <;> rfl

/-- The answer to a fault is flat, whatever the fault. -/
theorem isFlat_ofFault (now : Text) (fault : Fault) : (Answer.ofFault now fault).IsFlat now := by
  cases fault with
  | service e => exact isFlat_body e e.status none now
  | web status detail =>
      refine ⟨_, detail, rfl, ?_, ?_, ?_⟩ <;> rw [Json.member?_ofMembers] <;> rfl
  | _ => exact isFlat_body (.processing _) 500 _ now

namespace App

variable {σ : Type} {a : App} {service : Service σ} {now : Text} {r : Request} {s s' : σ}
  {answer : Answer} {e : Endpoint}

/-- The answer to a fault that nobody expected is flat unless the service is debugged. -/
theorem isFlat_surprise (a : App) (now : Text) (r : Request) (fault : Fault) :
    (a.surprise now r fault).1.IsFlat now ↔ a.config.debug = false := by
  unfold surprise
  split
  · rename_i hdebug
    refine iff_of_false ?_ (by simp [hdebug])
    rintro ⟨body, error, hbody, -⟩
    cases hbody
  · rename_i hdebug
    exact iff_of_true (isFlat_ofFault now fault) (Bool.eq_false_iff.mpr hdebug)

/-- The answer to a request that ended in a fault is flat, unless the service is debugged and the
fault escapes. -/
theorem isFlat_fail (a : App) (now : Text) (r : Request) (fault : Fault) :
    (a.fail now r fault).1.IsFlat now ↔
      (a.config.debug = true → (a.fail now r fault).1.escaped = none) := by
  -- the app may have tracked a fault by then, which does not change how it is configured
  have hsurprise : ∀ (b : App) {fault' : Fault}, Surprises now fault' →
      ((b.surprise now r fault').1.IsFlat now ↔
        (b.config.debug = true → (b.surprise now r fault').1.escaped = none)) := by
    intro b fault' hfault
    rw [isFlat_surprise, escaped_surprise hfault]
    simp
  rcases a.fail_cases now r fault with
    ⟨hescaped, -, hfail⟩ | ⟨hfault, hfail⟩ | ⟨fault', hfault, hfail⟩
  · rw [hfail]
    exact iff_of_true (isFlat_ofFault now fault) fun _ => hescaped
  · rw [hfail]
    exact hsurprise a hfault
  · rw [hfail]
    exact hsurprise (a.track now r fault) hfault

/-! ## Endpoints -/

theorem eq_of_ofJson {code : Int} {v : Json} (h : Answer.ofJson code v = .ok answer) :
    answer = { status := code, content := some v } := by
  unfold Answer.ofJson at h
  split at h
  · exact (Except.ok.inj h).symm
  · cases h

/-- What an endpoint answers with: a result, or why the service can tell no status. -/
theorem serve_cases (h : a.serve service now e r s = (.ok answer, s')) :
    (∃ v, Answer.ofResult v = .ok answer) ∨
      ∃ address body, (service.status address s).1 = .ok body ∧
        ((body.member? "success").map Json.isGiven).getD false = false ∧
        Answer.ofJson 500 (body.insert "timestamp" (.text now)) = .ok answer := by
  cases e with
  | submit =>
      rw [serve, submit] at h
      split at h
      · cases h
      · split at h
        · cases h
        · exact .inl ⟨_, (Prod.mk.inj h).1⟩
  | status =>
      rw [serve, status] at h
      split at h
      · cases h
      · rename_i address _
        split at h
        · cases h
        · rename_i body t hstatus
          simp only at h
          split at h
          · exact .inl ⟨_, (Prod.mk.inj h).1⟩
          · rename_i hfailed
            have hbody : (service.status address s).1 = .ok body := by rw [hstatus]
            exact .inr ⟨address, body, hbody, Bool.eq_false_iff.mpr hfailed, (Prod.mk.inj h).1⟩
  | health => exact .inl ⟨_, (Prod.mk.inj h).1⟩

/-- A body that explains itself is flat once it has the time. -/
theorem isFlat_insert {body : Json} {error : Text} {status : Int}
    (hsuccess : body.member? "success" = some (.bool false))
    (herror : body.member? "error" = some (.text error)) :
    Answer.IsFlat now { status, content := some (body.insert "timestamp" (.text now)) } := by
  refine ⟨_, error, rfl, ?_, ?_, ?_⟩
  · rw [Json.member?_insert_of_ne (by simp), hsuccess]
  · rw [Json.member?_insert_of_ne (by simp), herror]
  · cases body with
    | object members => exact Association.get?_put ..
    | _ => cases hsuccess

/-- An endpoint's answer that is an error is flat: only a question is answered with one, and then
the service explains itself. -/
theorem isFlat_of_serve (hservice : service.ExplainsItself)
    (h : a.serve service now e r s = (.ok answer, s')) (herror : 400 ≤ answer.status) :
    answer.IsFlat now := by
  rcases serve_cases h with ⟨v, hsent⟩ | ⟨address, body, hbody, hfailed, hsent⟩
  · rw [eq_of_ofJson hsent] at herror
    simp at herror
  · obtain ⟨hsuccess, error, hmessage⟩ := hservice address s body hbody hfailed
    rw [eq_of_ofJson hsent]
    exact isFlat_insert hsuccess hmessage

/-- No fault escapes where an endpoint gives an answer. -/
theorem escaped_of_serve (h : a.serve service now e r s = (.ok answer, s')) :
    answer.escaped = none := by
  rcases serve_cases h with ⟨v, hsent⟩ | ⟨address, body, -, -, hsent⟩
  · rw [eq_of_ofJson hsent]
  · rw [eq_of_ofJson hsent]

/-- An error that a request with an endpoint is answered with is flat, unless the service is
debugged and a fault escapes. -/
theorem isFlat_of_endpoint (hservice : service.ExplainsItself)
    (hendpoint : endpoint r.method r.path = .ok e)
    (herror : 400 ≤ (a.handle service now r s).1.status) :
    (a.handle service now r s).1.IsFlat now ↔
      (a.config.debug = true → (a.handle service now r s).1.escaped = none) := by
  rcases hserve : a.serve service now e r s with ⟨fault | answer, s'⟩
  · rw [handle_of_serve_error hendpoint hserve]
    exact isFlat_fail a now r fault
  · rw [handle_of_serve_ok hendpoint hserve] at herror ⊢
    exact iff_of_true (isFlat_of_serve hservice hserve herror) fun _ => escaped_of_serve hserve

end App

/-! ## Requests without an endpoint -/

/-- The router's own errors say neither that they are no success nor when they happened. -/
theorem Stray.not_isFlat (stray : Stray) (r : Request) (now : Text) :
    ¬ (stray.answer r).IsFlat now := by
  rintro ⟨body, error, hbody, hsuccess, -⟩
  cases stray with
  | elsewhere path => cases hbody
  | otherMethod allowed =>
      cases hbody
      rw [Json.member?_ofMembers] at hsuccess
      cases hsuccess
  | nowhere =>
      cases hbody
      rw [Json.member?_ofMembers] at hsuccess
      cases hsuccess

end Web

namespace Verifier

open Web

/-- A verifier explains itself, whatever the explorer does. -/
theorem explainsItself_toService (v : Verifier) (sys : Flatten.System) (explorer : Explorer) :
    (v.toService sys explorer).ExplainsItself := by
  intro address s body hbody hfailed
  have hstatus : (v.status explorer address s).1 = .ok body := hbody
  rw [status_eq] at hstatus
  cases hattempt : VerificationStatus.ofAttempt
      (s.client.getContract explorer address).attempt with
  | error fault =>
      rw [hattempt] at hstatus
      cases hstatus
  | ok status =>
      rw [hattempt] at hstatus
      obtain rfl : statusBody v address status = body := Except.ok.inj hstatus
      rw [isGiven_success] at hfailed
      have hunknown : ∃ error details,
          status = .unknown (.text error) (.text details) := by
        unfold VerificationStatus.ofAttempt at hattempt
        split at hattempt
        · cases hattempt
          cases hfailed
        · cases hattempt
          cases hfailed
        · split at hattempt
          · cases hattempt
            exact ⟨_, _, rfl⟩
          · cases hattempt
      obtain ⟨error, details, rfl⟩ := hunknown
      have hpage : statusBody v address (.unknown (.text error) (.text details)) =
          (VerificationStatus.unknown (.text error) (.text details)).toJson.insert "address"
            (.text address) := by
        rw [statusBody, withPage, if_neg (by simp [VerificationStatus.isSuccess])]
      rw [hpage, Json.member?_insert_of_ne (by simp), Json.member?_insert_of_ne (by simp),
        VerificationStatus.toJson, Json.member?_ofMembers, Json.member?_ofMembers]
      exact ⟨rfl, error, rfl⟩

/-- **The shape of errors.** Whatever the request and whatever the explorer does, an answer that
is an error is flat exactly if the request has an endpoint, and the service is not debugged or no
fault escapes. -/
theorem handle_isFlat_iff (v : Verifier) (sys : Flatten.System) (explorer : Explorer) (a : App)
    (now : Text) (r : Request) (s : Session)
    (herror : 400 ≤ (a.handle (v.toService sys explorer) now r s).1.status) :
    (a.handle (v.toService sys explorer) now r s).1.IsFlat now ↔
      (∃ e, endpoint r.method r.path = .ok e) ∧
        (a.config.debug = true →
          (a.handle (v.toService sys explorer) now r s).1.escaped = none) := by
  cases hendpoint : endpoint r.method r.path with
  | ok e =>
      rw [App.isFlat_of_endpoint (v.explainsItself_toService sys explorer) hendpoint herror]
      exact ⟨fun hquiet => ⟨⟨e, rfl⟩, hquiet⟩, And.right⟩
  | error stray =>
      have hanswer : (a.handle (v.toService sys explorer) now r s).1 = stray.answer r := by
        rw [App.handle, hendpoint]
      rw [hanswer]
      refine iff_of_false (stray.not_isFlat r now) ?_
      rintro ⟨⟨e, he⟩, -⟩
      cases he

/-- While the service is debugged, a status that is not finite is answered with a page. -/
example :
    let explorer := Explorer.answering ⟨200, [], []⟩
      ⟨200, [], Utf8.encode "\x7b\"verification_status\":NaN\x7d".toList⟩
    let answer := (plain.handle (nearby.toService bare explorer) ['t'] asking
      (nearby.newSession ⟨[]⟩)).1
    plain.config.debug ∧ answer.status = 500 ∧ answer.content.isNone ∧
      answer.trace = some .plain := by
  decide +kernel

/-- A question without an address is an error, and flat. -/
theorem unaddressed_isFlat :
    let service := nearby.toService bare (Explorer.answering ⟨200, [], []⟩ ⟨404, [], []⟩)
    let answer := (plain.handle service ['t'] { asking with query := [] }
      (nearby.newSession ⟨[]⟩)).1
    400 ≤ answer.status ∧ answer.IsFlat ['t'] := by
  intro service answer
  have herror : 400 ≤ answer.status := by decide +kernel
  have hendpoint : endpoint asking.method asking.path = .ok .status := asksAbout_asking.endpoint
  have hquiet : answer.escaped = none := by decide +kernel
  exact ⟨herror, (handle_isFlat_iff nearby bare _ plain ['t'] { asking with query := [] }
    (nearby.newSession ⟨[]⟩) herror).mpr ⟨⟨_, hendpoint⟩, fun _ => hquiet⟩⟩

/-- A path that is not known and a method that is not allowed are errors, and not flat. -/
theorem stray_not_isFlat :
    let service := nearby.toService bare (Explorer.answering ⟨200, [], []⟩ ⟨404, [], []⟩)
    let answer (r : Request) := (plain.handle service ['t'] r (nearby.newSession ⟨[]⟩)).1
    let unknown : Request := { asking with path := "/nope".toList }
    let forbidden : Request := { asking with method := "PUT".toList }
    ((answer unknown).status = 404 ∧ ¬ (answer unknown).IsFlat ['t']) ∧
      (answer forbidden).status = 405 ∧ ¬ (answer forbidden).IsFlat ['t'] := by
  intro service answer unknown forbidden
  refine ⟨⟨rfl, ?_⟩, rfl, ?_⟩
  · exact Stray.nowhere.not_isFlat unknown ['t']
  · exact (Stray.otherMethod "POST").not_isFlat forbidden ['t']

end Verifier

end ContractVerifier
