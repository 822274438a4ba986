import ContractVerifier.Proofs.Json.Depth
import ContractVerifier.Proofs.Json.Messages
import ContractVerifier.Proofs.Web.Answers

set_option autoImplicit false

/-! # The gate for submissions

A body that is malformed, or lacks the address or the source, is turned away: the service is not
asked, and one fault is tracked. Every other body submits two texts that are not empty, and the
service is asked about just these, once.

Main statement: `App.handle_gate`. A body that is nested too deeply is malformed too, but it ends in
a fault that nobody expected (`App.brackets_escape`), which is not even tracked while the service is
debugged.
-/

namespace ContractVerifier

/-! ## Errors that can be told -/

/-- The details of an error can be sent. -/
def Details.IsWhole : Details → Prop
  | text t => t.IsWhole
  | fields problems => ∀ p ∈ problems, p.1.IsWhole

/-- The details say something. -/
def Details.IsGiven : Details → Prop
  | text t => t ≠ []
  | fields problems => problems ≠ []

namespace Details

theorem isWhole_toJson {d : Details} (h : d.IsWhole) : d.toJson.write.IsWhole := by
  cases d with
  | text t => exact Json.isWhole_write_text h
  | fields problems =>
      refine Json.isWhole_write_list fun v hv => ?_
      obtain ⟨p, hp, rfl⟩ := List.mem_map.mp hv
      refine Json.isWhole_write_list fun v hv => ?_
      rw [List.mem_cons, List.mem_singleton] at hv
      rcases hv with rfl | rfl
      · exact Json.isWhole_write_text (h p hp)
      · refine Json.isWhole_write_text ?_
        cases p.2 <;> decide

theorem isFinite_toJson (d : Details) : d.toJson.isFinite := by
  cases d with
  | text t => rfl
  | fields problems =>
      rw [toJson, Json.isFinite]
      induction problems with
      | nil => rfl
      | cons p rest ih =>
          rw [List.map_cons, Json.itemsFinite, ih]
          rfl

end Details

/-- The answer to an error can be sent if its message, its details and the time can be. -/
theorem ServiceError.checkWritable_body {e : ServiceError} {now : Text}
    (hmessage : e.message.IsWhole) (hdetails : ∀ d ∈ e.details, d.IsWhole) (hnow : now.IsWhole) :
    (e.body now).checkWritable = .ok () := by
  have hcode : (Json.string e.code.text).write.IsWhole := by
    refine Json.isWhole_write_text ?_
    cases e.code <;> decide
  refine Json.checkWritable_of_isFinite ?_ (Json.hasBytes_of_isWhole ?_)
  · rw [body, Json.isFinite_ofMembers]
    cases e.details with
    | none => simp [Json.isFinite, Json.string]
    | some d => simp [Json.isFinite, Json.string, d.isFinite_toJson]
  · refine Json.isWhole_write_ofMembers ?_
    have hmember : ∀ {name : String} {v : Json}, Text.IsWhole name.toList → v.write.IsWhole →
        ∀ m ∈ [(name, v)], Text.IsWhole m.1.toList ∧ m.2.write.IsWhole := by
      intro name v hname hv m hm
      obtain rfl := List.mem_singleton.mp hm
      exact ⟨hname, hv⟩
    refine List.forall_mem_append.mpr ⟨List.forall_mem_append.mpr ⟨?_, ?_⟩,
      hmember (by decide) (Json.isWhole_write_text hnow)⟩
    · have herror : Text.IsWhole "error".toList := by decide
      exact List.forall_mem_cons.mpr ⟨⟨by decide, by decide⟩, List.forall_mem_cons.mpr
        ⟨⟨herror, Json.isWhole_write_text hmessage⟩, hmember (by decide) hcode⟩⟩
    · cases hd : e.details with
      | none =>
          rintro _ ⟨⟩
      | some d => exact hmember (by decide) (Details.isWhole_toJson (hdetails d hd))

namespace Web

/-! ## Bodies -/

/-- The names of what a submission gives. -/
def submissionFields : List String := ["contractAddress", "sourceCode"]

/-- What stands under the name is neither a text nor null. -/
def IsMistyped (members : List (Text × Json)) (name : String) : Prop :=
  ∃ v, Association.get? name.toList members = some v ∧ v ≠ .null ∧ ∀ t, v ≠ .text t

/-- There is nothing under the name, or null, or a text that is empty. -/
def IsLacking (members : List (Text × Json)) (name : String) : Prop :=
  ∀ v, Association.get? name.toList members = some v → v = .null ∨ v = .text []

/-- Read to this depth, the body is no JSON text, or not that of an object, or a member is of the
wrong kind. -/
inductive Malformed (body : List UInt8) (depth : Nat) : Prop
  | unread {e : Json.ReadError} (h : Json.readBytes body depth = .error e)
  | notObject {v : Json} (h : Json.readBytes body depth = .ok v)
      (hv : ∀ members, v ≠ .object members)
  | mistyped {members : List (Text × Json)} {name : String}
      (h : Json.readBytes body depth = .ok (.object members)) (hname : name ∈ submissionFields)
      (hv : IsMistyped members name)

/-- The body is an object without an address or without a source. -/
def Lacks (body : List UInt8) (depth : Nat) : Prop :=
  ∃ members, Json.readBytes body depth = .ok (.object members) ∧
    ∃ name ∈ submissionFields, IsLacking members name

/-- The body is nested more deeply than can be read. -/
def TooDeep (body : List UInt8) (depth : Nat) : Prop :=
  ∃ nesting, Json.readBytes body depth = .error (.depth nesting)

variable {depth : Nat}

theorem TooDeep.malformed {body : List UInt8} (h : TooDeep body depth) : Malformed body depth := by
  obtain ⟨nesting, h⟩ := h
  exact .unread h

/-- A member is of the wrong kind, or lacking, or a text that is not empty. -/
theorem textMember_cases (members : List (Text × Json)) (name : String) :
    IsMistyped members name ∧ textMember members name = .error .notText ∨
      IsLacking members name ∧ ¬ IsMistyped members name ∧
        (∃ t, textMember members name = .ok t) ∧ givenText? members name = none ∨
      ∃ t, t ≠ [] ∧ Association.get? name.toList members = some (.text t) ∧
        ¬ IsMistyped members name ∧ ¬ IsLacking members name ∧
        textMember members name = .ok (some t) ∧ givenText? members name = some t := by
  unfold IsMistyped IsLacking givenText? textMember
  cases hget : Association.get? name.toList members with
  | none => simp
  | some v =>
      cases v with
      | text t => cases t <;> simp
      | _ => simp

theorem problemsOf_of_ok {members : List (Text × Json)} {name : String} {t : Option Text}
    (h : textMember members name = .ok t) : problemsOf members name = [] := by
  rw [problemsOf, h]

theorem problemsOf_of_mistyped {members : List (Text × Json)} {name : String}
    (h : IsMistyped members name) : problemsOf members name = [(name.toList, .notText)] := by
  rcases textMember_cases members name with ⟨-, htext⟩ | ⟨-, hnot, -⟩ | ⟨-, -, -, hnot, -⟩
  · rw [problemsOf, htext]
  · exact absurd h hnot
  · exact absurd h hnot

/-- The problems of a member have its name. -/
theorem isWhole_problemsOf (members : List (Text × Json)) {name : String}
    (hname : Text.IsWhole name.toList) :
    (Details.fields (problemsOf members name)).IsWhole := by
  intro p hp
  by_cases h : IsMistyped members name
  · rw [problemsOf_of_mistyped h] at hp
    rw [List.mem_singleton.mp hp]
    exact hname
  · rcases textMember_cases members name with ⟨h', -⟩ | ⟨-, -, ⟨t, ht⟩, -⟩ | ⟨t, -, -, -, -, ht, -⟩
    · exact absurd h' h
    · rw [problemsOf_of_ok ht] at hp
      cases hp
    · rw [problemsOf_of_ok ht] at hp
      cases hp

/-- What a malformed body is turned away with, unless it is nested too deeply. -/
theorem readSubmission_of_malformed {body : List UInt8} (h : Malformed body depth)
    (hdeep : ¬ TooDeep body depth) :
    ∃ details : Details, details.IsGiven ∧ details.IsWhole ∧
      readSubmission body depth = .error (malformed details) := by
  cases h with
  | @unread e h =>
      have hvalue : (Fault.json e).isValue := by
        cases e with
        | depth nesting => exact absurd ⟨nesting, h⟩ hdeep
        | _ => simp [Fault.isValue, Fault.kind, Fault.valueKinds]
      refine ⟨.text e.message.toList, e.message_ne_nil, Json.isWhole_of_readBytes h, ?_⟩
      rw [readSubmission, h]
      simp only
      rw [if_pos hvalue]
      rfl
  | @notObject v h hv =>
      refine ⟨.fields [([], .notObject)], by simp [Details.IsGiven], ?_, ?_⟩
      · rintro p hp
        rw [List.mem_singleton.mp hp]
        exact Text.isWhole_nil
      · cases v with
        | object members => exact absurd rfl (hv members)
        | _ =>
            rw [readSubmission, h]
            rfl
  | @mistyped members name h hname hv =>
      have hproblems : problemsOf members "contractAddress" ++ problemsOf members "sourceCode" ≠
          [] := by
        rw [submissionFields, List.mem_cons, List.mem_singleton] at hname
        rcases hname with rfl | rfl
        · rw [problemsOf_of_mistyped hv]
          exact List.cons_ne_nil _ _
        · rw [problemsOf_of_mistyped hv]
          exact List.append_ne_nil_of_right_ne_nil _ (List.cons_ne_nil _ _)
      refine ⟨.fields _, hproblems, ?_, ?_⟩
      · exact List.forall_mem_append.mpr
          ⟨isWhole_problemsOf members (by decide), isWhole_problemsOf members (by decide)⟩
      · rw [readSubmission, h]
        simp only [submissionOfJson]

theorem readSubmission_of_tooDeep {body : List UInt8} (h : TooDeep body depth) :
    ∃ nesting, readSubmission body depth = .error (.json (.depth nesting)) := by
  obtain ⟨nesting, h⟩ := h
  refine ⟨nesting, ?_⟩
  rw [readSubmission, h]
  cases nesting <;> rfl

/-- A body that is not malformed holds an object, and each member is lacking or a text. -/
theorem object_of_not_malformed {body : List UInt8} (h : ¬ Malformed body depth) :
    ∃ members, Json.readBytes body depth = .ok (.object members) ∧
      ∀ name ∈ submissionFields, ¬ IsMistyped members name := by
  cases hread : Json.readBytes body depth with
  | error e => exact absurd (.unread hread) h
  | ok v =>
      by_cases hobject : ∃ members, v = .object members
      · obtain ⟨members, rfl⟩ := hobject
        exact ⟨members, rfl, fun name hname hv => h (.mistyped hread hname hv)⟩
      · exact absurd (.notObject hread fun members hv => hobject ⟨members, hv⟩) h

theorem readSubmission_of_lacks {body : List UInt8} (h : ¬ Malformed body depth)
    (hlacks : Lacks body depth) : readSubmission body depth = .error missingFields := by
  obtain ⟨members, hread, htyped⟩ := object_of_not_malformed h
  obtain ⟨members', hread', name, hname, hlacking⟩ := hlacks
  obtain rfl : members' = members := by
    rw [hread] at hread'
    exact (Json.object.inj (Except.ok.inj hread')).symm
  have hproblems : ∀ name ∈ submissionFields, problemsOf members' name = [] := by
    intro name hname
    rcases textMember_cases members' name with ⟨hv, -⟩ | ⟨-, -, ⟨t, ht⟩, -⟩ |
      ⟨t, -, -, -, -, ht, -⟩
    · exact absurd hv (htyped name hname)
    · exact problemsOf_of_ok ht
    · exact problemsOf_of_ok ht
  have hmissing : givenText? members' name = none := by
    rcases textMember_cases members' name with ⟨hv, -⟩ | ⟨-, -, -, hgiven⟩ | ⟨t, -, -, -, hnot, -⟩
    · exact absurd hv (htyped name hname)
    · exact hgiven
    · exact absurd hlacking hnot
  rw [readSubmission, hread]
  simp only [submissionOfJson, hproblems "contractAddress" (by decide),
    hproblems "sourceCode" (by decide), List.append_nil]
  rw [submissionFields, List.mem_cons, List.mem_singleton] at hname
  rcases hname with rfl | rfl
  · rw [hmissing]
  · rw [hmissing]
    cases givenText? members' "contractAddress" <;> rfl

theorem submits_of_not_lacks {r : Request} (hmethod : r.method = "POST".toList)
    (hpath : r.path = contractPath.toList) (h : ¬ Malformed r.body depth)
    (hlacks : ¬ Lacks r.body depth) : ∃ address source, r.Submits depth address source := by
  obtain ⟨members, hread, htyped⟩ := object_of_not_malformed h
  have hgiven : ∀ name ∈ submissionFields, ∃ t, t ≠ [] ∧
      Association.get? name.toList members = some (.text t) := by
    intro name hname
    rcases textMember_cases members name with ⟨hv, -⟩ | ⟨hlacking, -⟩ | ⟨t, ht, hget, -⟩
    · exact absurd hv (htyped name hname)
    · exact absurd ⟨members, hread, name, hname, hlacking⟩ hlacks
    · exact ⟨t, ht, hget⟩
  obtain ⟨address, haddress, hgetAddress⟩ := hgiven "contractAddress" (by decide)
  obtain ⟨source, hsource, hgetSource⟩ := hgiven "sourceCode" (by decide)
  exact ⟨address, source, hmethod, hpath, haddress, hsource, members, hread, hgetAddress,
    hgetSource⟩

/-- A body that submits something is neither malformed nor does it lack anything. -/
theorem Request.Submits.passes {r : Request} {address source : Text}
    (h : r.Submits depth address source) : ¬ Malformed r.body depth ∧ ¬ Lacks r.body depth := by
  obtain ⟨-, -, haddress, hsource, members, hread, hgetAddress, hgetSource⟩ := h
  have hgiven : ∀ name ∈ submissionFields, ∃ t, t ≠ [] ∧
      Association.get? name.toList members = some (.text t) := by
    intro name hname
    rw [submissionFields, List.mem_cons, List.mem_singleton] at hname
    rcases hname with rfl | rfl
    · exact ⟨address, haddress, hgetAddress⟩
    · exact ⟨source, hsource, hgetSource⟩
  constructor
  · rintro (⟨h⟩ | ⟨h, hv⟩ | ⟨h, hname, v, hget, -, hv⟩)
    · rw [hread] at h
      cases h
    · rw [hread] at h
      exact hv _ (Except.ok.inj h).symm
    · rw [hread] at h
      obtain rfl := Json.object.inj (Except.ok.inj h)
      obtain ⟨t, -, hgiven⟩ := hgiven _ hname
      rw [hgiven] at hget
      exact hv t (Option.some.inj hget).symm
  · rintro ⟨members', h, name, hname, hlacking⟩
    rw [hread] at h
    obtain rfl := Json.object.inj (Except.ok.inj h)
    obtain ⟨t, ht, hget⟩ := hgiven _ hname
    rcases hlacking _ hget with h | h
    · cases h
    · exact ht (Json.text.inj h)

end Web

/-! ## One fault more -/

namespace Tracker

/-- How many faults of a kind were counted. -/
def count (t : Tracker) (kind : String) : Nat := (Association.get? kind t.counts).getD 0

/-- The second tracker is the first one with one record and one count more. Only so many records
are remembered, the last ones. -/
structure Gains (t t' : Tracker) (record : ErrorRecord) : Prop where
  maxErrors : t'.maxErrors = t.maxErrors
  records : t'.records = (t.records ++ [record]).rtake t.maxErrors.toNat
  count : t'.count record.kind = t.count record.kind + 1
  others : ∀ kind, kind ≠ record.kind → t'.count kind = t.count kind

theorem gains_track {t : Tracker} (h : 0 < t.maxErrors) (f : Fault) (path : Option Text)
    (now : Text) : t.Gains (t.track f path now) (ErrorRecord.ofFault f path now) where
  maxErrors := rfl
  records := by
    have hexcess : ∀ n, excess t.maxErrors n = n - t.maxErrors.toNat := by
      intro n
      rw [excess, if_pos h]
      split <;> omega
    rw [track, hexcess, List.rtake]
  count := by
    show (Association.get? f.kind (Association.put f.kind _ t.counts)).getD 0 = _
    rw [Association.get?_put]
    rfl
  others kind hkind := by
    have hne : kind ≠ f.kind := hkind
    show (Association.get? kind (Association.put f.kind _ t.counts)).getD 0 = _
    rw [Association.get?_put_of_ne hne]
    rfl

end Tracker

namespace Web

/-! ## The service that is asked -/

/-- The service, with a note of each address and source that it is asked to verify. -/
def Service.noting {σ : Type} (service : Service σ) : Service (σ × List (Text × Text)) where
  verify address source s :=
    ((service.verify address source s.1).1,
      (service.verify address source s.1).2, s.2 ++ [(address, source)])
  status address s := ((service.status address s.1).1, (service.status address s.1).2, s.2)

/-- The answer to a body that is malformed. -/
def malformedAnswer (details : Details) (now : Text) : Answer where
  status := 500
  content := some (.ofMembers [("success", .bool false), ("error", .string "Error processing request"),
    ("code", .string "INTERNAL_ERROR"), ("details", details.toJson), ("timestamp", .text now)])

/-- The answer to a body that lacks something. -/
def lackingAnswer (now : Text) : Answer where
  status := 400
  content := some (.ofMembers [("success", .bool false),
    ("error", .string "Missing required fields: contractAddress and sourceCode"),
    ("code", .string "VALIDATION_ERROR"), ("timestamp", .text now)])

namespace App

variable {σ : Type} {a : App} {service : Service σ} {now : Text} {r : Request} {s : σ}

/-- What was asked of the service when a request was answered. -/
def asked (a : App) (service : Service σ) (now : Text) (r : Request) (s : σ) :
    List (Text × Text) :=
  (a.handle service.noting now r (s, [])).2.2.2

/-- The request is turned away: the service is not asked and stays as it is, and all that changes
is that one fault of the kind is tracked, under the path of the request. -/
structure TurnsAway (a : App) (service : Service σ) (now : Text) (r : Request) (s : σ)
    (kind : String) : Prop where
  unasked : a.asked service now r s = []
  state : (a.handle service now r s).2.2 = s
  config : (a.handle service now r s).2.1.config = a.config
  registry : (a.handle service now r s).2.1.registry = a.registry
  gains : ∃ record, record.kind = kind ∧ record.path = some r.path ∧
    a.tracker.Gains (a.handle service now r s).2.1.tracker record

/-- Taking notes changes nothing else. -/
theorem handle_noting (a : App) (service : Service σ) (now : Text) (r : Request) (s : σ)
    (notes : List (Text × Text)) :
    let noted := a.handle service.noting now r (s, notes)
    (noted.1, noted.2.1, noted.2.2.1) = a.handle service now r s := by
  intro noted
  simp only [noted]
  -- a note is made where the service is asked, and its answer goes the same way with and without
  unfold handle
  cases endpoint r.method r.path with
  | error stray => rfl
  | ok e =>
      cases e with
      | submit =>
          simp only [serve, submit]
          rcases readSubmission r.body a.depth with fault | ⟨address, source⟩
          · rfl
          · simp only [Service.noting]
            rcases service.verify address source s with ⟨fault | body, s'⟩
            · rfl
            · simp only
              cases Answer.ofResult (body.insert "timestamp" (.text now)) <;> rfl
      | status =>
          simp only [serve, status]
          rcases readAddress r with fault | address
          · rfl
          · simp only [Service.noting]
            rcases service.status address s with ⟨fault | body, s'⟩
            · rfl
            · simp only
              split_ifs
              · cases Answer.ofResult (body.insert "timestamp" (.text now)) <;> rfl
              · cases Answer.ofJson 500 (body.insert "timestamp" (.text now)) <;> rfl
      | health =>
          simp only [serve]
          cases Answer.ofResult (a.health now) <;> rfl

/-- The kind of the fault is told by what was counted. -/
theorem TurnsAway.unique {kind kind' : String} (h : a.TurnsAway service now r s kind)
    (h' : a.TurnsAway service now r s kind') : kind = kind' := by
  obtain ⟨record, rfl, -, hgains⟩ := h.gains
  obtain ⟨record', rfl, -, hgains'⟩ := h'.gains
  by_contra hne
  have hcount := hgains.count
  rw [hgains'.others _ hne] at hcount
  omega

/-- An expected fault whose answer can be sent. -/
theorem fail_of_sent {fault : Fault} (hexpected : (Answer.ofFault now fault).escaped = none)
    (h : (Answer.ofFault now fault).fault? = none) :
    a.fail now r fault = (Answer.ofFault now fault, a.track now r fault) := by
  simp only [fail, hexpected, h]

/-- A fault that nobody expected is answered and tracked like any other, unless the service is
debugged. -/
theorem fail_eq_of_surprises {fault : Fault} (h : Surprises now fault) :
    a.fail now r fault = if a.config.debug then (Answer.ofTrace r.accept fault, a)
      else (Answer.ofFault now fault, a.track now r fault) := by
  rw [fail_of_surprises h, surprise]

theorem handle_of_unread {fault : Fault} (hmethod : r.method = "POST".toList)
    (hpath : r.path = contractPath.toList) (h : readSubmission r.body a.depth = .error fault) :
    a.handle service now r s = ((a.fail now r fault).1, (a.fail now r fault).2, s) := by
  have hendpoint : endpoint r.method r.path = .ok .submit := by
    rw [hmethod, hpath]
    rfl
  rw [handle, hendpoint]
  simp only [serve, submit, h]

/-- A body that is not read is turned away. -/
theorem turnsAway_of_unread {fault : Fault} (hmethod : r.method = "POST".toList)
    (hpath : r.path = contractPath.toList) (hmax : 0 < a.tracker.maxErrors)
    (h : readSubmission r.body a.depth = .error fault)
    (hfail : a.fail now r fault = (Answer.ofFault now fault, a.track now r fault)) :
    (a.handle service now r s).1 = Answer.ofFault now fault ∧
      a.TurnsAway service now r s fault.kind := by
  have hhandle : a.handle service now r s = (Answer.ofFault now fault, a.track now r fault, s) := by
    rw [handle_of_unread hmethod hpath h, hfail]
  refine ⟨congrArg Prod.fst hhandle, ?_, ?_, ?_, ?_, ErrorRecord.ofFault fault (some r.path) now,
    rfl, rfl, ?_⟩
  · rw [asked, handle_of_unread hmethod hpath h]
  · rw [hhandle]
  · rw [hhandle, track]
  · rw [hhandle, track]
  · have hknown : knownPath r.path = r.path := by
      rw [hpath]
      decide
    rw [hhandle, track, hknown]
    exact Tracker.gains_track hmax fault (some r.path) now

theorem fault?_ofFault_service {e : ServiceError} (h : (e.body now).checkWritable = .ok ()) :
    (Answer.ofFault now (.service e)).fault? = none := by
  simp only [Answer.fault?, Answer.ofFault, Option.map_some, h]

/-- A service that is asked is left as verifying leaves it. -/
theorem state_of_submits {address source : Text} (h : r.Submits a.depth address source) :
    (a.handle service now r s).2.2 = (service.verify address source s).2 := by
  rw [handle, h.endpoint]
  simp only [serve, submit, h.read]
  rcases service.verify address source s with ⟨fault | body, s'⟩
  · rfl
  · simp only
    cases Answer.ofResult (body.insert "timestamp" (.text now)) <;> rfl

/-- **The gate for submissions.** A body that is malformed or lacks something is turned away, with
a fault of the verifier's own unless the body is nested too deeply; any other body submits an
address and a source, and the service is asked to verify just these, once. A body that is nested too
deeply is turned away with a fault that escapes, or, while the service is debugged, answered with a
page and not tracked. -/
theorem handle_gate (a : App) (service : Service σ) (s : σ) (hmethod : r.method = "POST".toList)
    (hpath : r.path = contractPath.toList) (hnow : now.IsWhole) (hmax : 0 < a.tracker.maxErrors) :
    let answered := a.handle service now r s
    (Malformed r.body a.depth → ¬ TooDeep r.body a.depth → ∃ details : Details, details.IsGiven ∧
      answered.1 = malformedAnswer details now ∧
      a.TurnsAway service now r s "RequestProcessingError") ∧
    (TooDeep r.body a.depth → ∃ fault : Fault, fault.kind = "RecursionError" ∧
      (a.config.debug = false → (∃ details : Details, details.IsGiven ∧
          answered.1 = { malformedAnswer details now with escaped := some fault }) ∧
        a.TurnsAway service now r s "RecursionError") ∧
      (a.config.debug = true → answered = (Answer.ofTrace r.accept fault, a, s) ∧
        a.asked service now r s = [])) ∧
    (¬ Malformed r.body a.depth → Lacks r.body a.depth →
      answered.1 = lackingAnswer now ∧ a.TurnsAway service now r s "ValidationError") ∧
    (¬ Malformed r.body a.depth → ¬ Lacks r.body a.depth →
      ∃ address source, r.Submits a.depth address source ∧
        a.asked service now r s = [(address, source)] ∧
        answered.2.2 = (service.verify address source s).2) := by
  intro answered
  refine ⟨fun h hdeep => ?_, fun hdeep => ?_, fun h hlacks => ?_, fun h hlacks => ?_⟩
  · obtain ⟨details, hgiven, hwhole, hread⟩ := readSubmission_of_malformed h hdeep
    have hmessage : Text.IsWhole "Error processing request".toList := by decide
    have hsent := fault?_ofFault_service (ServiceError.checkWritable_body
      (e := .processing (some details)) hmessage
      (fun d hd => by cases hd; exact hwhole) hnow)
    obtain ⟨hanswer, haway⟩ :=
      turnsAway_of_unread hmethod hpath hmax hread (fail_of_sent rfl hsent)
    exact ⟨details, hgiven, hanswer, haway⟩
  · obtain ⟨nesting, hread⟩ := readSubmission_of_tooDeep hdeep
    have hsurprises : Surprises now (.json (.depth nesting)) := ⟨rfl, rfl⟩
    have hfail := fail_eq_of_surprises (a := a) (r := r) hsurprises
    refine ⟨.json (.depth nesting), rfl, fun hdebug => ?_, fun hdebug => ?_⟩
    · -- answered like any other fault, so the gate turns the body away
      rw [hdebug, if_neg Bool.false_ne_true] at hfail
      obtain ⟨hanswer, haway⟩ := turnsAway_of_unread hmethod hpath hmax hread hfail
      exact ⟨⟨.text (Fault.json (.depth nesting)).describe,
        Fault.describe_ne_nil_of_named trivial, hanswer⟩, haway⟩
    · rw [hdebug, if_pos rfl] at hfail
      constructor
      · rw [show answered = _ from handle_of_unread hmethod hpath hread, hfail]
      · rw [asked, handle_of_unread hmethod hpath hread]
  · have hread := readSubmission_of_lacks h hlacks
    have hsent := fault?_ofFault_service (ServiceError.checkWritable_body
      (e := .validation "Missing required fields: contractAddress and sourceCode".toList none)
      (by decide) nofun hnow)
    exact turnsAway_of_unread hmethod hpath hmax hread (fail_of_sent rfl hsent)
  · obtain ⟨address, source, hsubmits⟩ := submits_of_not_lacks hmethod hpath h hlacks
    refine ⟨address, source, hsubmits, ?_, state_of_submits hsubmits⟩
    rw [asked, state_of_submits hsubmits]
    rfl

/-- A submission with this body. -/
def posting (body : String) : Request :=
  { Verifier.submitting with body := Utf8.encode body.toList }

/-- What is read is no JSON text. -/
def breaksOff : Except Json.ReadError Json → Bool
  | .error (.syntaxError _) => true
  | _ => false

theorem exists_of_breaksOff (read : Except Json.ReadError Json) (h : breaksOff read) :
    ∃ e, read = .error (.syntaxError e) := by
  cases read with
  | ok v => cases h
  | error e =>
      cases e with
      | syntaxError e => exact ⟨e, rfl⟩
      | _ => cases h

/-- A body that breaks off and one without members are turned away, and a service is asked about
a small contract. -/
theorem handle_gate_small :
    let explorer := Explorer.answering ⟨200, [], Utf8.encode "[1]".toList⟩ ⟨404, [], []⟩
    let service := Verifier.nearby.toService Verifier.bare explorer
    let s := Verifier.nearby.newSession ⟨[]⟩
    let a := Verifier.plain
    ((∀ body, (posting body).method = "POST".toList ∧ (posting body).path = contractPath.toList) ∧
        Text.IsWhole ['t'] ∧ 0 < a.tracker.maxErrors) ∧
      (Malformed (posting "\x7b").body a.depth ∧
        a.TurnsAway service ['t'] (posting "\x7b") s "RequestProcessingError") ∧
      (Lacks (posting "\x7b\x7d").body a.depth ∧
        a.TurnsAway service ['t'] (posting "\x7b\x7d") s "ValidationError") ∧
      a.asked service ['t'] Verifier.submitting s = [("0xa".toList, "contract M".toList)] := by
  intro explorer service s a
  have hwhole : Text.IsWhole ['t'] := by decide
  have hmax : 0 < a.tracker.maxErrors := by decide
  obtain ⟨e, hunread⟩ := exists_of_breaksOff (Json.readBytes (posting "\x7b").body a.depth)
    (by decide +kernel)
  have hempty : Json.readBytes (posting "\x7b\x7d").body a.depth = .ok (.object []) :=
    Verifier.readBytes_of_textsOf? _ [] a.depth (by decide +kernel)
  have hdeep : ¬ TooDeep (posting "\x7b").body a.depth := by
    rintro ⟨nesting, h⟩
    rw [hunread] at h
    cases h
  have hlacks : Lacks (posting "\x7b\x7d").body a.depth :=
    ⟨[], hempty, "sourceCode", by decide, by rintro _ ⟨⟩⟩
  have htyped : ¬ Malformed (posting "\x7b\x7d").body a.depth := by
    rintro (⟨h⟩ | ⟨h, hv⟩ | ⟨h, -, hv⟩)
    · rw [hempty] at h
      cases h
    · rw [hempty] at h
      exact hv _ (Except.ok.inj h).symm
    · rw [hempty] at h
      obtain rfl := Json.object.inj (Except.ok.inj h)
      obtain ⟨v, hget, -⟩ := hv
      cases hget
  have hsubmits := Verifier.submits_submitting
  refine ⟨⟨fun _ => ⟨rfl, rfl⟩, hwhole, hmax⟩, ⟨.unread hunread, ?_⟩, ⟨hlacks, ?_⟩, ?_⟩
  · obtain ⟨_, -, -, haway⟩ :=
      (handle_gate a service s rfl rfl hwhole hmax).1 (.unread hunread) hdeep
    exact haway
  · exact ((handle_gate a service s rfl rfl hwhole hmax).2.2.1 htyped hlacks).2
  · obtain ⟨address, source, hsubmits', hasked, -⟩ :=
      (handle_gate a service s rfl rfl hwhole hmax).2.2.2 hsubmits.passes.1 hsubmits.passes.2
    have hsame := hsubmits.read.symm.trans hsubmits'.read
    rw [hasked, ← Except.ok.inj hsame]

/-- Brackets that are nested too deeply are malformed, and not turned away as such, whether the
service is debugged or not. -/
theorem brackets_escape :
    let service := Verifier.nearby.toService Verifier.bare
      (Explorer.answering ⟨200, [], []⟩ ⟨404, [], []⟩)
    let s := Verifier.nearby.newSession ⟨[]⟩
    let r := { Verifier.submitting with body := List.replicate 5000 0x5B }
    let released : App := { Verifier.plain with config := { debug := false } }
    let debugged := Verifier.plain
    Malformed r.body Json.usualDepth ∧
      ¬ released.TurnsAway service ['t'] r s "RequestProcessingError" ∧
      ¬ debugged.TurnsAway service ['t'] r s "RequestProcessingError" := by
  intro service s r released debugged
  have hdeep : TooDeep r.body Json.usualDepth := ⟨.array, Json.readBytes_brackets (by decide)⟩
  obtain ⟨nesting, hread⟩ := readSubmission_of_tooDeep hdeep
  let fault : Fault := .json (.depth nesting)
  have hsurprises : Surprises ['t'] fault := ⟨rfl, rfl⟩
  refine ⟨hdeep.malformed, fun haway' => ?_, fun haway' => ?_⟩
  · have hfail : released.fail ['t'] r fault =
        (Answer.ofFault ['t'] fault, released.track ['t'] r fault) :=
      fail_eq_of_surprises hsurprises
    have hmax : 0 < released.tracker.maxErrors := by decide
    have haway : released.TurnsAway service ['t'] r s "RecursionError" :=
      (turnsAway_of_unread rfl rfl hmax hread hfail).2
    have hkind : "RecursionError" = "RequestProcessingError" := haway.unique haway'
    simp at hkind
  · -- nothing is tracked, and one more fault should have been
    have hsame : (debugged.handle service ['t'] r s).2.1 = debugged := by
      have hhandle : debugged.handle service ['t'] r s =
          ((debugged.fail ['t'] r fault).1, (debugged.fail ['t'] r fault).2, s) :=
        handle_of_unread rfl rfl hread
      rw [hhandle, fail_eq_of_surprises hsurprises]
      rfl
    obtain ⟨record, -, -, hgains⟩ := haway'.gains
    have hcount := hgains.count
    rw [hsame] at hcount
    omega

end App

end Web

end ContractVerifier
