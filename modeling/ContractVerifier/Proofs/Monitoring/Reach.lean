import ContractVerifier.Monitoring.Scrub
import ContractVerifier.Url.Escape
import Mathlib.Data.List.Forall2
import Mathlib.Tactic

set_option autoImplicit false

/-! # What scrubbing reaches

A value is sensitive if it stands under a sensitive name, however deep in an event, or is the value
of a parameter with such a name in the query of the request. `concealEvent` takes all of these out
of an event. `scrub` does not go that far: `scrub_eq_iff` tells for any two events when their
scrubbed forms are the same, and `scrub_reveals` shows what is left in them.
-/

namespace ContractVerifier.Monitoring

/-! ## All sensitive values -/

/-- A name under which a value is sensitive. -/
def IsSensitive (name : Text) : Prop := sensitiveNames.any (·.toList = name)

instance : DecidablePred IsSensitive := fun _ => inferInstanceAs (Decidable (_ = true))

mutual

/-- A value without the sensitive values in it, at any depth. -/
def conceal : Json → Json
  | .list items => .list (concealItems items)
  | .object members => .object (concealMembers members)
  | v => v

/-- `conceal` of all items. -/
def concealItems : List Json → List Json
  | [] => []
  | v :: rest => conceal v :: concealItems rest

/-- `conceal` of all members, but for those under a sensitive name. -/
def concealMembers : List (Text × Json) → List (Text × Json)
  | [] => []
  | (name, v) :: rest =>
    (name, if IsSensitive name then .null else conceal v) :: concealMembers rest

end

/-- A parameter of a query, without its value if its name is sensitive. -/
def concealParameter (parameter : Text) : Text :=
  match Text.cut? ['='] parameter with
  | some (name, _) => if IsSensitive (Url.Form.decode name) then name ++ ['='] else parameter
  | none => parameter

/-- A query without the values of its sensitive parameters. -/
def concealQuery (query : Text) : Text :=
  Text.join ['&'] ((Text.split '&' query).map concealParameter)

/-- A request without the values of the sensitive parameters of its query. -/
def concealParameters (request : List (Text × Json)) : List (Text × Json) :=
  request.map fun m =>
    match m with
    | (name, .text query) =>
      if name = "query_string".toList then (name, .text (concealQuery query)) else m
    | _ => m

/-- An event without all sensitive values. -/
def concealEvent (event : Json) : Json :=
  match event.member? "request" with
  | some (.object request) => conceal (event.insert "request" (.object (concealParameters request)))
  | _ => conceal event

/-! ## The values that scrubbing reaches -/

/-- Members that are the same but for the values under sensitive names. -/
def SameButSensitive (data data' : List (Text × Json)) : Prop :=
  List.Forall₂ (fun m m' => m.1 = m'.1 ∧ (IsSensitive m.1 ∨ m.2 = m'.2)) data data'

/-- A query that is filtered out, or was. -/
def IsHidden (v : Json) : Prop :=
  v = filtered ∨ ∃ query, v = .text query ∧ Text.occursIn "contractSourceCode".toList query = true

/-- Members of two requests that differ at most where scrubbing reaches: in the sensitive ones
among the data's own members, or in queries that both carry a source. -/
inductive Reached : Text × Json → Text × Json → Prop
  | same (m : Text × Json) : Reached m m
  | data {data data' : List (Text × Json)} (h : SameButSensitive data data') :
      Reached ("data".toList, .object data) ("data".toList, .object data')
  | query {v v' : Json} (h : IsHidden v) (h' : IsHidden v') :
      Reached ("query_string".toList, v) ("query_string".toList, v')

/-- Whether a value is an event: it is an object, and so is its request if it has one. -/
def isEvent : Json → Bool
  | .object members =>
    match Association.get? "request".toList members with
    | none => true
    | some (.object _) => true
    | some _ => false
  | _ => false

/-- Two events that differ at most where scrubbing reaches. -/
def SameBeyondReach (event event' : Json) : Prop :=
  event = event' ∨
    event.insert "request" .null = event'.insert "request" .null ∧
      ∃ request request', event.member? "request" = some (.object request) ∧
        event'.member? "request" = some (.object request') ∧
        List.Forall₂ Reached request request'

/-! ## Scrubbing member by member -/

theorem map_eq_map_iff_forall₂ {α β : Type} (f : α → β) (l l' : List α) :
    l.map f = l'.map f ↔ List.Forall₂ (fun a a' => f a = f a') l l' := by
  rw [← List.forall₂_eq_eq_eq, List.forall₂_map_left_iff, List.forall₂_map_right_iff]

/-- One member of a request's data, scrubbed. -/
def scrubField (m : Text × Json) : Text × Json :=
  if sensitiveNames.any (·.toList = m.1) then (m.1, filtered) else m

theorem scrubField_of_sensitive {m : Text × Json} (h : IsSensitive m.1) :
    scrubField m = (m.1, filtered) :=
  if_pos h

theorem scrubField_of_not_sensitive {m : Text × Json} (h : ¬ IsSensitive m.1) :
    scrubField m = m :=
  if_neg h

theorem fst_scrubField (m : Text × Json) : (scrubField m).1 = m.1 := by
  by_cases h : IsSensitive m.1
  · rw [scrubField_of_sensitive h]
  · rw [scrubField_of_not_sensitive h]

theorem scrubField_eq_iff (m m' : Text × Json) :
    scrubField m = scrubField m' ↔ m.1 = m'.1 ∧ (IsSensitive m.1 ∨ m.2 = m'.2) := by
  constructor
  · intro h
    have hname : m.1 = m'.1 := by
      rw [← fst_scrubField m, h, fst_scrubField]
    refine ⟨hname, ?_⟩
    by_cases hsensitive : IsSensitive m.1
    · exact .inl hsensitive
    · rw [scrubField_of_not_sensitive hsensitive,
        scrubField_of_not_sensitive (hname ▸ hsensitive)] at h
      exact .inr (congrArg Prod.snd h)
  · rintro ⟨hname, hsensitive | hvalue⟩
    · rw [scrubField_of_sensitive hsensitive, scrubField_of_sensitive (hname ▸ hsensitive), hname]
    · rw [Prod.ext hname hvalue]

/-- Data are the same once they are scrubbed if and only if they differ in sensitive values. -/
theorem scrubData_eq_iff (data data' : List (Text × Json)) :
    scrubData data = scrubData data' ↔ SameButSensitive data data' := by
  have hdata : ∀ data, scrubData data = data.map scrubField := fun _ => rfl
  rw [hdata, hdata, map_eq_map_iff_forall₂, SameButSensitive]
  simp only [scrubField_eq_iff]

/-- One member of a request, scrubbed. -/
def scrubPart : Text × Json → Text × Json
  | (name, .object data) => (name, .object (if name = "data".toList then scrubData data else data))
  | (name, .text query) =>
    (name, if name = "query_string".toList ∧ Text.occursIn "contractSourceCode".toList query then
      filtered else .text query)
  | m => m

theorem scrubRequest_eq (request : List (Text × Json)) :
    scrubQuery (scrubRequestData request) = request.map scrubPart := by
  rw [scrubQuery, scrubRequestData, List.map_map]
  refine List.map_congr_left fun m _ => ?_
  obtain ⟨name, v⟩ := m
  cases v with
  | object data =>
      by_cases hname : name = "data".toList
      · simp only [Function.comp_apply, scrubPart, if_pos hname]
      · simp only [Function.comp_apply, scrubPart, if_neg hname]
  | text query =>
      by_cases hquery : name = "query_string".toList ∧
          Text.occursIn "contractSourceCode".toList query = true
      · simp only [Function.comp_apply, scrubPart, if_pos hquery]
      · simp only [Function.comp_apply, scrubPart, if_neg hquery]
  | _ => rfl

/-- A query that does not speak of the source stays. -/
theorem scrubPart_query {query : Text}
    (h : Text.occursIn "contractSourceCode".toList query = false) :
    scrubPart ("query_string".toList, .text query) = ("query_string".toList, .text query) := by
  rw [scrubPart, if_neg fun hoccurs => Bool.false_ne_true (h.symm.trans hoccurs.2)]

/-- A member of a request is scrubbed as data or as a query, or stays. -/
theorem scrubPart_cases (m : Text × Json) :
    (∃ data, m = ("data".toList, .object data) ∧
        scrubPart m = ("data".toList, .object (scrubData data))) ∨
      (∃ v, m = ("query_string".toList, v) ∧ IsHidden v ∧
        scrubPart m = ("query_string".toList, filtered)) ∨
      scrubPart m = m ∧ (∀ data, m ≠ ("data".toList, .object data)) ∧
        ∀ v, IsHidden v → m ≠ ("query_string".toList, v) := by
  obtain ⟨name, v⟩ := m
  cases v with
  | object data =>
      by_cases hname : name = "data".toList
      · subst hname
        refine .inl ⟨data, rfl, ?_⟩
        rw [scrubPart, if_pos rfl]
      · refine .inr (.inr ⟨?_, fun data' h => hname (congrArg Prod.fst h), ?_⟩)
        · rw [scrubPart, if_neg hname]
        · rintro v (rfl | ⟨query, rfl, -⟩) h
          · cases h
          · cases h
  | text query =>
      have hdata : ∀ data, (name, Json.text query) ≠ ("data".toList, .object data) := by
        intro data h
        cases congrArg Prod.snd h
      by_cases hoccurs : name = "query_string".toList ∧
          Text.occursIn "contractSourceCode".toList query = true
      · obtain ⟨rfl, hoccurs⟩ := hoccurs
        refine .inr (.inl ⟨_, rfl, .inr ⟨query, rfl, hoccurs⟩, ?_⟩)
        rw [scrubPart, if_pos ⟨rfl, hoccurs⟩]
      · have hstays : scrubPart (name, .text query) = (name, .text query) := by
          rw [scrubPart, if_neg hoccurs]
        by_cases hfiltered : name = "query_string".toList ∧ Json.text query = filtered
        · obtain ⟨rfl, hfiltered⟩ := hfiltered
          exact .inr (.inl ⟨_, rfl, .inl hfiltered, hfiltered ▸ hstays⟩)
        · refine .inr (.inr ⟨hstays, hdata, ?_⟩)
          rintro v (rfl | ⟨query', rfl, hoccurs'⟩) h
          · obtain ⟨rfl, hv⟩ := Prod.mk.inj h
            exact hfiltered ⟨rfl, hv⟩
          · obtain ⟨rfl, hv⟩ := Prod.mk.inj h
            obtain rfl := Json.text.inj hv
            exact hoccurs ⟨rfl, hoccurs'⟩
  | _ =>
      refine .inr (.inr ⟨rfl, fun data h => ?_, ?_⟩)
      · cases congrArg Prod.snd h
      · rintro v (rfl | ⟨query, rfl, -⟩) h
        · cases congrArg Prod.snd h
        · cases congrArg Prod.snd h

theorem isHidden_filtered : IsHidden filtered := .inl rfl

/-- Members of requests are the same once they are scrubbed if and only if they differ at most
where scrubbing reaches. -/
theorem scrubPart_eq_iff (m m' : Text × Json) : scrubPart m = scrubPart m' ↔ Reached m m' := by
  have hnames : ("data".toList : Text) ≠ "query_string".toList := by simp
  constructor
  · intro h
    rcases scrubPart_cases m with ⟨data, rfl, hm⟩ | ⟨v, rfl, hv, hm⟩ | ⟨hm, hdata, hquery⟩ <;>
      rcases scrubPart_cases m' with ⟨data', rfl, hm'⟩ | ⟨v', rfl, hv', hm'⟩ |
        ⟨hm', hdata', hquery'⟩ <;>
      rw [hm, hm'] at h
    case inl.inl =>
      have hscrubbed := Json.object.inj (congrArg Prod.snd h)
      exact .data ((scrubData_eq_iff data data').mp hscrubbed)
    case inl.inr.inl => exact absurd (congrArg Prod.fst h) hnames
    case inl.inr.inr => exact absurd h.symm (hdata' _)
    case inr.inl.inl => exact absurd (congrArg Prod.fst h).symm hnames
    case inr.inl.inr.inl => exact .query hv hv'
    case inr.inl.inr.inr => exact absurd h.symm (hquery' _ isHidden_filtered)
    case inr.inr.inl => exact absurd h (hdata _)
    case inr.inr.inr.inl => exact absurd h (hquery _ isHidden_filtered)
    case inr.inr.inr.inr => exact h ▸ .same m
  · rintro (⟨m⟩ | ⟨hdata⟩ | ⟨hv, hv'⟩)
    · rfl
    · rw [scrubPart, scrubPart, if_pos rfl, if_pos rfl, (scrubData_eq_iff _ _).mpr hdata]
    · have hhidden : ∀ {v}, IsHidden v →
          scrubPart ("query_string".toList, v) = ("query_string".toList, filtered) := by
        intro v hv
        rcases scrubPart_cases ("query_string".toList, v) with ⟨_, h, -⟩ | ⟨_, -, -, h⟩ | ⟨-, -, h⟩
        · exact absurd (congrArg Prod.fst h).symm hnames
        · exact h
        · exact absurd rfl (h v hv)
      rw [hhidden hv, hhidden hv']

/-! ## Scrubbing events -/

theorem put_put {α β : Type} [DecidableEq α] (key : α) (v w : β) (pairs : List (α × β)) :
    Association.put key v (Association.put key w pairs) = Association.put key v pairs := by
  induction pairs with
  | nil => simp [Association.put]
  | cons pair rest ih =>
      obtain ⟨k, x⟩ := pair
      by_cases hk : k = key
      · simp [Association.put, hk]
      · simp [Association.put, hk, ih]

/-- Two lists of pairs with a value put in are the same if the values are, and all else is. -/
theorem put_eq_put_iff {α β : Type} [DecidableEq α] {key : α} {v v' : β} (w : β)
    {pairs pairs' : List (α × β)} :
    Association.put key v pairs = Association.put key v' pairs' ↔
      v = v' ∧ Association.put key w pairs = Association.put key w pairs' := by
  constructor
  · intro h
    have hvalue := congrArg (Association.get? key) h
    have hrest := congrArg (Association.put key w) h
    rw [Association.get?_put, Association.get?_put] at hvalue
    rw [put_put, put_put] at hrest
    exact ⟨Option.some.inj hvalue, hrest⟩
  · rintro ⟨rfl, hrest⟩
    rw [← put_put key v w pairs, hrest, put_put]

theorem scrub_of_no_request {members : List (Text × Json)}
    (h : Association.get? "request".toList members = none) :
    scrub (.object members) = .ok (.object members) := by
  simp only [scrub, member?, h]
  rfl

theorem scrub_of_request {members request : List (Text × Json)}
    (h : Association.get? "request".toList members = some (.object request)) :
    scrub (.object members) =
      .ok (.object (Association.put "request".toList (.object (request.map scrubPart)) members)) := by
  simp only [scrub, member?, h]
  rw [← scrubRequest_eq]
  rfl

theorem isEvent_iff {event : Json} :
    isEvent event ↔ ∃ members, event = .object members ∧
      ∀ request, Association.get? "request".toList members = some request →
        ∃ parts, request = .object parts := by
  cases event with
  | object members =>
      rw [isEvent]
      split <;> simp_all
  | _ => simp [isEvent]

theorem member?_request (members : List (Text × Json)) :
    (Json.object members).member? "request" = Association.get? "request".toList members :=
  rfl

/-- **Scrubbing hides exactly what it reaches.** Every event can be scrubbed, and two events are the
same once they are scrubbed if and only if they differ at most in the sensitive ones among the
members of the request's data, and in queries that both mention a source. -/
theorem scrub_eq_iff {event event' : Json} (h : isEvent event) (h' : isEvent event') :
    ∃ scrubbed scrubbed', scrub event = .ok scrubbed ∧ scrub event' = .ok scrubbed' ∧
      (scrubbed = scrubbed' ↔ SameBeyondReach event event') := by
  obtain ⟨members, rfl, hrequest⟩ := isEvent_iff.mp h
  obtain ⟨members', rfl, hrequest'⟩ := isEvent_iff.mp h'
  unfold SameBeyondReach
  simp only [member?_request]
  cases hget : Association.get? "request".toList members with
  | none =>
      cases hget' : Association.get? "request".toList members' with
      | none =>
          refine ⟨_, _, scrub_of_no_request hget, scrub_of_no_request hget', ?_⟩
          simp
      | some request' =>
          obtain ⟨request', rfl⟩ := hrequest' _ hget'
          refine ⟨_, _, scrub_of_no_request hget, scrub_of_request hget', ?_⟩
          constructor
          · intro heq
            -- one of the scrubbed events has a request, and the other one has none
            rw [Json.object.inj heq, Association.get?_put] at hget
            cases hget
          · rintro (heq | ⟨-, _, _, hnone, -⟩)
            · rw [Json.object.inj heq, hget'] at hget
              cases hget
            · cases hnone
  | some request =>
      obtain ⟨request, rfl⟩ := hrequest _ hget
      cases hget' : Association.get? "request".toList members' with
      | none =>
          refine ⟨_, _, scrub_of_request hget, scrub_of_no_request hget', ?_⟩
          constructor
          · intro heq
            rw [← Json.object.inj heq, Association.get?_put] at hget'
            cases hget'
          · rintro (heq | ⟨-, _, _, -, hnone, -⟩)
            · rw [Json.object.inj heq, hget'] at hget
              cases hget
            · cases hnone
      | some request' =>
          obtain ⟨request', rfl⟩ := hrequest' _ hget'
          refine ⟨_, _, scrub_of_request hget, scrub_of_request hget', ?_⟩
          have hreached : request.map scrubPart = request'.map scrubPart ↔
              List.Forall₂ Reached request request' := by
            rw [map_eq_map_iff_forall₂]
            simp only [scrubPart_eq_iff]
          rw [Json.object.injEq, put_eq_put_iff .null, Json.object.injEq, hreached]
          constructor
          · rintro ⟨hparts, hrest⟩
            exact .inr ⟨congrArg Json.object hrest, _, _, rfl, rfl, hparts⟩
          · rintro (heq | ⟨hrest, _, _, hr, hr', hparts⟩)
            · obtain rfl := Json.object.inj heq
              obtain rfl := Json.object.inj (Option.some.inj (hget.symm.trans hget'))
              exact ⟨List.forall₂_same.mpr fun m _ => .same m, rfl⟩
            · obtain rfl := Json.object.inj (Option.some.inj hr)
              obtain rfl := Json.object.inj (Option.some.inj hr')
              exact ⟨hparts, Json.object.inj hrest⟩

/-- A submission with a key for the explorer, as the monitor is told of it. -/
def submitted (key source : String) : Json :=
  .ofMembers [("level", .string "error"),
    ("request", .ofMembers [("method", .string "POST"),
      ("data", .ofMembers [("contractAddress", .string "0xa"), ("api_key", .string key),
        ("sourceCode", .string source)]),
      ("query_string", .text ("contractSourceCode=".toList ++ source.toList))])]

/-- Neither the key nor the source is left. -/
theorem scrub_submitted :
    (isEvent (submitted "k" "contract A") ∧ isEvent (submitted "l" "contract B")) ∧
      ∃ scrubbed, scrub (submitted "k" "contract A") = .ok scrubbed ∧
        scrub (submitted "l" "contract B") = .ok scrubbed := by
  have hevent : ∀ key source, isEvent (submitted key source) := by
    simp [isEvent, submitted, Json.ofMembers, Association.get?]
  obtain ⟨scrubbed, scrubbed', h, h', hiff⟩ :=
    scrub_eq_iff (hevent "k" "contract A") (hevent "l" "contract B")
  refine ⟨⟨hevent _ _, hevent _ _⟩, scrubbed, h, ?_⟩
  rw [h', hiff.mpr]
  refine .inr ⟨rfl, _, _, rfl, rfl, .cons (.same _) (.cons (.data ?_) (.cons (.query ?_ ?_) .nil))⟩
  · refine .cons ⟨rfl, .inr rfl⟩ (.cons ⟨rfl, .inl ?_⟩ (.cons ⟨rfl, .inl ?_⟩ .nil))
    · decide
    · decide
  · exact .inr ⟨_, rfl, by decide⟩
  · exact .inr ⟨_, rfl, by decide⟩

/-! ## What is left -/

/-- Events that hold a secret under a sensitive name: in an object among the request's data, in a
list of them, in a variable of a stack frame, in the data of a breadcrumb, and as a parameter of
the query. -/
def holding (secret : String) : List Json :=
  [.ofMembers [("request", .ofMembers [("data",
      .ofMembers [("user", .ofMembers [("password", .string secret)])])])],
    .ofMembers [("request", .ofMembers [("data",
      .list [.ofMembers [("sourceCode", .string secret)]])])],
    .ofMembers [("request", .ofMembers [("query_string", .string ("api_key=" ++ secret))])],
    .ofMembers [("exception", .ofMembers [("values", .list [.ofMembers [("stacktrace",
      .ofMembers [("frames", .list [.ofMembers [("vars",
        .ofMembers [("source_code", .string secret)])]])])]])])],
    .ofMembers [("breadcrumbs", .ofMembers [("values",
      .list [.ofMembers [("data", .ofMembers [("secret", .string secret)])]])])]]

/-- An event that is nothing but a request with one member. -/
theorem scrub_request (name : String) (v : Json) :
    scrub (.ofMembers [("request", .ofMembers [(name, v)])]) =
      .ok (.object [("request".toList, .object [scrubPart (name.toList, v)])]) := by
  have hget : Association.get? "request".toList [("request".toList, Json.ofMembers [(name, v)])] =
      some (.object [(name.toList, v)]) := by
    rw [Association.get?, if_pos rfl]
    rfl
  show scrub (.object [("request".toList, _)]) = _
  rw [scrub_of_request hget, Association.put, if_pos rfl]
  rfl

theorem conceal_plain {name : String} (h : ¬ IsSensitive name.toList) (v : Json) :
    conceal (.ofMembers [(name, v)]) = .ofMembers [(name, conceal v)] := by
  show conceal (.object [(name.toList, v)]) = .object [(name.toList, conceal v)]
  rw [conceal, concealMembers, concealMembers, if_neg h]

theorem conceal_sensitive {name : String} (h : IsSensitive name.toList) (v : Json) :
    conceal (.ofMembers [(name, v)]) = .ofMembers [(name, .null)] := by
  show conceal (.object [(name.toList, v)]) = .object [(name.toList, .null)]
  rw [conceal, concealMembers, concealMembers, if_pos h]

theorem conceal_list (v : Json) : conceal (.list [v]) = .list [conceal v] := by
  rw [conceal, concealItems, concealItems]

theorem concealEvent_request {part : Text × Json} :
    concealEvent (.object [("request".toList, .object [part])]) =
      conceal (.object [("request".toList, .object (concealParameters [part]))]) := by
  have hmember : (Json.object [("request".toList, .object [part])]).member? "request" =
      some (.object [part]) := by
    rw [member?_request, Association.get?, if_pos rfl]
  rw [concealEvent, hmember]
  show conceal (.object (Association.put _ _ [("request".toList, _)])) = _
  rw [Association.put, if_pos rfl]

/-- The data of a request. -/
theorem concealEvent_data (v : Json) :
    concealEvent (.ofMembers [("request", .ofMembers [("data", v)])]) =
      .ofMembers [("request", .ofMembers [("data", conceal v)])] := by
  have hparameters : concealParameters [("data".toList, v)] = [("data".toList, v)] := by
    have hname : ("data".toList : Text) ≠ "query_string".toList := by simp
    cases v with
    | text t => simp only [concealParameters, List.map_cons, List.map_nil, if_neg hname]
    | _ => rfl
  show concealEvent (.object [("request".toList, .object [("data".toList, v)])]) = _
  rw [concealEvent_request, hparameters]
  show conceal (.ofMembers [("request", .ofMembers [("data", v)])]) = _
  rw [conceal_plain (by decide), conceal_plain (by decide)]

theorem scrub_request_ne {name : String} {v v' : Json}
    (h : scrubPart (name.toList, v) ≠ scrubPart (name.toList, v')) :
    scrub (.ofMembers [("request", .ofMembers [(name, v)])]) ≠
      scrub (.ofMembers [("request", .ofMembers [(name, v')])]) := by
  rw [scrub_request, scrub_request]
  intro heq
  simp only [Except.ok.injEq, Json.object.injEq, List.cons.injEq, Prod.mk.injEq, true_and,
    and_true] at heq
  exact h heq

/-- Nothing is scrubbed in an event without a request. -/
theorem scrub_ne_of_no_request {name : String} {v v' : Json}
    (hname : name.toList ≠ "request".toList) (h : v ≠ v') :
    scrub (.ofMembers [(name, v)]) ≠ scrub (.ofMembers [(name, v')]) := by
  have hget : ∀ v, Association.get? "request".toList [(name.toList, v)] = (none : Option Json) := by
    intro v
    rw [Association.get?, if_neg hname, Association.get?]
  show scrub (.object [(name.toList, v)]) ≠ scrub (.object [(name.toList, v')])
  rw [scrub_of_no_request (hget v), scrub_of_no_request (hget v')]
  intro heq
  simp only [Except.ok.injEq, Json.object.injEq, List.cons.injEq, Prod.mk.injEq, true_and,
    and_true] at heq
  exact h heq

/-- The query of a request. -/
theorem concealEvent_query (query : Text) :
    concealEvent (.ofMembers [("request", .ofMembers [("query_string", .text query)])]) =
      .ofMembers [("request", .ofMembers [("query_string", .text (concealQuery query))])] := by
  have hparameters : concealParameters [("query_string".toList, .text query)] =
      [("query_string".toList, .text (concealQuery query))] := by
    simp only [concealParameters, List.map_cons, List.map_nil, if_pos]
  show concealEvent (.object [("request".toList, .object [("query_string".toList, .text query)])]) = _
  rw [concealEvent_request, hparameters]
  show conceal (.ofMembers [("request", .ofMembers [("query_string", .text _)])]) = _
  rw [conceal_plain (by decide), conceal_plain (by decide), conceal]
  · nofun
  · nofun

/-- An event without a request. -/
theorem concealEvent_other {name : String} (h : name.toList ≠ "request".toList) (v : Json) :
    concealEvent (.ofMembers [(name, v)]) = conceal (.ofMembers [(name, v)]) := by
  have hmember : (Json.ofMembers [(name, v)]).member? "request" = none := by
    show (Json.object [(name.toList, v)]).member? "request" = none
    rw [member?_request, Association.get?, if_neg h, Association.get?]
  rw [concealEvent, hmember]

theorem ofMembers_ne {name : String} {v v' : Json} (h : v ≠ v') :
    Json.ofMembers [(name, v)] ≠ Json.ofMembers [(name, v')] := by
  intro heq
  simp only [Json.ofMembers, List.map_cons, List.map_nil, Json.object.injEq, List.cons.injEq,
    Prod.mk.injEq, true_and, and_true] at heq
  exact h heq

theorem list_ne {v v' : Json} (h : v ≠ v') : Json.list [v] ≠ Json.list [v'] := by
  intro heq
  simp only [Json.list.injEq, List.cons.injEq, and_true] at heq
  exact h heq

/-- **Secrets are left in scrubbed events**: these events differ in sensitive values only, and still
differ when they are scrubbed. -/
theorem scrub_reveals :
    List.Forall₂ (fun event event' => isEvent event ∧ isEvent event' ∧
      concealEvent event = concealEvent event' ∧ scrub event ≠ scrub event')
      (holding "a") (holding "b") := by
  have hsecret : Json.string "a" ≠ Json.string "b" := by simp [Json.string]
  refine .cons ⟨by decide +kernel, by decide +kernel, ?_, scrub_request_ne ?_⟩
    (.cons ⟨by decide +kernel, by decide +kernel, ?_, scrub_request_ne ?_⟩
    (.cons ⟨by decide +kernel, by decide +kernel, ?_, scrub_request_ne ?_⟩
    (.cons ⟨by decide +kernel, by decide +kernel, ?_, scrub_ne_of_no_request (by decide) ?_⟩
    (.cons ⟨by decide +kernel, by decide +kernel, ?_, scrub_ne_of_no_request (by decide) ?_⟩ .nil))))
  -- an object among the data of the request: scrubbing looks at the names of the data alone
  · rw [concealEvent_data, conceal_plain (by decide), conceal_sensitive (by decide),
      concealEvent_data, conceal_plain (by decide), conceal_sensitive (by decide)]
  · show scrubPart ("data".toList, .object [("user".toList, _)]) ≠
      scrubPart ("data".toList, .object [("user".toList, _)])
    rw [scrubPart, scrubPart, if_pos rfl, if_pos rfl]
    intro heq
    have hdata := (scrubData_eq_iff _ _).mp (Json.object.inj (congrArg Prod.snd heq))
    rcases hdata with _ | ⟨⟨-, huser⟩, -⟩
    exact huser.elim (by decide) (ofMembers_ne hsecret)
  -- a list: it is no data with names
  · rw [concealEvent_data, conceal_list, conceal_sensitive (by decide),
      concealEvent_data, conceal_list, conceal_sensitive (by decide)]
  · exact fun heq => list_ne (ofMembers_ne hsecret) (congrArg Prod.snd heq)
  -- a query with a key: it does not speak of the source
  · show concealEvent (.ofMembers [(_, .ofMembers [(_, .text ("api_key=" ++ "a").toList)])]) =
      concealEvent (.ofMembers [(_, .ofMembers [(_, .text ("api_key=" ++ "b").toList)])])
    have hquery : concealQuery ("api_key=" ++ "a").toList = concealQuery ("api_key=" ++ "b").toList :=
      by decide +kernel
    rw [concealEvent_query, concealEvent_query, hquery]
  · show scrubPart (_, .text ("api_key=" ++ "a").toList) ≠
      scrubPart (_, .text ("api_key=" ++ "b").toList)
    rw [scrubPart_query (by decide), scrubPart_query (by decide)]
    simp
  -- the variables of a frame and the data of a breadcrumb: they are in no request
  · rw [concealEvent_other (by decide), concealEvent_other (by decide)]
    simp only [conceal_plain (by decide : ¬ IsSensitive "exception".toList),
      conceal_plain (by decide : ¬ IsSensitive "values".toList), conceal_list,
      conceal_plain (by decide : ¬ IsSensitive "stacktrace".toList),
      conceal_plain (by decide : ¬ IsSensitive "frames".toList),
      conceal_plain (by decide : ¬ IsSensitive "vars".toList),
      conceal_sensitive (by decide : IsSensitive "source_code".toList)]
  · exact ofMembers_ne (list_ne (ofMembers_ne (ofMembers_ne (list_ne
      (ofMembers_ne (ofMembers_ne hsecret))))))
  · rw [concealEvent_other (by decide), concealEvent_other (by decide)]
    simp only [conceal_plain (by decide : ¬ IsSensitive "breadcrumbs".toList),
      conceal_plain (by decide : ¬ IsSensitive "values".toList), conceal_list,
      conceal_plain (by decide : ¬ IsSensitive "data".toList),
      conceal_sensitive (by decide : IsSensitive "secret".toList)]
  · exact ofMembers_ne (list_ne (ofMembers_ne (ofMembers_ne hsecret)))

end ContractVerifier.Monitoring
