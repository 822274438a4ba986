import ContractVerifier.Proofs.Explorer.Addressed
import ContractVerifier.Proofs.Flatten.FailOpen
import ContractVerifier.Proofs.Json.Members
import ContractVerifier.Proofs.Service.Requests
import ContractVerifier.Config.Variables

set_option autoImplicit false

/-! # What both interfaces are told

The two interfaces get the same request in different forms: a JSON body and a query. Both forms can
be read back (`VerificationData.ofBody?`, `VerificationData.ofPairs?`), and from whatever the
verifier sends for one source the same data are read (`Verifier.verify_sends`).
-/

namespace ContractVerifier

/-- What the explorer is told of a contract, apart from its address. -/
structure VerificationData where
  name : Text
  compilerVersion : Text
  source : Text
  optimization : Bool
  runs : Int
  evmVersion : Text
  /-- Whether the explorer is to find the constructor's arguments. -/
  autodetectArgs : Bool
  deriving DecidableEq, Repr

namespace Json

/-- The text that a value is. -/
def text? : Json → Option Text
  | .text t => some t
  | _ => none

/-- The flag that a value is. -/
def bool? : Json → Option Bool
  | .bool b => some b
  | _ => none

/-- The whole number that a value is. -/
def int? : Json → Option Int
  | .int n => some n
  | _ => none

end Json

namespace VerificationData

/-- The data in a JSON body. -/
def ofBody? (body : Json) : Option VerificationData := do
  let name ← (body.member? "contract_name").bind Json.text?
  let compilerVersion ← (body.member? "compiler_version").bind Json.text?
  let source ← (body.member? "source_code").bind Json.text?
  let optimization ← (body.member? "is_optimization_enabled").bind Json.bool?
  let runs ← (body.member? "optimization_runs").bind Json.int?
  let evmVersion ← (body.member? "evm_version").bind Json.text?
  let autodetectArgs ← (body.member? "autodetect_constructor_args").bind Json.bool?
  return ⟨name, compilerVersion, source, optimization, runs, evmVersion, autodetectArgs⟩

/-- The flag that one of two texts stands for. -/
def flag? (yes no : String) (t : Text) : Option Bool :=
  if t = yes.toList then some true else if t = no.toList then some false else none

/-- The data in the parameters of a query that asks for a verification. -/
def ofPairs? (pairs : List (Text × Text)) : Option VerificationData := do
  let get (name : String) : Option Text := Association.get? name.toList pairs
  guard (get "module" = some "contract".toList ∧ get "action" = some "verify".toList)
  let name ← get "name"
  let compilerVersion ← get "compilerVersion"
  let source ← get "contractSourceCode"
  let optimization ← (get "optimization").bind (flag? "1" "0")
  let runs ← (get "optimizationRuns").bind fun t => (String.ofList t).toInt?
  let evmVersion ← get "evmVersion"
  let autodetectArgs ← (get "autodetectConstructorArguments").bind (flag? "true" "false")
  return ⟨name, compilerVersion, source, optimization, runs, evmVersion, autodetectArgs⟩

/-- The request that tells these data. -/
structure Told (data : VerificationData) (r : VerificationRequest) : Prop where
  name : r.metadata.name = data.name
  compilerVersion : r.metadata.compilerVersion = data.compilerVersion
  source : r.sourceCode = data.source
  optimization : r.optimizationEnabled = .bool data.optimization
  runs : r.optimizationRuns = .int data.runs
  evmVersion : r.evmVersion = .text data.evmVersion
  autodetectArgs : r.autodetectConstructorArgs = .bool data.autodetectArgs

variable {data : VerificationData} {r : VerificationRequest}

/-- The data are read back from the body. -/
theorem ofBody?_jsonBody (h : data.Told r) : ofBody? r.jsonBody = some data := by
  unfold VerificationRequest.jsonBody
  rw [h.name, h.compilerVersion, h.source, h.optimization, h.runs, h.evmVersion, h.autodetectArgs]
  simp [ofBody?, Json.member?_ofMembers, List.lookup, Json.text?, Json.bool?, Json.int?]

/-- The texts of the parameters that tell these data. -/
def texts (data : VerificationData) (address : Text) : List (String × Text) :=
  [("module", "contract".toList),
   ("action", "verify".toList),
   ("addressHash", address),
   ("name", data.name),
   ("compilerVersion", data.compilerVersion),
   ("optimization", (if data.optimization then "1" else "0").toList),
   ("contractSourceCode", data.source),
   ("autodetectConstructorArguments", (if data.autodetectArgs then "true" else "false").toList),
   ("evmVersion", data.evmVersion),
   ("optimizationRuns", Text.ofInt data.runs)]

theorem flag?_ite (flag : Bool) {yes no : String} (h : yes ≠ no) :
    flag? yes no (if flag then yes else no).toList = some flag := by
  cases flag with
  | true => simp [flag?]
  | false =>
      have hne : no.toList ≠ yes.toList := fun hl => h (String.toList_injective hl).symm
      simp [flag?, hne]

theorem toInt?_ofInt (n : Int) : (String.ofList (Text.ofInt n)).toInt? = some n := by
  rw [Text.ofInt, String.ofList_toList]
  exact Int.toInt?_repr n

/-- The data are read back from the texts. -/
theorem ofPairs?_texts (data : VerificationData) (address : Text) :
    ofPairs? ((data.texts address).map fun p => (p.1.toList, p.2)) = some data := by
  unfold ofPairs?
  simp only [Association.get?_map_toList]
  simp [texts, List.lookup, flag?_ite, toInt?_ofInt]

theorem query_queryParams {query : Text} (h : data.Told r)
    (hquery : RequestDraft.query r.queryParams = .ok query) :
    query = Url.Form.encodePairs ((data.texts r.address).map fun p => (p.1.toList, p.2)) := by
  have hpairs : r.queryParams.flatMap (fun p =>
      (RequestDraft.paramTexts p.2).map fun t => (p.1.toList, t)) =
      (data.texts r.address).map fun p => (p.1.toList, p.2) := by
    unfold VerificationRequest.queryParams
    rw [h.name, h.compilerVersion, h.source, h.optimization, h.runs, h.evmVersion,
      h.autodetectArgs]
    rfl
  unfold RequestDraft.query at hquery
  simp only [hpairs] at hquery
  split at hquery
  · cases hquery
  · cases hquery
    rfl

end VerificationData

/-! ## Reading requests -/

/-- The data that a request tells: a submission tells them in its body, and a question in its
query. -/
def ExplorerRequest.data? (q : ExplorerRequest) : Option VerificationData :=
  match q.method with
  | .post => q.body.bind VerificationData.ofBody?
  | .get => q.url.query.bind fun query => VerificationData.ofPairs? (Url.Form.decodePairs query)

theorem RequestDraft.query_of_url {d : RequestDraft} {params : List (String × Json)} {u : Url}
    (hparams : d.params = some params) (h : d.url = .ok u) :
    ∃ query, RequestDraft.query params = .ok query ∧
      u.query = some (Url.escape Url.keptInQuery query) := by
  unfold RequestDraft.url at h
  simp only [bind, Except.bind, hparams] at h
  cases htext : Url.ofText d.address with
  | error e =>
      rw [htext] at h
      cases h
  | ok base =>
      simp only [htext] at h
      have hput : ∃ url : Url, (RequestDraft.query params).bind url.withQuery = .ok u := by
        split at h
        · exact ⟨base, h⟩
        · cases hrooted : base.rooted with
          | error e =>
              rw [hrooted] at h
              cases h
          | ok url =>
              rw [hrooted] at h
              exact ⟨url, h⟩
      obtain ⟨url, hput⟩ := hput
      obtain ⟨query, hquery, hput⟩ := Url.bind_eq_ok_iff.mp hput
      exact ⟨query, hquery, Url.query_of_withQuery hput⟩

namespace Client

variable {c : Client} {explorer : Explorer} {r : VerificationRequest} {data : VerificationData}
  {q : ExplorerRequest}

/-- The current interface is told the data. -/
theorem data?_verifyFlattened (h : data.Told r)
    (hsent : (c.verifyFlattened explorer r).sent = some q) : q.data? = some data := by
  have hrequest := request_of_send hsent
  have hmethod : q.method = .post := RequestDraft.method_of_request hrequest
  have hbody : q.body = some r.jsonBody := (RequestDraft.url_of_request hrequest).2
  rw [ExplorerRequest.data?, hmethod, hbody]
  exact VerificationData.ofBody?_jsonBody h

/-- The older interface is told the same. -/
theorem data?_verifyLegacy (h : data.Told r)
    (hsent : (c.verifyLegacy explorer r).sent = some q) : q.data? = some data := by
  have hrequest := request_of_send hsent
  have hmethod : q.method = .get := RequestDraft.method_of_request hrequest
  obtain ⟨query, hquery, hurl⟩ :=
    RequestDraft.query_of_url rfl (RequestDraft.url_of_request hrequest).1
  obtain rfl := VerificationData.query_queryParams h hquery
  rw [Url.escape_of_all_kept fun _ hc => Url.Form.keptInQuery_of_mem hc] at hurl
  rw [ExplorerRequest.data?, hmethod, hurl]
  show VerificationData.ofPairs? (Url.Form.decodePairs (Url.Form.encodePairs _)) = some data
  rw [Url.Form.decodePairs_encodePairs, VerificationData.ofPairs?_texts]

/-- A submission sends what its calls send. -/
theorem sent_submit (c : Client) (explorer : Explorer) (r : VerificationRequest) :
    let first := c.verifyFlattened explorer r
    let second := first.client.verifyLegacy explorer r
    (c.submit explorer r).sent = first.sent.toList ∨
      (c.submit explorer r).sent = first.sent.toList ++ second.sent.toList := by
  intro first second
  unfold submit
  simp only
  split
  · exact .inl rfl
  · split
    · split
      · exact .inr rfl
      · exact .inl rfl
    · exact .inr rfl
  · split
    · exact .inr rfl
    · exact .inl rfl

/-- **Both interfaces are told the same.** A submission sends at most one request by each interface,
the current one first, and each of them tells the data. -/
theorem submit_tells (explorer : Explorer) (h : data.Told r) :
    ((c.submit explorer r).sent.map ExplorerRequest.method).Sublist [.post, .get] ∧
      ∀ q ∈ (c.submit explorer r).sent, q.data? = some data := by
  let first := c.verifyFlattened explorer r
  let second := first.client.verifyLegacy explorer r
  have hall : (c.submit explorer r).sent.Sublist (first.sent.toList ++ second.sent.toList) := by
    rcases sent_submit c explorer r with hsent | hsent
    · rw [hsent]
      exact List.sublist_append_left _ _
    · rw [hsent]
  refine ⟨(hall.map _).trans (sublist_methods_submit explorer r), fun q hq => ?_⟩
  rcases List.mem_append.mp (hall.subset hq) with hq | hq
  · exact data?_verifyFlattened h (Option.mem_toList.mp hq)
  · exact data?_verifyLegacy h (Option.mem_toList.mp hq)

end Client

/-! ## What the verifier sends -/

/-- A source that is not flattened stays as it is. -/
theorem Flattener.source_of_not_flattened {f : Flattener} {sys : Flatten.System} {t : Tree}
    {source : ContractSource} {contractName : Text} {result : FlattenResult}
    (h : (f.flatten sys t source contractName).result = .ok result)
    (hflat : result.isFlattened = false) : result.source = source := by
  unfold Flattener.flatten at h
  split at h
  · cases h
    rfl
  · split at h
    · cases h
      rfl
    · simp only at h
      split at h
      · cases h
        rfl
      · rw [Flattener.resolve] at h
        split at h
        · cases h
          rfl
        · cases h
          cases hflat
        · cases h

/-- Settings that are read from variables have their types. -/
theorem Config.types_of_compilerOf {vars : Variables} {d : CompilerDefaults}
    (h : compilerOf vars = .ok d) : ∃ optimization runs evmVersion,
      d.optimizationEnabled = .bool optimization ∧ d.optimizationRuns = .int runs ∧
        d.evmVersion = .text evmVersion := by
  unfold compilerOf at h
  cases hruns : vars.whole "VERIFY_OPTIMIZATION_RUNS" "200" with
  | error fault => rw [hruns] at h; cases h
  | ok runs =>
      rw [hruns] at h
      cases h
      unfold Variables.whole at hruns
      split at hruns
      · cases hruns
        exact ⟨_, _, _, rfl, rfl, rfl⟩
      · cases hruns

namespace Verifier

variable {v : Verifier} {optimization : Bool} {runs : Int} {evmVersion : Text}

/-- **What is submitted.** For every contract's address, source and session, system and explorer:
the verifier sends at most one request by each interface, the current one first. All of them tell
the same data: the name and the compiler version that are read off the source as it was given, the
text of the flattening's result, which is the given one unless the source was flattened, the
settings, and that the explorer is to find the constructor's arguments. -/
theorem verify_sends (hoptimization : v.compiler.optimizationEnabled = .bool optimization)
    (hruns : v.compiler.optimizationRuns = .int runs)
    (hevm : v.compiler.evmVersion = .text evmVersion) (sys : Flatten.System) (explorer : Explorer)
    (address source : Text) (s : Session) :
    let metadata := Solidity.metadata v.compiler source
    let flattening := v.flattener.flatten sys s.tree ⟨source, metadata.name ++ ".sol".toList⟩
      metadata.name
    ∃ sent, (v.verify sys explorer address source s).2.sent = s.sent ++ sent ∧
      (sent.map ExplorerRequest.method).Sublist [.post, .get] ∧
      ∀ q ∈ sent, ∃ result, flattening.result = .ok result ∧
        (result.isFlattened = false → result.source.text = source) ∧
        q.data? = some ⟨metadata.name, metadata.compilerVersion, result.source.text, optimization,
          runs, evmVersion, true⟩ := by
  intro metadata flattening
  cases hresult : flattening.result with
  | error fault =>
      have hverify : (v.verify sys explorer address source s).2.sent = s.sent ++ [] := by
        unfold verify
        simp only [flattening, metadata] at hresult
        simp only [hresult, List.append_nil]
      exact ⟨[], hverify, List.nil_sublist _, fun q hq => absurd hq List.not_mem_nil⟩
  | ok result =>
      have hverify : (v.verify sys explorer address source s).2.sent = s.sent ++
          (s.client.submit explorer (v.request address metadata result.source.text)).sent := by
        unfold verify
        simp only [flattening, metadata] at hresult
        simp only [hresult, metadata]
      have htold : VerificationData.Told ⟨metadata.name, metadata.compilerVersion,
          result.source.text, optimization, runs, evmVersion, true⟩
          (v.request address metadata result.source.text) :=
        ⟨rfl, rfl, rfl, hoptimization, hruns, hevm, rfl⟩
      obtain ⟨hmethods, hdata⟩ := Client.submit_tells (c := s.client) explorer htold
      refine ⟨_, hverify, hmethods, fun q hq => ⟨result, rfl, fun hflat => ?_, hdata q hq⟩⟩
      rw [Flattener.source_of_not_flattened hresult hflat]

/-- The explorer does not answer, so that both interfaces are told of a small contract. -/
theorem small_is_sent :
    let v : Verifier := ⟨{}, Client.nearby.settings, Flattener.unfitting⟩
    let sys : Flatten.System := ⟨fun _ => .error .namesTaken, ⟨.ofText "/t".toList, []⟩⟩
    let source := "contract M {}".toList
    let sent := (v.verify sys Client.silent "0xa".toList source (v.newSession ⟨[]⟩)).2.sent
    sent.map ExplorerRequest.method = [.post, .get] ∧
      ∀ q ∈ sent, q.data? = some ⟨['M'], "v0.8.19+commit.7dd6d404".toList, source, false, 200,
        "default".toList, true⟩ := by
  intro v sys source sent
  have hmetadata : Solidity.metadata v.compiler source =
      ⟨['M'], "v0.8.19+commit.7dd6d404".toList⟩ := by decide +kernel
  have himports : Solidity.imports source = [] := by decide +kernel
  obtain ⟨told, htold, -, hdata⟩ := verify_sends (v := v) rfl rfl rfl sys Client.silent
    "0xa".toList source (v.newSession ⟨[]⟩)
  have hsent : sent = told := htold
  refine ⟨by decide +kernel, fun q hq => ?_⟩
  rw [hsent] at hq
  obtain ⟨result, hresult, -, htells⟩ := hdata q hq
  rw [Flattener.flatten_of_no_imports _ _ _ _ himports] at hresult
  cases hresult
  rw [hmetadata] at htells
  exact htells

end Verifier

end ContractVerifier
