import ContractVerifier.Proofs.Flatten.FailOpen
import ContractVerifier.Service.Verifier

set_option autoImplicit false

/-! # What the verifier submits

One request to the explorer for each source (`Verifier.requestFor`). Flattening always has a
result, so there always is a request, and what the verifier answers is what came of submitting it.
-/

namespace ContractVerifier

namespace Verifier

variable {v : Verifier} {sys : Flatten.System} {explorer : Explorer} {address source : Text}
  {s : Session}

/-- The request to the explorer for a source: its metadata, and the text that flattening gives. -/
def requestFor (v : Verifier) (sys : Flatten.System) (t : Tree) (address source : Text) :
    Except Fault VerificationRequest :=
  let metadata := Solidity.metadata v.compiler source
  (v.flattener.flatten sys t ⟨source, metadata.name ++ ".sol".toList⟩ metadata.name).result.map
    fun result => v.request address metadata result.source.text

/-- There always is one, as flattening always has a result. -/
theorem exists_requestFor (hbackend : v.flattener.backend.GivesTexts sys.run) (t : Tree)
    (address source : Text) : ∃ request, v.requestFor sys t address source = .ok request := by
  unfold requestFor
  simp only
  generalize Solidity.metadata v.compiler source = metadata
  by_cases h : Solidity.imports source = []
  · rw [Flattener.flatten_of_no_imports v.flattener sys t metadata.name h]
    exact ⟨_, rfl⟩
  · rcases Flattener.flatten_of_imports t ⟨source, metadata.name ++ ".sol".toList⟩
      metadata.name hbackend h with
      ⟨fault, -, -, hresult⟩ | ⟨text, -, hresult⟩
    · rw [hresult]
      exact ⟨_, rfl⟩
    · rw [hresult]
      exact ⟨_, rfl⟩

theorem address_of_requestFor {t : Tree} {request : VerificationRequest}
    (h : v.requestFor sys t address source = .ok request) : request.address = address := by
  unfold requestFor at h
  simp only at h
  cases hresult : (v.flattener.flatten sys t
      ⟨source, (Solidity.metadata v.compiler source).name ++ ".sol".toList⟩
      (Solidity.metadata v.compiler source).name).result with
  | error fault => rw [hresult] at h; cases h
  | ok result =>
      rw [hresult] at h
      cases h
      rfl

/-- The answer of the service is that of the submission, with the contract's page if it is a good
one. -/
theorem verify_of_requestFor {request : VerificationRequest}
    (h : v.requestFor sys s.tree address source = .ok request) :
    (v.verify sys explorer address source s).1 =
      (s.client.submit explorer request).outcome.map fun outcome =>
        v.withPage outcome.isSuccess address outcome.toJson := by
  unfold requestFor at h
  unfold verify
  simp only at h ⊢
  split
  · rename_i fault hresult
    rw [hresult] at h
    cases h
  · rename_i result hresult
    rw [hresult] at h
    cases h
    rfl

end Verifier

end ContractVerifier
