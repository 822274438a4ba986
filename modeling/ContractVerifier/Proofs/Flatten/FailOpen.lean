import ContractVerifier.Flatten.Flattener
import ContractVerifier.Proofs.Faults.Names
import ContractVerifier.Proofs.Flatten.Runs
import Mathlib

set_option autoImplicit false

/-! # Flattening fails open

A source with imports goes through three steps: it is staged, a backend makes one text of it, and
the registry's sources are put into that text. `Fails` and `Succeeds` say how these steps can go,
each on its own. Flattening gives a result either way, and the result of a failure is the source
as it was (`flatten_fails_open`).

A backend may be anything that gives texts or fails with a fault that has a name
(`Backend.GivesTexts`). The verifier's own backends are of that kind.
-/

namespace ContractVerifier

open Flatten

/-! ## Backends -/

namespace Flatten

/-- Whatever the backend is asked to flatten, it gives a text, or a fault that has a name. -/
def Backend.GivesTexts (b : Backend) (run : CommandRunner) : Prop :=
  ∀ t entry importRoot,
    (∃ text, b.flatten run t entry importRoot = .ok (.text text)) ∨
      ∃ fault : Fault, fault.IsNamed ∧ b.flatten run t entry importRoot = .error fault

variable {t : Tree} {roots : Roots}

theorem isNamed_of_leadsTo {here : Location} {path : Text} {x : Fault}
    (h : leadsTo t roots here path = .error x) : x.IsNamed := by
  unfold leadsTo at h
  split at h
  · cases h
    trivial
  · split at h
    · cases h
      trivial
    · cases h

theorem isNamed_of_readText {p : Path} {x : Fault} (h : t.readText p = .error x) : x.IsNamed := by
  unfold Tree.readText at h
  split at h
  · cases h
    trivial
  · split at h
    · cases h
      trivial
    · cases h

/-- The faults of inlining are those of following a path and of reading a file. -/
theorem isNamed_of_inline {depth : Nat} {here : Location} {text : Text} {p : Progress} {x : Fault}
    (h : (inline t roots depth here text p).1 = .error x) : x.IsNamed := by
  induction depth generalizing here text p x with
  | zero =>
      cases h
      trivial
  | succ depth ih =>
      rw [inline] at h
      obtain ⟨i, -, p', -, hfault⟩ :=
        (walkPieces_keeps (fun _ => True) (fun _ _ _ _ => trivial) trivial).2 x h
      generalize hv : visitImport t roots (inline t roots depth) here i p' = v at hfault
      have hvisit : Visit t roots (inline t roots depth) here i p' v :=
        hv ▸ visit_visitImport _ here i p'
      cases hvisit with
      | fault hlead =>
          cases hfault
          exact isNamed_of_leadsTo hlead
      | stays => cases hfault
      | known => cases hfault
      | unread _ _ htext =>
          cases hfault
          exact isNamed_of_readText htext
      | broken _ _ _ hinline =>
          cases hfault
          exact ih (congrArg Prod.fst hinline)
      | entered => cases hfault

theorem isNamed_of_flattenGraph {depth : Nat} {entry importRoot : Path} {x : Fault}
    (h : flattenGraph depth t entry importRoot = .error x) : x.IsNamed := by
  rw [flattenGraph] at h
  have hending := ending_walkGraph depth t entry importRoot
  generalize walkGraph depth t entry importRoot = w at h hending
  cases hending with
  | unresolved =>
      cases h
      trivial
  | unread _ htext =>
      cases h
      exact isNamed_of_readText htext
  | rootless =>
      cases h
      trivial
  | broken _ _ _ hinline =>
      cases h
      exact isNamed_of_inline (congrArg Prod.fst hinline)
  | inlined => cases h

/-- The import graph gives texts. -/
theorem Backend.givesTexts_importGraph (depth : Nat) (run : CommandRunner) :
    (importGraph depth).GivesTexts run := by
  intro t entry importRoot
  cases h : flattenGraph depth t entry importRoot with
  | ok text => exact .inl ⟨text, by rw [flatten, h]; rfl⟩
  | error x => exact .inr ⟨x, isNamed_of_flattenGraph h, by rw [flatten, h]; rfl⟩

/-- So does a command, if the faults of running commands have names. -/
theorem Backend.givesTexts_forge {run : CommandRunner} {binary : Text} {timeout : Json}
    (hrun : ∀ command fault, run command = .error fault → fault.IsNamed) :
    (forge binary timeout).GivesTexts run := by
  intro t entry importRoot
  cases h : flattenForge run binary timeout entry importRoot with
  | ok text => exact .inl ⟨text, by rw [flatten, h]; rfl⟩
  | error x =>
      refine .inr ⟨x, ?_, by rw [flatten, h]; rfl⟩
      unfold flattenForge at h
      split at h
      · rename_i hfault
        split at h
        · cases h
          trivial
        · cases h
          exact hrun _ _ hfault
      · split at h
        · cases h
        · cases h
          trivial

end Flatten

/-! ## The steps -/

namespace Flattener

variable (f : Flattener) (sys : System) (t : Tree) (source : ContractSource) (contractName : Text)

/-- The source is staged, and this is what the backend answers for the staged file. -/
def Answers (answer : Except Fault Json) : Prop :=
  ∃ directory file staged,
    f.stage sys.scratch t source.text contractName = .ok (directory, file, staged) ∧
      f.backend.flatten sys.run staged file (.ofLocation f.importRoot) = answer

/-- One of the three steps **fails** with a fault. -/
inductive Fails : Fault → Prop
  /-- The source cannot be staged. -/
  | staging {fault : Fault} {t' : Tree}
      (h : f.stage sys.scratch t source.text contractName = .error (fault, t')) : Fails fault
  /-- The backend fails. -/
  | backend {fault : Fault} (h : f.Answers sys t source contractName (.error fault)) : Fails fault
  /-- The registry's sources cannot be put into the backend's text. -/
  | substitution {candidate : Text} {fault : Fault}
      (h : f.Answers sys t source contractName (.ok (.text candidate)))
      (hs : f.registry.substitute candidate = .error fault) : Fails fault

/-- All steps **succeed**: the backend's text with the registry's sources in it is `text`. -/
def Succeeds (text : Text) : Prop :=
  ∃ candidate, f.Answers sys t source contractName (.ok (.text candidate)) ∧
    f.registry.substitute candidate = .ok text

variable {f sys t source contractName}

theorem Answers.unique {a b : Except Fault Json} (ha : f.Answers sys t source contractName a)
    (hb : f.Answers sys t source contractName b) : a = b := by
  obtain ⟨_, _, _, hstage, rfl⟩ := ha
  obtain ⟨_, _, _, hstage', rfl⟩ := hb
  cases hstage.symm.trans hstage'
  rfl

/-- The steps do not both succeed and fail. -/
theorem Fails.not_succeeds {fault : Fault} {text : Text}
    (h : f.Fails sys t source contractName fault) :
    ¬ f.Succeeds sys t source contractName text := by
  rintro ⟨candidate, hanswers, hsubstitute⟩
  cases h with
  | staging h =>
      obtain ⟨_, _, _, hstage, -⟩ := hanswers
      cases h.symm.trans hstage
  | backend h => cases h.unique hanswers
  | substitution h hs =>
      cases h.unique hanswers
      cases hs.symm.trans hsubstitute

theorem isNamed_of_createDirectory {scratch safe : Text} {endings : List Text} {fault : Fault}
    (h : createDirectory scratch safe t endings = .error fault) : fault.IsNamed := by
  induction endings with
  | nil =>
      cases h
      trivial
  | cons ending endings ih =>
      rw [createDirectory] at h
      split at h
      · cases h
      · exact ih h
      · cases h
        trivial

theorem isNamed_of_writeSource {file : Path} {text : Text} {fault : Fault}
    (h : writeSource file text t = .error fault) : fault.IsNamed := by
  unfold writeSource at h
  split at h
  · cases h
    trivial
  · split at h
    · cases h
      trivial
    · cases h

/-- Staging fails with a fault of the file system, or with that of a text without bytes. -/
theorem isNamed_of_stage {scratch : Scratch} {text : Text} {fault : Fault} {t' : Tree}
    (h : f.stage scratch t text contractName = .error (fault, t')) : fault.IsNamed := by
  unfold stage at h
  simp only at h
  split at h
  · cases h
    trivial
  · split at h
    · rename_i hcreate
      cases h
      exact isNamed_of_createDirectory hcreate
    · split at h
      · rename_i hwrite
        cases h
        exact isNamed_of_writeSource hwrite
      · cases h

theorem isNamed_of_substituteEntry {entry : Text × Text} {text : Text} {fault : Fault}
    (h : Registry.substituteEntry entry text = .error fault) : fault.IsNamed := by
  unfold Registry.substituteEntry at h
  split at h
  · cases h
  · split at h
    · cases h
      trivial
    · cases h

theorem isNamed_of_substitute {r : Registry} {text : Text} {fault : Fault}
    (h : r.substitute text = .error fault) : fault.IsNamed := by
  obtain ⟨name, version, entries⟩ := r
  unfold Registry.substitute at h
  induction entries generalizing text with
  | nil => cases h
  | cons entry entries ih =>
      rw [List.foldlM_cons] at h
      cases hentry : Registry.substituteEntry entry text with
      | ok text' =>
          rw [hentry] at h
          exact ih h
      | error x =>
          rw [hentry] at h
          cases h
          exact isNamed_of_substituteEntry hentry

/-! ## Flattening -/

/-- A source without imports is not touched, nor is anything else. -/
theorem flatten_of_no_imports (f : Flattener) (sys : System) (t : Tree) (contractName : Text)
    (h : Solidity.imports source.text = []) :
    f.flatten sys t source contractName = ⟨.ok (.untouched source), none, t⟩ := by
  rw [flatten, if_pos h]

/-- A source with imports is flattened, or it stays as it is. -/
theorem flatten_of_imports (t : Tree) (source : ContractSource) (contractName : Text)
    (hbackend : f.backend.GivesTexts sys.run)
    (h : Solidity.imports source.text ≠ []) :
    (∃ fault, f.Fails sys t source contractName fault ∧ fault.IsNamed ∧
        (f.flatten sys t source contractName).result = .ok (.failed source fault.describe)) ∨
      ∃ text, f.Succeeds sys t source contractName text ∧
        (f.flatten sys t source contractName).result =
          .ok (.flattened (source.withText text) (Solidity.findImports text)) := by
  rw [flatten, if_neg h]
  split
  · rename_i fault t' hstage
    exact .inl ⟨fault, .staging hstage, isNamed_of_stage hstage, rfl⟩
  · rename_i directory file staged hstage
    rcases hbackend staged file (.ofLocation f.importRoot) with
      ⟨candidate, hanswer⟩ | ⟨fault, hnamed, hanswer⟩
    · have hanswers : f.Answers sys t source contractName (.ok (.text candidate)) :=
        ⟨directory, file, staged, hstage, hanswer⟩
      simp only [hanswer, resolve, Registry.substituteValue]
      cases hsubstitute : f.registry.substitute candidate with
      | error fault =>
          exact .inl ⟨fault, .substitution hanswers hsubstitute,
            isNamed_of_substitute hsubstitute, rfl⟩
      | ok text => exact .inr ⟨text, ⟨candidate, hanswers, hsubstitute⟩, rfl⟩
    · have hanswers : f.Answers sys t source contractName (.error fault) :=
        ⟨directory, file, staged, hstage, hanswer⟩
      simp only [hanswer]
      exact .inl ⟨fault, .backend hanswers, hnamed, rfl⟩

/-- **Flattening fails open.** It always has a result, and the result is one of three: a source
without imports is left alone, and so are the files and the backend; where one of the steps fails,
the source stays as it was and the error is not empty; otherwise the source has the text that the
steps lead to, from the same origin, and what is left of imports is told. The second is the case
exactly if one of the steps fails for a source with imports. -/
theorem flatten_fails_open (t : Tree) (source : ContractSource) (contractName : Text)
    (hbackend : f.backend.GivesTexts sys.run) :
    let call := f.flatten sys t source contractName
    let imports := Solidity.imports source.text
    (imports = [] ∧ call = ⟨.ok (.untouched source), none, t⟩ ∨
      imports ≠ [] ∧ (∃ fault, f.Fails sys t source contractName fault ∧ fault.describe ≠ [] ∧
        call.result = .ok (.failed source fault.describe)) ∨
      imports ≠ [] ∧ ∃ text, f.Succeeds sys t source contractName text ∧
        call.result = .ok (.flattened (source.withText text) (Solidity.findImports text))) ∧
    ((∃ s error, call.result = .ok (.failed s error)) ↔
      imports ≠ [] ∧ ∃ fault, f.Fails sys t source contractName fault) := by
  by_cases h : Solidity.imports source.text = []
  · have hcall := flatten_of_no_imports f sys t contractName h
    simp only [hcall, h]
    simp
  · rcases flatten_of_imports t source contractName hbackend h with
      ⟨fault, hfails, hnamed, hresult⟩ | ⟨text, hsucceeds, hresult⟩
    · refine ⟨.inr (.inl ⟨h, fault, hfails, Fault.describe_ne_nil_of_named hnamed, hresult⟩), ?_⟩
      exact iff_of_true ⟨source, fault.describe, hresult⟩ ⟨h, fault, hfails⟩
    · refine ⟨.inr (.inr ⟨h, text, hsucceeds, hresult⟩), ?_⟩
      refine iff_of_false ?_ ?_
      · rintro ⟨s, error, hfailed⟩
        cases hresult.symm.trans hfailed
      · rintro ⟨-, fault, hfails⟩
        exact hfails.not_succeeds hsucceeds

/-- A flattener whose backend answers with a fixed text, and whose registry holds the empty
statement, for which nothing can be put. -/
def unfitting : Flattener where
  backend := .constant (.text "contract M {}".toList)
  registry := ⟨[], [], [([], "library L {}".toList)]⟩
  importRoot := [['l']]
  scratchDir := none

/-- The backend succeeds and the registry fails after it. The source stays as it was, with its
import. -/
theorem unfitting_fails_open :
    let sys : System := ⟨fun _ => .error .namesTaken, ⟨.ofText "/t".toList, [['0']]⟩⟩
    let t : Tree := ⟨[([['t']], .directory)]⟩
    let source : ContractSource := { text := "import 'L';\ncontract M {}".toList }
    unfitting.backend.GivesTexts sys.run ∧
      (unfitting.flatten sys t source []).result =
        .ok (.failed source "empty separator".toList) := by
  intro sys t source
  have hbackend : unfitting.backend.GivesTexts sys.run := fun _ _ _ => .inl ⟨_, rfl⟩
  refine ⟨hbackend, ?_⟩
  have himports : Solidity.imports source.text = [⟨"import 'L';".toList, ['L']⟩] := by cbv
  have hanswers : ∀ answer, unfitting.Answers sys t source [] answer →
      answer = .ok (.text "contract M {}".toList) := by
    rintro _ ⟨_, _, _, -, rfl⟩
    rfl
  have hsubstitute :
      unfitting.registry.substitute "contract M {}".toList = .error .emptyStatement := by cbv
  have hstage : (unfitting.stage sys.scratch t source.text []).isOk := by cbv
  rcases (flatten_fails_open t source [] hbackend).1 with
    ⟨hnone, -⟩ | ⟨-, fault, hfails, -, hresult⟩ | ⟨-, text, ⟨candidate, hanswer, htext⟩, -⟩
  · rw [himports] at hnone
    cases hnone
  · obtain rfl : fault = .emptyStatement := by
      cases hfails with
      | staging h =>
          rw [h] at hstage
          cases hstage
      | backend h => cases hanswers _ h
      | substitution h hs =>
          cases hanswers _ h
          exact Except.error.inj (hs.symm.trans hsubstitute)
    exact hresult
  · cases hanswers _ hanswer
    cases htext.symm.trans hsubstitute

end Flattener

end ContractVerifier
