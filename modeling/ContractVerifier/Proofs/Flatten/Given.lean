import ContractVerifier.Proofs.Flatten.FailOpen
import ContractVerifier.Proofs.Json.Members
import ContractVerifier.Proofs.Registry.Substitution

set_option autoImplicit false

/-! # Given registries

A flattener can be made with a registry of its own, or with the registry in use, which is chosen
from the configuration. Which of the two looks up the imports that a backend leaves shows in the
flattened text.

A registry that is given is used if it has entries (`make_of_entries`). One without entries counts
as not given (`make_of_no_entries`), and the statements of the registry in use are put in after
all: `flatten_given_iff` says when that can be seen, and `empty_registry_is_not_used` shows it.
-/

namespace ContractVerifier.Flattener

open Flatten

variable {t : Tree} {c : FlattenerConfig} {backend : Option Backend} {r : Registry}
  {importRoot scratchDir : Option Text} {chosen chosen' : Registry.Chosen} {depths : Depths}
  {f : Flattener}

/-! ## Making a flattener -/

/-- A flattener that is made with a registry with entries has that registry, and nothing is chosen.
Another registry file in the configuration, or another registry in use, makes no difference. -/
theorem make_of_entries (hentries : r.entries ≠ [])
    (hmake : make t c backend (some r) importRoot scratchDir chosen depths = .ok (f, chosen')) :
    f.registry = r ∧ chosen' = chosen ∧ ∀ path other,
      make t { c with registryPath := path } backend (some r) importRoot scratchDir other depths =
        .ok (f, other) := by
  have hgiven : (some r).filter (fun r : Registry => decide (r.size ≠ 0)) = some r := by
    simp [Option.filter, Registry.size, hentries]
  unfold make at hmake ⊢
  rw [hgiven] at hmake ⊢
  cases hbackend : backend.elim (Backend.ofConfig c depths.imports) Except.ok with
  | error fault =>
      rw [hbackend] at hmake
      cases hmake
  | ok b =>
      have hother : ∀ path, backend.elim (Backend.ofConfig { c with registryPath := path }
          depths.imports) Except.ok = .ok b := fun _ => hbackend
      rw [hbackend] at hmake
      simp only [Option.elim] at hmake
      split at hmake
      · cases hmake
      · rename_i root hroot
        cases hmake
        refine ⟨rfl, rfl, fun path other => ?_⟩
        rw [hother]
        simp only [Option.elim, hroot]

/-- A registry without entries counts as not given. -/
theorem make_of_no_entries (hentries : r.entries = []) :
    make t c backend (some r) importRoot scratchDir chosen depths =
      make t c backend none importRoot scratchDir chosen depths := by
  have hgiven : (some r).filter (fun r : Registry => decide (r.size ≠ 0)) = none := by
    simp [Option.filter, Registry.size, hentries]
  unfold make
  rw [hgiven]
  rfl

/-- Without a registry of its own a flattener has the registry in use. -/
theorem choose_of_make
    (hmake : make t c backend none importRoot scratchDir chosen depths = .ok (f, chosen')) :
    Registry.choose t c.registryPath chosen depths.values = (.ok f.registry, chosen') := by
  unfold make at hmake
  split at hmake
  · cases hmake
  · simp only [Option.filter, Option.elim] at hmake
    split at hmake
    · cases hmake
    · rename_i used chosen'' hchoose
      split at hmake
      · cases hmake
      · cases hmake
        exact hchoose

/-! ## Flattening with it -/

variable {sys : System} {source : ContractSource} {contractName candidate text : Text}

/-- What becomes of a text that the backend gave is up to the flattener's registry. -/
theorem result_of_answers (himports : Solidity.imports source.text ≠ [])
    (hanswers : f.Answers sys t source contractName (.ok (.text candidate))) :
    (f.flatten sys t source contractName).result =
      .ok (match f.registry.substitute candidate with
        | .ok text => .flattened (source.withText text) (Solidity.findImports text)
        | .error fault => .failed source fault.describe) := by
  obtain ⟨directory, file, staged, hstage, hanswer⟩ := hanswers
  rw [flatten, if_neg himports]
  simp only [hstage, hanswer, resolve, Registry.substituteValue]
  cases f.registry.substitute candidate <;> rfl

theorem substitute_of_no_entries (hentries : r.entries = []) (t : Text) :
    r.substitute t = .ok t := by
  rw [Registry.substitute, hentries]
  rfl

/-- **A given registry is the one that is used, unless it has no entries.** Take a flattener that is
made with the registry `r`, a source with imports for which the backend gives the text `candidate`,
and the text that `r` makes of it. If `r` has entries, `r` is the flattener's registry, nothing was
chosen, and with any other configured file or registry in use the flattener would be the same; if it
has none, the registry is the one in use. So the source gets the text that `r` makes of `candidate`
exactly if `r` has entries or the registry in use finds nothing in `candidate` either. -/
theorem flatten_given_iff {tree : Tree}
    (hmake : make t c backend (some r) importRoot scratchDir chosen depths = .ok (f, chosen'))
    (himports : Solidity.imports source.text ≠ [])
    (hanswers : f.Answers sys tree source contractName (.ok (.text candidate)))
    (hsubstitute : r.substitute candidate = .ok text) :
    (r.entries ≠ [] → f.registry = r ∧ chosen' = chosen ∧ ∀ path other,
      make t { c with registryPath := path } backend (some r) importRoot scratchDir other depths =
        .ok (f, other)) ∧
    (r.entries = [] →
      Registry.choose t c.registryPath chosen depths.values = (.ok f.registry, chosen')) ∧
    ((f.flatten sys tree source contractName).result =
        .ok (.flattened (source.withText text) (Solidity.findImports text)) ↔
      r.entries ≠ [] ∨ f.registry.substitute candidate = .ok candidate) := by
  have hresult := result_of_answers himports hanswers
  by_cases hentries : r.entries = []
  · -- `r` changes nothing, so the two texts are the same if the registry in use changes nothing
    obtain rfl : candidate = text :=
      Except.ok.inj ((substitute_of_no_entries hentries candidate).symm.trans hsubstitute)
    rw [make_of_no_entries hentries] at hmake
    refine ⟨fun h => absurd hentries h, fun _ => choose_of_make hmake, ?_⟩
    rw [hresult]
    constructor
    · intro hflattened
      cases hused : f.registry.substitute candidate with
      | error fault =>
          rw [hused] at hflattened
          cases hflattened
      | ok text =>
          rw [hused] at hflattened
          injection hflattened with hflattened
          injection hflattened with hsource
          exact .inr (congrArg Except.ok (congrArg ContractSource.text hsource))
    · intro hused
      rw [hused.resolve_left fun h => h hentries]
  · obtain ⟨hregistry, hchosen, hother⟩ := make_of_entries hentries hmake
    refine ⟨fun _ => ⟨hregistry, hchosen, hother⟩, fun h => absurd h hentries, ?_⟩
    refine iff_of_true ?_ (.inl hentries)
    rw [hresult, hregistry, hsubstitute]

/-! ## A registry with one entry, and one with none -/

/-- A source with an import that the built-in registry knows. -/
def guest : ContractSource where
  text := "import {Context} from \"../utils/Context.sol\";\ncontract M {}".toList

/-- A flattener that has this registry and leaves the source to it. -/
def leaving (r : Registry) : Flattener where
  backend := .constant (.text guest.text)
  registry := r
  importRoot := [['l']]
  scratchDir := none

/-- A system that names a scratch directory in `/t`. -/
def plainSystem : System := ⟨fun _ => .error .namesTaken, ⟨.ofText "/t".toList, [['0']]⟩⟩

/-- A tree with that directory. -/
def plainTree : Tree := ⟨[([['t']], .directory)]⟩

theorem answers_leaving (r : Registry) :
    (leaving r).Answers plainSystem plainTree guest [] (.ok (.text guest.text)) := by
  have hstage : ((leaving r).stage plainSystem.scratch plainTree guest.text []).isOk := by cbv
  cases h : (leaving r).stage plainSystem.scratch plainTree guest.text [] with
  | error fault =>
      rw [h] at hstage
      cases hstage
  | ok place => exact ⟨place.1, place.2.1, place.2.2, h, rfl⟩

theorem imports_guest : Solidity.imports guest.text ≠ [] := by
  have h : (Solidity.imports guest.text).length = 1 := by cbv
  intro hnil
  rw [hnil] at h
  cases h

theorem resolve_plainTree : plainTree.resolve (.ofText "/l".toList) = .ok [['l']] := by cbv

/-- A registry that has another source for the import. -/
def ownRegistry : Registry :=
  ⟨['r'], ['1'],
    [("import {Context} from \"../utils/Context.sol\";".toList, "contract Context {}".toList)]⟩

/-- The given source is put in, although a registry without entries is in use. -/
theorem own_registry_is_used :
    ((leaving ownRegistry).flatten plainSystem plainTree guest []).result =
      .ok (.flattened (guest.withText "contract Context {}\ncontract M {}".toList) []) := by
  have hmake : make plainTree {} (some (.constant (.text guest.text))) (some ownRegistry)
      (some "/l".toList) none (some ⟨[], [], []⟩) =
      .ok (leaving ownRegistry, some ⟨[], [], []⟩) := by
    have hroot : (some "/l".toList).filter (fun root => decide (root ≠ [])) =
        some "/l".toList := by decide +kernel
    have hgiven : (some ownRegistry).filter (fun r : Registry => decide (r.size ≠ 0)) =
        some ownRegistry := rfl
    rw [make]
    simp only [Option.elim, hgiven, hroot, Option.getD_some, resolve_plainTree]
    rfl
  have hsubstitute : ownRegistry.substitute guest.text =
      .ok "contract Context {}\ncontract M {}".toList := by cbv
  have hentries : ownRegistry.entries ≠ [] := by
    rintro ⟨⟩
  have hresult := (flatten_given_iff hmake imports_guest (answers_leaving ownRegistry)
    hsubstitute).2.2.mpr (.inl hentries)
  have himports :
      Solidity.findImports "contract Context {}\ncontract M {}".toList = [] := by cbv
  rw [hresult, himports]

/-- The built-in registry has its own source for the import. -/
theorem substitute_builtIn_guest : Registry.builtIn.substitute guest.text =
    .ok (Registry.callContext.toList ++ "\ncontract M {}".toList) := by
  let first := "import \x7bIERC165\x7d from \"../../utils/introspection/IERC165.sol\";".toList
  let second := "import \x7bContext\x7d from \"../utils/Context.sol\";".toList
  let rest := "\ncontract M {}".toList
  have hentries : Registry.builtIn.entries =
      [(first, Registry.interfaceDetection.toList), (second, Registry.callContext.toList)] := by
    refine Association.ofPairs_of_nodup ?_
    show [first, second].Nodup
    decide +kernel
  have hnonempty : ∀ e ∈ Registry.builtIn.entries, e.1 ≠ [] := by
    rw [hentries]
    intro e he
    rcases List.mem_pair.mp he with rfl | rfl
    · exact (by decide +kernel : first ≠ [])
    · exact (by decide +kernel : second ≠ [])
  have hguest : guest.text = second ++ rest := by decide +kernel
  have hfirst : ¬ first <:+: second ++ rest := by decide +kernel
  have hsecond : second ≠ [] := by decide +kernel
  have hrest : ¬ second <:+: rest := by decide +kernel
  rw [Registry.substitute, Registry.foldlM_substituteEntry hnonempty, hentries, hguest,
    List.foldl_cons, List.foldl_cons, List.foldl_nil, Text.put_of_not_isInfix hfirst,
    Text.put_of_startsWith hsecond, Text.put_of_not_isInfix hrest]

/-- An empty registry is given, which leaves all imports alone, and still the source of the built-in
registry is put in. -/
theorem empty_registry_is_not_used :
    let r : Registry := ⟨['r'], ['1'], []⟩
    let text := Registry.callContext.toList ++ "\ncontract M {}".toList
    ∃ f chosen, make plainTree {} (some (.constant (.text guest.text))) (some r)
        (some "/l".toList) none none = .ok (f, chosen) ∧
      f.Answers plainSystem plainTree guest [] (.ok (.text guest.text)) ∧
      r.substitute guest.text = .ok guest.text ∧
      (f.flatten plainSystem plainTree guest []).result =
        .ok (.flattened (guest.withText text) (Solidity.findImports text)) ∧
      text ≠ guest.text := by
  intro r text
  have hroot : (some "/l".toList).filter (fun root => decide (root ≠ [])) = some "/l".toList := by
    decide +kernel
  have hmake : make plainTree {} (some (.constant (.text guest.text))) (some r) (some "/l".toList)
      none none = .ok (leaving Registry.builtIn, some Registry.builtIn) := by
    rw [make_of_no_entries (r := r) rfl, make]
    simp only [Option.filter_none, Option.elim, Registry.choose_none_none, hroot,
      Option.getD_some, resolve_plainTree]
    rfl
  have hresult := result_of_answers imports_guest (answers_leaving Registry.builtIn)
  rw [leaving, substitute_builtIn_guest] at hresult
  have hguest : guest.text =
      "import {Context} from \"../utils/Context.sol\";".toList ++ "\ncontract M {}".toList := by
    decide +kernel
  refine ⟨_, _, hmake, answers_leaving _, rfl, hresult, fun h => ?_⟩
  rw [hguest] at h
  have hsources := String.toList_injective (List.append_cancel_right h)
  unfold Registry.callContext at hsources
  simp at hsources

end ContractVerifier.Flattener
