import ContractVerifier.Flatten.Flattener

set_option autoImplicit false

/-! # Backends that write

A backend may write files while it works. What it leaves in a call's directory goes with the
directory.

Main definition: `Flattener.flattenLeaving`.
-/

namespace ContractVerifier

namespace Flatten

/-- What a backend makes of the tree: by the tree it is given, the staged file and the import
root. -/
abbrev Traces := Tree → Path → Path → Tree

/-- The traces stay in the directory of the file that the backend is given. -/
def Traces.StayInside (traces : Traces) : Prop :=
  ∀ t file importRoot place, t.find file.parent = .ok (place, .directory) →
    ∀ l, (place <+: l → l = place) → (traces t file importRoot).node? l = t.node? l

end Flatten

namespace Flattener

open Flatten

/-- Flattens a source with a backend that leaves traces. They are in the tree when the call's
directory is removed. -/
def flattenLeaving (f : Flattener) (sys : System) (traces : Traces) (t : Tree)
    (source : ContractSource) (contractName : Text) : Call :=
  let call := f.flatten sys t source contractName
  match call.staged, f.stage sys.scratch t source.text contractName with
  | some _, .ok (directory, file, staged) =>
    { call with
      tree := removeDirectory directory (traces staged file (.ofLocation f.importRoot)) }
  | _, _ => call

/-- Without traces it is the same. -/
theorem flattenLeaving_nothing (f : Flattener) (sys : System) (t : Tree) (source : ContractSource)
    (contractName : Text) :
    f.flattenLeaving sys (fun t _ _ => t) t source contractName =
      f.flatten sys t source contractName := by
  unfold flattenLeaving flatten
  by_cases himports : Solidity.imports source.text = []
  · simp only [if_pos himports]
  · simp only [if_neg himports]
    cases f.stage sys.scratch t source.text contractName with
    | error e => rfl
    | ok place =>
        obtain ⟨directory, file, staged⟩ := place
        simp only
        cases f.backend.flatten sys.run staged file (.ofLocation f.importRoot) <;> rfl

end Flattener

end ContractVerifier
