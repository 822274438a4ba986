import ContractVerifier.Service.Verifier

set_option autoImplicit false

/-! # The verifier in use

There is one verifier at a time. It is made when it is first asked for, kept until it is
given up, and made anew when it is asked for again. The registry that was chosen for the first
one stays chosen.
-/

namespace ContractVerifier

/-- The verifier in use with its number, how many were made, and the registry chosen. -/
structure Lifecycle where
  current : Option (Nat × Verifier) := none
  made : Nat := 0
  chosen : Registry.Chosen := none

namespace Lifecycle

/-- Gives the verifier in use, and makes one if there is none. -/
def acquire (l : Lifecycle) (t : Tree) (c : Config) (depths : Flatten.Depths := {}) :
    Except Fault (Nat × Verifier) × Lifecycle :=
  match l.current with
  | some v => (.ok v, l)
  | none =>
    match Verifier.ofConfig t c l.chosen depths with
    | .error e => (.error e, l)
    | .ok (v, chosen) =>
      (.ok (l.made, v), { current := some (l.made, v), made := l.made + 1, chosen })

/-- Gives the verifier up. -/
def release (l : Lifecycle) : Lifecycle := { l with current := none }

theorem acquire_acquire {l l' : Lifecycle} {t t' : Tree} {c c' : Config}
    {depths depths' : Flatten.Depths} {v : Nat × Verifier}
    (h : l.acquire t c depths = (.ok v, l')) :
    l'.acquire t' c' depths' = (.ok v, l') := by
  unfold acquire at h
  split at h
  · rename_i w hw
    cases h
    simp [acquire, hw]
  · split at h
    · simp at h
    · simp only [Prod.mk.injEq, Except.ok.injEq] at h
      obtain ⟨rfl, rfl⟩ := h
      simp [acquire]

end Lifecycle

end ContractVerifier
