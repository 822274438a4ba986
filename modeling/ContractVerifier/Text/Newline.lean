import ContractVerifier.Text.Basic

set_option autoImplicit false

/-! # Line ends

A text file may end its lines with a line feed, a carriage return or both. Reading gives
every line end as one line feed.
-/

namespace ContractVerifier.Text

/-- The loop of `unifyNewlines`: `done` is what was read, last character first, and
`afterReturn` tells that the last line end read was a carriage return. -/
def unifyFrom : Text → Bool → Text → Text
  | done, _, [] => done.reverse
  | done, afterReturn, c :: t =>
    if c = '\r' then unifyFrom ('\n' :: done) true t
    else if c = '\n' ∧ afterReturn then unifyFrom done false t
    else unifyFrom (c :: done) false t

/-- `t` with every line end written as one line feed. -/
def unifyNewlines (t : Text) : Text := unifyFrom [] false t

theorem unifyFrom_of_no_return {done t : Text} (h : '\r' ∉ t) :
    unifyFrom done false t = done.reverse ++ t := by
  induction t generalizing done with
  | nil => simp [unifyFrom]
  | cons c t ih =>
    simp only [List.mem_cons, not_or] at h
    have hc : ¬ c = '\r' := fun e => h.1 e.symm
    simp [unifyFrom, hc, ih h.2]

/-- A text without carriage returns stays. -/
theorem unifyNewlines_of_no_return {t : Text} (h : '\r' ∉ t) : unifyNewlines t = t := by
  simp [unifyNewlines, unifyFrom_of_no_return h]

end ContractVerifier.Text
