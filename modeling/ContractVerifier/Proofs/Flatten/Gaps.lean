import ContractVerifier.Flatten.ImportGraph
import ContractVerifier.Proofs.Solidity.Layout

set_option autoImplicit false

/-! # Imports in a text whose gaps were shrunk

`shrinkGaps` runs over the whole text, the imports in it included. What an import is written with
stays, in its order, so in a tidy text each import stays one, with its own gaps shrunk
(`reading_shrinkGaps`).
-/

namespace ContractVerifier.Flatten

open Solidity

variable {c : Char} {t u w : Text} {run : Nat}

/-! ## The loop -/

/-- What was kept is not looked at again. -/
theorem shrinkFrom_eq (run : Nat) (done t : Text) :
    shrinkFrom run done t = done.reverse ++ shrinkFrom run [] t := by
  induction t generalizing run done with
  | nil => simp [shrinkFrom]
  | cons c t ih =>
      rw [shrinkFrom, shrinkFrom]
      split
      · split
        · rw [ih (run + 1) (c :: done), ih (run + 1) [c]]
          simp
        · exact ih run done
      · rw [ih 0 (c :: done), ih 0 [c]]
        simp

theorem shrinkFrom_newline (h : run < 2) (t : Text) :
    shrinkFrom run [] ('\n' :: t) = '\n' :: shrinkFrom (run + 1) [] t := by
  rw [shrinkFrom, if_pos rfl, if_pos h, shrinkFrom_eq]
  rfl

theorem shrinkFrom_gap (h : ¬ run < 2) (t : Text) :
    shrinkFrom run [] ('\n' :: t) = shrinkFrom run [] t := by
  rw [shrinkFrom, if_pos rfl, if_neg h]

theorem shrinkFrom_cons (h : c ≠ '\n') (t : Text) :
    shrinkFrom run [] (c :: t) = c :: shrinkFrom 0 [] t := by
  rw [shrinkFrom, if_neg h, shrinkFrom_eq]
  rfl

/-- A character that is no line feed parts the text: both sides are shrunk on their own. -/
theorem shrinkFrom_append_cons (h : c ≠ '\n') (t u : Text) :
    shrinkFrom run [] (t ++ c :: u) = shrinkFrom run [] t ++ c :: shrinkFrom 0 [] u := by
  induction t generalizing run with
  | nil => exact shrinkFrom_cons h u
  | cons d t ih =>
      by_cases hd : d = '\n'
      · subst hd
        by_cases hrun : run < 2
        · rw [List.cons_append, shrinkFrom_newline hrun, shrinkFrom_newline hrun, ih,
            List.cons_append]
        · rw [List.cons_append, shrinkFrom_gap hrun, shrinkFrom_gap hrun, ih]
      · rw [List.cons_append, shrinkFrom_cons hd, shrinkFrom_cons hd, ih, List.cons_append]

/-- So does a line, or a part of one. -/
theorem shrinkFrom_append_line (hne : w ≠ []) (hw : '\n' ∉ w) (t u : Text) :
    shrinkFrom run [] (t ++ (w ++ u)) = shrinkFrom run [] t ++ (w ++ shrinkFrom 0 [] u) := by
  induction w generalizing t run with
  | nil => exact absurd rfl hne
  | cons c w ih =>
      simp only [List.mem_cons, not_or] at hw
      rw [List.cons_append, shrinkFrom_append_cons (Ne.symm hw.1)]
      cases w with
      | nil => rfl
      | cons d w =>
          have h : shrinkFrom 0 [] (d :: w ++ u) = d :: w ++ shrinkFrom 0 [] u :=
            ih (by simp) hw.2 []
          rw [h]
          rfl

theorem shrinkFrom_line_append (hne : w ≠ []) (hw : '\n' ∉ w) (u : Text) :
    shrinkFrom run [] (w ++ u) = w ++ shrinkFrom 0 [] u :=
  shrinkFrom_append_line hne hw [] u

theorem shrinkFrom_line (hw : '\n' ∉ w) : shrinkFrom run [] w = w := by
  cases w with
  | nil => rfl
  | cons c w =>
      have h : shrinkFrom run [] (c :: w ++ []) = c :: w ++ [] :=
        shrinkFrom_line_append (by simp) hw []
      rwa [List.append_nil] at h

theorem mem_of_mem_shrinkFrom (h : c ∈ shrinkFrom run [] t) : c ∈ t := by
  induction t generalizing run with
  | nil => simp [shrinkFrom] at h
  | cons d t ih =>
      by_cases hd : d = '\n'
      · subst hd
        by_cases hrun : run < 2
        · rw [shrinkFrom_newline hrun] at h
          rcases List.mem_cons.mp h with rfl | h
          · simp
          · exact List.mem_cons_of_mem _ (ih h)
        · rw [shrinkFrom_gap hrun] at h
          exact List.mem_cons_of_mem _ (ih h)
      · rw [shrinkFrom_cons hd] at h
        rcases List.mem_cons.mp h with rfl | h
        · simp
        · exact List.mem_cons_of_mem _ (ih h)

theorem shrinkGaps_ne_nil (h : t ≠ []) : shrinkGaps t ≠ [] := by
  obtain ⟨c, t, rfl⟩ := List.exists_cons_of_ne_nil h
  rw [shrinkGaps]
  by_cases hc : c = '\n'
  · subst hc
    simp [shrinkFrom_newline]
  · simp [shrinkFrom_cons hc]

/-! ## Imports -/

/-- An import with its gaps shrunk. -/
def shrunk (i : Import) : Import := ⟨shrinkGaps i.statement, shrinkGaps i.path⟩

theorem clause_shrinkFrom {clause path : Text} (h : Import.Clause clause path) (run : Nat) :
    Import.Clause (shrinkFrom run [] clause) (shrinkGaps path) := by
  obtain @⟨before, quotes, path, behind, quote, hbefore, hne, hquotes, hpne, hpath, hquote,
    hbehind⟩ := h
  have hnewline : ∀ x, isQuote x = true → x ≠ '\n' := by
    rintro x hx rfl
    exact absurd hx (by decide)
  have hquotes' : '\n' ∉ quotes := fun hmem => hnewline '\n' (hquotes '\n' hmem) rfl
  rw [shrinkFrom_append_line hne hquotes', shrinkFrom_append_cons (hnewline quote hquote),
    shrinkFrom_append_cons (by decide)]
  exact .mk (fun x hx => hbefore x (mem_of_mem_shrinkFrom hx)) hne hquotes
    (shrinkGaps_ne_nil hpne) (fun x hx => hpath x (mem_of_mem_shrinkFrom hx)) hquote
    (fun x hx => hbehind x (mem_of_mem_shrinkFrom hx))

theorem written_shrinkFrom {raw : Text} {i : Import} (h : Import.Written raw i) (run : Nat) :
    Import.Written (shrinkFrom run [] raw) (shrunk i) := by
  obtain @⟨indent, clause, path, c, hindent, hblank, hclause⟩ := h
  have hword : '\n' ∉ "import".toList := by simp
  have hline : '\n' ∉ indent := fun h => ne_newline_of_isIndent (hindent '\n' h) rfl
  -- a line feed behind the word begins a gap
  obtain ⟨run', hrun'⟩ :
      ∃ run', shrinkFrom 0 [] (c :: clause) = c :: shrinkFrom run' [] clause := by
    by_cases hc : c = '\n'
    · subst hc
      exact ⟨1, shrinkFrom_newline (by omega) clause⟩
    · exact ⟨0, shrinkFrom_cons hc clause⟩
  have hstatement : ∀ t : Text, '\n' ∉ t → ∀ run,
      shrinkFrom run [] (t ++ ("import".toList ++ c :: clause)) =
        t ++ ("import".toList ++ c :: shrinkFrom run' [] clause) := by
    intro t ht run
    rw [shrinkFrom_append_line (by simp) hword, shrinkFrom_line ht, hrun']
  have hshrunk : shrunk ⟨"import".toList ++ c :: clause, path⟩ =
      ⟨"import".toList ++ c :: shrinkFrom run' [] clause, shrinkGaps path⟩ := by
    rw [shrunk]
    congr 1
    exact hstatement [] (by simp) 0
  rw [hstatement indent hline, hshrunk]
  exact .mk hindent hblank (clause_shrinkFrom hclause run')

theorem reading_shrinkFrom {b : Bool} {is : List Import} (h : Reading b t is)
    (hrun : b = false → run = 0) : Reading b (shrinkFrom run [] t) (is.map shrunk) := by
  induction h generalizing run with
  | nil => exact .nil
  | @found raw t i is written rest ih =>
      obtain ⟨front, hfront⟩ := List.getLast?_eq_some_iff.mp written.getLast?_eq
      have hraw : shrinkFrom run [] (raw ++ t) = shrinkFrom run [] raw ++ shrinkFrom 0 [] t := by
        rw [hfront, List.append_assoc, List.singleton_append, shrinkFrom_append_cons (by decide),
          shrinkFrom_append_cons (by decide), List.append_assoc]
        rfl
      rw [hraw]
      exact .found (written_shrinkFrom written run) (ih fun _ => rfl)
  | @line b w t is single closed rest ih =>
      cases w with
      | nil =>
          rw [List.nil_append]
          by_cases hlt : run < 2
          · rw [shrinkFrom_newline hlt]
            exact .line (w := []) single closed (ih (by simp))
          · -- the line goes, and a line begins here already
            obtain rfl : b = true := by
              by_contra hb
              have := hrun (by simpa using hb)
              omega
            rw [shrinkFrom_gap hlt]
            exact ih (by simp)
      | cons c w =>
          rw [shrinkFrom_line_append (by simp) single, shrinkFrom_newline (by omega)]
          exact .line single closed (ih (by simp))
  | rest ne_nil single closed =>
      rw [shrinkFrom_line single]
      exact .rest ne_nil single closed

/-- **Shrinking the gaps of a tidy text shrinks those of its imports.** -/
theorem reading_shrinkGaps {is : List Import} (h : Reading true t is) :
    Reading true (shrinkGaps t) (is.map shrunk) :=
  reading_shrinkFrom h (by simp)

end ContractVerifier.Flatten
