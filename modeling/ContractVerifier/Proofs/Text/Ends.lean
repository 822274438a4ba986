import ContractVerifier.Text.Blank
import Mathlib

set_option autoImplicit false

/-! # What a text begins and ends with

How `after?`, runs of characters and cutting white space off the ends behave where one text is put
behind another.
-/

namespace ContractVerifier.Text

/-- A text begins with its longest run of characters with a property. -/
theorem exists_takeWhile_eq (p : Char → Bool) (t : Text) :
    ∃ run rest, t = run ++ rest ∧ t.takeWhile p = run ∧ (∀ c ∈ run, p c = true) ∧
      ∀ d rest', rest = d :: rest' → p d = false := by
  refine ⟨t.takeWhile p, t.dropWhile p, List.takeWhile_append_dropWhile.symm, rfl,
    fun c hc => List.mem_takeWhile_imp hc, ?_⟩
  intro d rest' hd
  have hne : t.dropWhile p ≠ [] := by simp [hd]
  have h := List.head_dropWhile_not p hne
  simpa [hd] using h

/-- Whether a text begins with `p`, what is put behind it does not tell if its first character is
none of `p`. -/
theorem after?_append {p g : Text} (hg : ∀ c ∈ g.head?, c ∉ p) (t : Text) :
    after? p (t ++ g) = (after? p t).map (· ++ g) := by
  induction p generalizing t with
  | nil => rfl
  | cons a p ih =>
      cases t with
      | nil =>
          cases g with
          | nil => rfl
          | cons c g =>
              have hne : a ≠ c := by
                rintro rfl
                exact hg a (by simp) (by simp)
              simp [after?, hne]
      | cons c t =>
          by_cases hac : a = c
          · simp only [after?, hac, if_true, List.cons_append]
            exact ih (fun x hx hmem => hg x hx (List.mem_cons_of_mem a hmem)) t
          · simp [after?, hac]

/-! ## White space -/

theorem dropWhile_append_blanks {g : Text} (hg : ∀ c ∈ g, isBlank c = true) (w : Text) :
    (w.dropWhile isBlank = [] ∧ (w ++ g).dropWhile isBlank = []) ∨
      (w ++ g).dropWhile isBlank = w.dropWhile isBlank ++ g := by
  induction w with
  | nil => exact .inl ⟨rfl, by simpa using hg⟩
  | cons c w ih =>
      by_cases hc : isBlank c = true
      · simpa [hc] using ih
      · exact .inr (by simp [hc])

theorem exists_stripEnd_append (t : Text) :
    ∃ g, t = stripEnd t ++ g ∧ ∀ c ∈ g, isBlank c = true :=
  ⟨t.rtakeWhile isBlank, (List.rdropWhile_append_rtakeWhile (p := isBlank)).symm,
    fun _ hc => List.mem_rtakeWhile_imp hc⟩

/-- Nothing is cut off before a character that is not white space. -/
theorem stripEnd_append_cons {c : Char} (hc : isBlank c = false) (t u : Text) :
    stripEnd (t ++ c :: u) = t ++ c :: stripEnd u := by
  rw [stripEnd, List.reverse_append, List.reverse_cons, List.append_assoc, List.dropWhile_append]
  split
  · rename_i h
    have hu : stripEnd u = [] := by
      rw [stripEnd, List.isEmpty_iff.mp h]
      rfl
    simp [hc, hu]
  · simp [stripEnd]

/-- All of a text that is white space is cut off, and what stands before it is next. -/
theorem stripEnd_append (t u : Text) :
    stripEnd (t ++ u) = if stripEnd u = [] then stripEnd t else t ++ stripEnd u := by
  simp only [stripEnd, List.reverse_append, List.dropWhile_append, List.isEmpty_iff,
    List.reverse_eq_nil_iff]
  split <;> simp

end ContractVerifier.Text
