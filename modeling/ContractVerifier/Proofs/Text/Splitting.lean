import ContractVerifier.Text.Basic
import Mathlib

set_option autoImplicit false

/-! # Splitting texts

A text is split at the separators in it (`split_append`), and joining undoes that in both
directions (`join_split`, `split_join`).
-/

namespace ContractVerifier.Text

variable {sep : Char} {t u : Text}

/-- One character of a text that is split: the pieces that are complete, last first, and the one
that is not, last character first. -/
def splitStep (sep : Char) (done : List Text × Text) (c : Char) : List Text × Text :=
  if c = sep then (done.2.reverse :: done.1, []) else (done.1, c :: done.2)

theorem split_eq (sep : Char) (t : Text) :
    split sep t =
      ((t.foldl (splitStep sep) ([], [])).2.reverse ::
        (t.foldl (splitStep sep) ([], [])).1).reverse := rfl

/-- The pieces that are complete make no difference to what follows. -/
theorem foldl_splitStep_append (t : Text) (done done' : List Text) (begun : Text) :
    t.foldl (splitStep sep) (done ++ done', begun) =
      ((t.foldl (splitStep sep) (done, begun)).1 ++ done',
        (t.foldl (splitStep sep) (done, begun)).2) := by
  induction t generalizing done begun with
  | nil => rfl
  | cons c t ih =>
      rw [List.foldl_cons, List.foldl_cons]
      by_cases hc : c = sep
      · simp only [splitStep, if_pos hc]
        exact ih (begun.reverse :: done) []
      · simp only [splitStep, if_neg hc]
        exact ih done (c :: begun)

/-- Splitting at a separator. -/
theorem split_append (t u : Text) : split sep (t ++ sep :: u) = split sep t ++ split sep u := by
  rw [split_eq, split_eq sep t, split_eq sep u, List.foldl_append, List.foldl_cons]
  generalize t.foldl (splitStep sep) ([], []) = done
  have hstep : splitStep sep done sep = ([] ++ done.2.reverse :: done.1, []) := if_pos rfl
  rw [hstep, foldl_splitStep_append]
  simp

theorem split_of_not_mem (h : sep ∉ t) : split sep t = [t] := by
  have hfold : ∀ begun, t.foldl (splitStep sep) ([], begun) = ([], t.reverse ++ begun) := by
    induction t with
    | nil => exact fun _ => rfl
    | cons c t ih =>
        intro begun
        rw [List.mem_cons, not_or] at h
        have hc : ¬ c = sep := fun hc => h.1 hc.symm
        rw [List.foldl_cons, splitStep, if_neg hc, ih h.2]
        simp
  rw [split_eq, hfold]
  simp

/-- A text that begins with a piece. -/
theorem split_piece {p : Text} (hp : sep ∉ p) (u : Text) :
    split sep (p ++ sep :: u) = p :: split sep u := by
  rw [split_append, split_of_not_mem hp, List.singleton_append]

/-- Every text is one piece or begins with a piece and a separator. -/
theorem split_induction (sep : Char) {motive : Text → Prop} (plain : ∀ t, sep ∉ t → motive t)
    (piece : ∀ p u, sep ∉ p → motive u → motive (p ++ sep :: u)) (t : Text) : motive t := by
  induction hn : t.length using Nat.strong_induction_on generalizing t with
  | _ n ih =>
    by_cases h : sep ∈ t
    · obtain ⟨p, u, rfl, hp⟩ := List.eq_append_cons_of_mem h
      have hlt : u.length < n := by
        rw [← hn, List.length_append, List.length_cons]
        omega
      exact piece p u hp (ih u.length hlt u rfl)
    · exact plain t h

theorem split_ne_nil (sep : Char) (t : Text) : split sep t ≠ [] := by
  rw [split_eq]
  simp

theorem not_mem_of_mem_split {p : Text} (h : p ∈ split sep t) : sep ∉ p := by
  induction t using split_induction sep with
  | plain t ht =>
      rw [split_of_not_mem ht, List.mem_singleton] at h
      rwa [h]
  | piece q u hq ih =>
      rw [split_piece hq, List.mem_cons] at h
      rcases h with rfl | hu
      · exact hq
      · exact ih hu

theorem join_singleton (p : Text) : join [sep] [p] = p := by
  simp [join, List.intercalate]

theorem join_cons {parts : List Text} (h : parts ≠ []) (p : Text) :
    join [sep] (p :: parts) = p ++ sep :: join [sep] parts := by
  obtain ⟨q, parts, rfl⟩ := List.exists_cons_of_ne_nil h
  simp [join, List.intercalate]

theorem join_append {parts parts' : List Text} (h : parts ≠ []) (h' : parts' ≠ []) :
    join [sep] (parts ++ parts') = join [sep] parts ++ sep :: join [sep] parts' := by
  induction parts with
  | nil => exact absurd rfl h
  | cons p parts ih =>
      by_cases hparts : parts = []
      · rw [hparts, List.singleton_append, join_cons h', join_singleton]
      · rw [List.cons_append, join_cons (List.append_ne_nil_of_left_ne_nil hparts parts'),
          ih hparts, join_cons hparts, List.append_assoc, List.cons_append]

theorem mem_join {parts : List Text} {c : Char} (h : c ∈ join [sep] parts) :
    c = sep ∨ ∃ p ∈ parts, c ∈ p := by
  induction parts with
  | nil => cases h
  | cons p parts ih =>
      by_cases hparts : parts = []
      · rw [hparts, join_singleton] at h
        exact .inr ⟨p, List.mem_cons_self, h⟩
      · rw [join_cons hparts, List.mem_append, List.mem_cons] at h
        rcases h with hp | hsep | hrest
        · exact .inr ⟨p, List.mem_cons_self, hp⟩
        · exact .inl hsep
        · exact (ih hrest).imp_right fun ⟨q, hq, hc⟩ => ⟨q, List.mem_cons_of_mem p hq, hc⟩

/-- The pieces of a text, joined again. -/
theorem join_split (sep : Char) (t : Text) : join [sep] (split sep t) = t := by
  induction t using split_induction sep with
  | plain t ht => rw [split_of_not_mem ht, join_singleton]
  | piece p u hp ih => rw [split_piece hp, join_cons (split_ne_nil sep u), ih]

theorem infix_join_of_mem {parts : List Text} {p : Text} (h : p ∈ parts) :
    p <:+: join [sep] parts := by
  induction parts with
  | nil => cases h
  | cons q parts ih =>
      by_cases hparts : parts = []
      · rw [hparts, List.mem_singleton] at h
        rw [hparts, join_singleton, h]
      · rw [join_cons hparts]
        rcases List.mem_cons.mp h with rfl | hrest
        · exact (List.prefix_append p _).isInfix
        · have hsuffix : join [sep] parts <:+ q ++ sep :: join [sep] parts :=
            ⟨q ++ [sep], by simp⟩
          exact (ih hrest).trans hsuffix.isInfix

theorem infix_of_mem_split {p : Text} (h : p ∈ split sep t) : p <:+: t := by
  rw [← join_split sep t]
  exact infix_join_of_mem h

/-- Joined pieces, split again. -/
theorem split_join {parts : List Text} (hne : parts ≠ []) (h : ∀ p ∈ parts, sep ∉ p) :
    split sep (join [sep] parts) = parts := by
  induction parts with
  | nil => exact absurd rfl hne
  | cons p parts ih =>
      have hp : sep ∉ p := h p List.mem_cons_self
      by_cases hparts : parts = []
      · rw [hparts, join_singleton, split_of_not_mem hp]
      · have hrest := ih hparts fun q hq => h q (List.mem_cons_of_mem p hq)
        rw [join_cons hparts, split_piece hp, hrest]

/-- Cutting at the first place where a character stands. -/
theorem cut?_append {before : Text} (h : sep ∉ before) (behind : Text) :
    cut? [sep] (before ++ sep :: behind) = some (before, behind) := by
  have hfrom : ∀ passed, cutFrom [sep] passed (before ++ sep :: behind) =
      some (passed.reverse ++ before, behind) := by
    induction before with
    | nil =>
        intro passed
        rw [List.nil_append, cutFrom]
        simp [after?]
    | cons c before ih =>
        intro passed
        rw [List.mem_cons, not_or] at h
        rw [List.cons_append, cutFrom, after?, if_neg h.1, ih h.2]
        simp
  exact hfrom []

end ContractVerifier.Text
