import ContractVerifier.Text.Basic
import Mathlib

set_option autoImplicit false

/-! # Occurrences of one text in another

`put s x t` is `t` with `x` in the place of the first occurrence of `s` and without the later ones.
Searching for the first occurrence and dropping occurrences are both of this form
(`put_eq_of_cut?`, `eraseAll_eq_put`), so one induction serves both.

An occurrence in `k ++ v` lies within `k` or within `v`, unless it begins in `k` and ends in `v`.
That takes a `k` that ends in an **unfinished** `s` (`Unfinished`, `occurrence_cases`).
-/

namespace ContractVerifier.Text

variable {s x k v t : Text}

theorem startsWith_iff : startsWith s t = true ↔ s <+: t := by
  rw [startsWith, Option.isSome_iff_exists]
  constructor
  · rintro ⟨r, hr⟩
    exact ⟨r, (after?_eq_some_iff.mp hr).symm⟩
  · rintro ⟨r, hr⟩
    exact ⟨r, after?_eq_some_iff.mpr hr.symm⟩

/-! ## Putting a text in the place of another -/

/-- `t` with `x` in the place of the first occurrence of `s` and without the later ones, found from
left to right and never overlapping. -/
def put (s x : Text) : Text → Text
  | [] => []
  | c :: t =>
    if startsWith s (c :: t) then x ++ put s [] (t.drop (s.length - 1)) else c :: put s x t
  termination_by t => t.length
  decreasing_by
    · rw [List.length_drop, List.length_cons]
      omega
    · rw [List.length_cons]
      omega

/-- At an occurrence. -/
theorem put_of_startsWith (hs : s ≠ []) (x t : Text) : put s x (s ++ t) = x ++ put s [] t := by
  obtain ⟨a, p, rfl⟩ := List.exists_cons_of_ne_nil hs
  have hstart : startsWith (a :: p) (a :: (p ++ t)) = true := startsWith_iff.mpr ⟨t, rfl⟩
  rw [List.cons_append, put, if_pos hstart]
  simp

/-- Before an occurrence, or where there is none. -/
theorem put_cons {c : Char} (h : ¬ s <+: c :: t) (x : Text) :
    put s x (c :: t) = c :: put s x t := by
  rw [put, if_neg]
  rwa [startsWith_iff]

/-- The loop that drops occurrences, without what it carries along. -/
theorem eraseFrom_eq (s : Text) (skip : Nat) (kept t : Text) :
    eraseFrom s skip kept t = kept.reverse ++ eraseFrom s 0 [] (t.drop skip) := by
  induction t generalizing skip kept with
  | nil =>
      rw [List.drop_nil, eraseFrom, eraseFrom, List.reverse_nil, List.append_nil]
  | cons c t ih =>
      cases skip with
      | succ skip =>
          rw [eraseFrom, ih]
          rfl
      | zero =>
          rw [List.drop_zero, eraseFrom, eraseFrom]
          split
          · rw [ih, ih (s.length - 1) []]
            rfl
          · rw [ih, ih 0 [c]]
            simp

theorem eraseAll_eq_put (s t : Text) : eraseAll s t = put s [] t := by
  rw [eraseAll]
  generalize hx : ([] : Text) = x
  fun_induction put s x t with
  | case1 x => subst hx; rfl
  | case2 x c t hstart ih =>
      subst hx
      rw [eraseFrom, if_pos hstart, eraseFrom_eq, ih rfl]
      rfl
  | case3 x c t hstart ih =>
      subst hx
      rw [eraseFrom, if_neg hstart, eraseFrom_eq, List.drop_zero, ih rfl]
      rfl

theorem put_eq_of_cutFrom (hs : s ≠ []) (x before t : Text) :
    (match cutFrom s before t with
      | none => before.reverse ++ t
      | some (head, tail) => head ++ x ++ eraseAll s tail) = before.reverse ++ put s x t := by
  induction t generalizing before with
  | nil => rw [cutFrom, if_neg hs, put]
  | cons c t ih =>
      rw [cutFrom]
      cases hafter : after? s (c :: t) with
      | some r =>
          have hr : c :: t = s ++ r := after?_eq_some_iff.mp hafter
          simp only [hr, put_of_startsWith hs, eraseAll_eq_put, List.append_assoc]
      | none =>
          have hnot : ¬ s <+: c :: t := by
            rw [← startsWith_iff, startsWith, hafter]
            exact Bool.false_ne_true
          have hgo := ih (c :: before)
          rw [put_cons hnot]
          simpa using hgo

/-- Cutting at the first occurrence and dropping the later ones. -/
theorem put_eq_of_cut? (hs : s ≠ []) (x t : Text) :
    put s x t = match cut? s t with
      | none => t
      | some (head, tail) => head ++ x ++ eraseAll s tail := by
  simpa [cut?] using (put_eq_of_cutFrom hs x [] t).symm

theorem put_of_not_isInfix (h : ¬ s <:+: t) (x : Text) : put s x t = t := by
  induction t with
  | nil => rw [put]
  | cons c t ih =>
      rw [List.infix_cons_iff, not_or] at h
      rw [put_cons h.1, ih h.2]

/-- Either there is nothing to do, or what stands before the first occurrence stays. -/
theorem put_cases (hs : s ≠ []) (x t : Text) :
    (¬ s <:+: t ∧ put s x t = t) ∨
      ∃ a b, t = a ++ s ++ b ∧ ¬ s <:+: a ∧ put s x t = a ++ x ++ put s [] b := by
  induction t with
  | nil =>
      have h : ¬ s <:+: [] := fun h => hs (List.infix_nil.mp h)
      exact .inl ⟨h, put_of_not_isInfix h x⟩
  | cons c t ih =>
      by_cases hstart : s <+: c :: t
      · obtain ⟨b, hb⟩ := hstart
        refine .inr ⟨[], b, hb.symm, fun h => hs (List.infix_nil.mp h), ?_⟩
        rw [← hb, put_of_startsWith hs]
        rfl
      · rcases ih with ⟨hnot, -⟩ | ⟨a, b, ht, ha, hput⟩
        · have h : ¬ s <:+: c :: t := by
            rw [List.infix_cons_iff, not_or]
            exact ⟨hstart, hnot⟩
          exact .inl ⟨h, put_of_not_isInfix h x⟩
        · refine .inr ⟨c :: a, b, by rw [ht]; rfl, ?_, ?_⟩
          · rw [List.infix_cons_iff, not_or]
            refine ⟨fun h => hstart (h.trans ⟨s ++ b, ?_⟩), ha⟩
            rw [ht]
            simp
          · rw [put_cons hstart, hput]
            rfl

/-! ## Unfinished occurrences -/

/-- `k` ends in an **unfinished** `s`: in a beginning of `s` that is not all of it. -/
def Unfinished (s k : Text) : Prop :=
  ∃ begun rest, begun ≠ [] ∧ rest ≠ [] ∧ s = begun ++ rest ∧ begun <:+ k

theorem Unfinished.of_suffix (h : Unfinished s k) (hk : k <:+ v) : Unfinished s v := by
  obtain ⟨begun, rest, hbegun, hrest, hs, hsuffix⟩ := h
  exact ⟨begun, rest, hbegun, hrest, hs, hsuffix.trans hk⟩

theorem not_unfinished_nil (s : Text) : ¬ Unfinished s [] := by
  rintro ⟨begun, rest, hbegun, -, -, hsuffix⟩
  exact hbegun (List.suffix_nil.mp hsuffix)

/-- What is unfinished at the end of two texts was begun in one of them. -/
theorem not_unfinished_append (hk : ¬ Unfinished s k) (hv : ¬ Unfinished s v) :
    ¬ Unfinished s (k ++ v) := by
  rintro ⟨begun, rest, hbegun, hrest, hs, hsuffix⟩
  rcases List.suffix_or_suffix_of_suffix hsuffix (List.suffix_append k v) with hin | ⟨early, hearly⟩
  · exact hv ⟨begun, rest, hbegun, hrest, hs, hin⟩
  · by_cases hnil : early = []
    · rw [hnil, List.nil_append] at hearly
      exact hv ⟨begun, rest, hbegun, hrest, hs, hearly ▸ List.suffix_refl _⟩
    · have hend : early <:+ k := by
        obtain ⟨front, hfront⟩ := hsuffix
        rw [← hearly, ← List.append_assoc] at hfront
        exact ⟨front, List.append_cancel_right hfront⟩
      refine hk ⟨early, v ++ rest, hnil, ?_, ?_, hend⟩
      · exact List.append_ne_nil_of_right_ne_nil v hrest
      · rw [hs, ← hearly, List.append_assoc]

/-- An occurrence in two texts lies in the first or in the second, unless it is begun and unfinished
at the end of the first. -/
theorem occurrence_cases {before behind : Text} (h : ¬ Unfinished s k)
    (hoccurs : k ++ v = before ++ s ++ behind) :
    (∃ rest, k = before ++ s ++ rest) ∨ ∃ gap, before = k ++ gap ∧ v = gap ++ s ++ behind := by
  rw [List.append_assoc, List.append_eq_append_iff] at hoccurs
  rcases hoccurs with ⟨gap, hbefore, hv⟩ | ⟨begun, hk, hs⟩
  · exact .inr ⟨gap, hbefore, by rw [hv, List.append_assoc]⟩
  · rw [List.append_eq_append_iff] at hs
    rcases hs with ⟨rest, hbegun, -⟩ | ⟨rest, hs, hv⟩
    · exact .inl ⟨rest, by rw [hk, hbegun, List.append_assoc]⟩
    · by_cases hbegun : begun = []
      · subst hbegun
        rw [List.nil_append] at hs
        exact .inr ⟨[], by rw [hk]; simp, by rw [hv, hs]; simp⟩
      · by_cases hrest : rest = []
        · subst hrest
          rw [List.append_nil] at hs
          exact .inl ⟨[], by rw [hk, hs]; simp⟩
        · exact absurd ⟨begun, rest, hbegun, hrest, hs, ⟨before, hk.symm⟩⟩ h

end ContractVerifier.Text
