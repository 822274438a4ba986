import ContractVerifier.Proofs.Flatten.Recursion

set_option autoImplicit false

/-! # How deep imports are nested

A file is inlined while the file that imports it is, so the calls for a file stand in as many others
as there are imports on the way to it, along the way that the walk took. **Nested beyond** a depth
is an entry for which some call would stand in more than `depth` others if it could
(`NestsBeyond`), and exactly then the walk comes to the end of its depth
(`nestsBeyond_iff_deepImports`).

Which way the walk takes depends on the order of the imports. Whatever the order, an entry is not
nested beyond the number of files that there are (`not_nestsBeyond_of_card_le`), and no file is
inlined that is further away than the depth (`exists_importsIn_of_flattenGraph`).
-/

namespace ContractVerifier.Flatten

open Solidity

variable {t : Tree} {roots : Roots} {a b c e r : Location} {text : Text} {n depth : Nat}
  {entry importRoot : Path}

/-! ## The way to a call -/

/-- The file at `b` is `n` imports away from the one at `a`, along some way. -/
inductive ImportsIn (t : Tree) (roots : Roots) : Nat → Location → Location → Prop
  | here {a : Location} : ImportsIn t roots 0 a a
  | step {n : Nat} {a b c : Location} (first : Imports t roots a b)
      (rest : ImportsIn t roots n b c) : ImportsIn t roots (n + 1) a c

/-- What can be reached is some number of imports away. -/
theorem exists_importsIn_of_reaches (h : Reaches t roots a b) : ∃ n, ImportsIn t roots n a b := by
  induction h using Relation.ReflTransGen.head_induction_on with
  | refl => exact ⟨0, .here⟩
  | head first _ ih =>
      obtain ⟨n, hway⟩ := ih
      exact ⟨n + 1, .step first hway⟩

/-- A call is for a file that is as many imports away as the call is deeper. -/
theorem importsIn_of_mem_inlineCalls {level : Nat} {p : Progress} {call : InlineCall}
    (htext : t.readText (.ofLocation a) = .ok text)
    (h : call ∈ inlineCalls t roots depth level a text p) :
    ∃ n, call.level = level + n ∧ ImportsIn t roots n a call.file := by
  induction depth generalizing level a text p with
  | zero =>
      obtain rfl := List.mem_singleton.mp h
      exact ⟨0, rfl, .here⟩
  | succ depth ih =>
      rw [inlineCalls, List.mem_cons] at h
      rcases h with rfl | h
      · exact ⟨0, rfl, .here⟩
      · obtain ⟨i, hi, q, h, -⟩ := exists_visit_of_mem_walkCalls [] h
        obtain ⟨b, text', q', hlead, htext', h, -⟩ :=
          exists_file_of_mem_visitCalls (inline t roots depth) h
        obtain ⟨n, hlevel, hway⟩ := ih htext' h
        exact ⟨n + 1, by omega, .step ⟨text, i, htext, hi, hlead⟩ hway⟩

/-! ## Beyond a depth -/

/-- The imports of the file at `e` are nested beyond `depth`: however deep calls may be, one of them
stands in more than `depth` others. -/
def NestsBeyond (t : Tree) (roots : Roots) (e : Location) (depth : Nat) : Prop :=
  ∃ text bound, t.readText (.ofLocation e) = .ok text ∧
    ∃ call ∈ entryCalls t roots e text bound, depth < call.level

/-- **The depth is used up exactly if imports are nested beyond it.** -/
theorem nestsBeyond_iff_deepImports (htext : t.readText (.ofLocation e) = .ok text) :
    NestsBeyond t roots e depth ↔
      (entryRun t roots e text (depth + 1)).1 = .error .deepImports := by
  constructor
  · rintro ⟨text', bound, htext', call, hcall, hbeyond⟩
    obtain rfl := Except.ok.inj (htext.symm.trans htext')
    by_contra hends
    have hlevel : ∀ c ∈ entryCalls t roots e text (depth + 1), c.level < 0 + (depth + 1) :=
      level_lt_of_ends hends
    rcases le_total bound (depth + 1) with hle | hle
    · have := (level_of_mem_inlineCalls hcall).1
      obtain rfl : bound = depth + 1 := by omega
      have := hlevel call hcall
      omega
    · -- the calls are the same with a greater bound, so none of them is deeper
      have hbound : ∀ c ∈ entryCalls t roots e text (depth + 1), c.level < 0 + bound :=
        fun c hc => lt_of_lt_of_le (hlevel c hc) (Nat.add_le_add_left hle 0)
      have hsame : entryCalls t roots e text bound = entryCalls t roots e text (depth + 1) :=
        (inline_eq_of_level_lt hends hbound).2
      have := hlevel call (hsame ▸ hcall)
      omega
  · intro hdeep
    obtain ⟨call, hcall, hlevel⟩ : ∃ c ∈ entryCalls t roots e text (depth + 1),
        c.level = 0 + (depth + 1) := exists_level_of_deepImports hdeep
    exact ⟨text, depth + 1, htext, call, hcall, by omega⟩

/-- Imports that are nested beyond a depth lead further than that. -/
theorem exists_importsIn_of_nestsBeyond (h : NestsBeyond t roots e depth) :
    ∃ n b, depth < n ∧ ImportsIn t roots n e b := by
  obtain ⟨text, bound, htext, call, hcall, hbeyond⟩ := h
  obtain ⟨n, hlevel, hway⟩ := importsIn_of_mem_inlineCalls htext hcall
  exact ⟨n, call.file, by omega, hway⟩

/-- A depth of as many as there are other files is enough, in whatever order they are imported. -/
theorem not_nestsBeyond_of_card_le (h : (insert e (pathsFound t roots)).card ≤ depth + 1) :
    ¬ NestsBeyond t roots e depth := by
  rintro ⟨text, bound, htext, hcalls⟩
  exact (room_entryRun text h).2
    ((nestsBeyond_iff_deepImports htext).mp ⟨text, bound, htext, hcalls⟩)

/-- **What a walk inlines is not further away than its depth.** -/
theorem exists_importsIn_of_flattenGraph {out : Text} (he : t.resolve entry = .ok e)
    (hr : t.resolve importRoot = .ok r) (h : flattenGraph depth t entry importRoot = .ok out)
    (hreaches : Reaches t ⟨r, e.dropLast⟩ e a) :
    ∃ n ≤ depth, ImportsIn t ⟨r, e.dropLast⟩ n e a := by
  obtain ⟨e', r', text, order, w⟩ := walked_of_flattenGraph h
  obtain rfl : e' = e := Except.ok.inj (w.entry_eq.symm.trans he)
  obtain rfl : r' = r := Except.ok.inj (w.root_eq.symm.trans hr)
  obtain ⟨hhandled, hfault⟩ := walkGraph_of_entryRun depth he hr w.text_eq
  have hok : ∀ x, (entryRun t ⟨r', e'.dropLast⟩ e' text (depth + 1)).1 ≠ .error x := by
    intro x hx
    cases h.symm.trans ((hfault x).mpr hx)
  -- the walk came to the file, so there is a call for it
  have hmem : a ∈ (entryRun t ⟨r', e'.dropLast⟩ e' text (depth + 1)).2.handled := by
    rw [← hhandled, w.search.mem_seen_iff, List.mem_singleton]
    by_cases ha : a = e'
    · exact .inl ha
    · rw [← w.files_eq]
      exact .inr ((w.mem_files_iff a).mpr ⟨ha, hreaches⟩)
  obtain ⟨seen, hbegun, -, hseen⟩ : Logged [] (entryCalls t ⟨r', e'.dropLast⟩ e' text (depth + 1))
      (entryRun t ⟨r', e'.dropLast⟩ e' text (depth + 1)) := logged_entryCalls (depth + 1)
  cases hrun : (entryRun t ⟨r', e'.dropLast⟩ e' text (depth + 1)).1 with
  | error x => exact absurd hrun (hok x)
  | ok body =>
      rw [hseen body hrun, hbegun.eq_append, List.nil_append, List.mem_map] at hmem
      obtain ⟨call, hcall, rfl⟩ := hmem
      obtain ⟨n, hlevel, hway⟩ := importsIn_of_mem_inlineCalls w.text_eq hcall
      have := level_lt_of_ends (hok _) call hcall
      exact ⟨n, by omega, hway⟩

end ContractVerifier.Flatten
