import ContractVerifier.Proofs.Json.Members
import ContractVerifier.Proofs.Registry.Substitution
import ContractVerifier.Proofs.Solidity.Layout
import ContractVerifier.Proofs.Text.Splitting
import ContractVerifier.Registry.BuiltIn

set_option autoImplicit false

/-! # Statements in their places

Imports are looked for where a line begins, and registered statements anywhere. So a statement that
is replaced can leave a line behind that begins in the way an import does.

It leaves none if the statements of the text are **in place** (`InPlace`): each is an import of its
own, or the line before it opens none whatever follows. With a registry whose sources open no
imports (`Tame`), as those of the built-in one (`tame_builtIn`), the imports of the result are then
among those of the text (`imports_substitute`).
-/

namespace ContractVerifier.Registry

open Text Solidity

variable {r : Registry} {g s t u v w x : Text} {b : Bool} {is : List Import}

/-! ## Lines that open no import, whatever follows -/

/-- Whatever follows `u` on its line, the line opens no import. -/
def Closing (u : Text) : Prop := ∀ v, opensImport (u ++ v) = false

theorem closing_cons {c : Char} (hblank : isBlank c = false) (hc : c ≠ 'i') (t : Text) :
    Closing (c :: t) := fun v => opensImport_cons hblank hc (t ++ v)

theorem Closing.append (h : Closing u) (v : Text) : Closing (u ++ v) := by
  intro v'
  rw [List.append_assoc]
  exact h (v ++ v')

theorem Closing.append_left (hg : ∀ c ∈ g, isBlank c = true) (h : Closing u) :
    Closing (g ++ u) := by
  intro v
  rw [List.append_assoc, opensImport_append_left hg]
  exact h v

theorem Closing.ne_nil (h : Closing u) : u ≠ [] := by
  rintro rfl
  exact absurd (h "import".toList) (by decide)

/-- What stands in the line `w` before a registered statement opens no import, whatever follows. -/
def Covered (r : Registry) (w : Text) : Prop :=
  ∀ s ∈ r.statements, ∀ u v, w = u ++ s ++ v → Closing u

theorem covered_of_not_isInfix (h : ∀ s ∈ r.statements, ¬ s <:+: w) : r.Covered w :=
  fun s hs u v hw => absurd ⟨u, v, hw.symm⟩ (h s hs)

theorem Covered.of_append (h : r.Covered (u ++ v)) : r.Covered u := by
  rintro s hs u' v' rfl
  exact h s hs u' (v' ++ v) (by simp)

/-- A line that begins with `u` is decided: it opens no import and its statements are covered,
whatever follows. -/
structure Decided (r : Registry) (u : Text) : Prop where
  single : '\n' ∉ u
  closing : Closing u
  covered : r.Covered u
  closed : r.Closed u

theorem Decided.covered_append (h : r.Decided u) (v : Text) : r.Covered (u ++ v) := by
  intro s hs before behind hoccurs
  rcases occurrence_cases (h.closed s hs) hoccurs with ⟨rest, hu⟩ | ⟨gap, rfl, -⟩
  · exact h.covered s hs before rest hu
  · exact h.closing.append gap

theorem Closed.of_suffix (h : r.Closed t) (hu : u <:+ t) : r.Closed u :=
  fun s hs hunfinished => h s hs (hunfinished.of_suffix hu)

/-- A text is closed if statements have its last character at their end only. -/
theorem closed_of_getLast? {c : Char} (hc : ∀ s ∈ r.statements, c ∉ s.dropLast)
    (h : t.getLast? = some c) : r.Closed t := by
  rintro s hs ⟨begun, rest, hbegun, hrest, rfl, front, rfl⟩
  rw [List.getLast?_append_of_ne_nil front hbegun] at h
  refine hc _ hs ?_
  rw [List.dropLast_append_of_ne_nil hrest]
  exact List.mem_append_left _ (List.mem_of_getLast? h)

/-! ## Tame registries -/

/-- Lines of which none opens an import, the last one whatever follows. -/
inductive Inert (r : Registry) : Text → Prop where
  | last {w : Text} (single : '\n' ∉ w) (closing : Closing w) (covered : r.Covered w) : Inert r w
  | line {w x : Text} (single : '\n' ∉ w) (closed : opensImport w = false) (covered : r.Covered w)
      (rest : Inert r x) : Inert r (w ++ '\n' :: x)

/-- A registry is tame if its statements stand on one line from the `i` of `import` to their only
semicolon, and its sources open no imports. -/
structure Tame (r : Registry) : Prop where
  single : ∀ s ∈ r.statements, '\n' ∉ s
  begins : ∀ s ∈ r.statements, s.head? = some 'i'
  ends : ∀ s ∈ r.statements, ';' ∉ s.dropLast
  sources : ∀ e ∈ r.entries, r.Inert e.2 ∧ r.Apart e.2 ∧ r.Closed e.2

theorem not_mem_of_isIndent (hg : ∀ c ∈ g, isIndent c = true) : 'i' ∉ g :=
  fun hmem => absurd (hg 'i' hmem) (by decide)

namespace Tame

variable (tame : r.Tame)

include tame

theorem nonempty (hs : s ∈ r.statements) : s ≠ [] := by
  rintro rfl
  cases tame.begins [] hs

/-- An import ends in no beginning of a statement. -/
theorem closed_written {raw : Text} {i : Import} (h : Import.Written raw i) : r.Closed raw :=
  closed_of_getLast? tame.ends h.getLast?_eq

/-- Nor does a line with its end. -/
theorem closed_line (w : Text) : r.Closed (w ++ ['\n']) := by
  refine closed_of_getLast? (c := '\n') (fun s hs hmem => ?_) (by simp)
  exact tame.single s hs (List.mem_of_mem_dropLast hmem)

theorem closed_indent (hg : ∀ c ∈ g, isIndent c = true) : r.Closed g := by
  rintro s hs ⟨begun, rest, hbegun, -, rfl, hsuffix⟩
  have hhead := tame.begins _ hs
  rw [List.head?_append_of_ne_nil _ hbegun] at hhead
  exact not_mem_of_isIndent hg (hsuffix.subset (List.mem_of_mem_head? hhead))

/-- No statement stands in an indentation. -/
theorem not_isInfix_indent (hg : ∀ c ∈ g, isIndent c = true) (hs : s ∈ r.statements) :
    ¬ s <:+: g := fun h =>
  not_mem_of_isIndent hg (h.subset (List.mem_of_mem_head? (tame.begins s hs)))

theorem covered_indent (hg : ∀ c ∈ g, isIndent c = true) (h : r.Covered w) :
    r.Covered (g ++ w) := by
  intro s hs before behind hoccurs
  rcases occurrence_cases (tame.closed_indent hg s hs) hoccurs with ⟨rest, hg'⟩ | ⟨gap, rfl, hw⟩
  · exact absurd ⟨before, rest, hg'.symm⟩ (tame.not_isInfix_indent hg hs)
  · exact (h s hs gap behind hw).append_left fun c hc => isBlank_of_isIndent (hg c hc)

/-- A statement in a line and what follows stands in the line or in what follows. -/
theorem line_cases {before behind : Text} (hs : s ∈ r.statements)
    (h : w ++ '\n' :: t = before ++ s ++ behind) :
    (∃ rest, w = before ++ s ++ rest ∧ behind = rest ++ '\n' :: t) ∨
      ∃ gap, before = w ++ '\n' :: gap ∧ t = gap ++ s ++ behind := by
  rw [List.append_cons w '\n' t] at h
  rcases occurrence_cases (tame.closed_line w s hs) h with ⟨rest, hw⟩ | ⟨gap, rfl, ht⟩
  · -- the line feed is not part of the statement
    rcases List.eq_nil_or_concat rest with rfl | ⟨rest, c, rfl⟩
    · have hlast := congrArg List.getLast? hw
      rw [List.append_nil, List.getLast?_append, List.getLast?_append,
        List.getLast?_eq_some_getLast (tame.nonempty hs)] at hlast
      have hmem : s.getLast (tame.nonempty hs) = '\n' := by simpa using hlast.symm
      exact absurd (hmem ▸ List.getLast_mem (tame.nonempty hs)) (tame.single s hs)
    · rw [List.concat_eq_append, ← List.append_assoc] at hw
      obtain ⟨rfl, hc⟩ := List.append_inj' hw rfl
      refine .inl ⟨rest, rfl, ?_⟩
      have hbehind := h.symm
      simp only [List.append_assoc, List.append_cancel_left_eq] at hbehind
      simpa using hbehind
  · exact .inr ⟨gap, by simp, ht⟩

end Tame

/-! ## A text whose statements are in place -/

/-- The search for imports goes through a text, as in a `Reading`, and the registered statements it
comes by are imports of their own or are covered. -/
inductive Placed (r : Registry) : Bool → Text → List Import → Prop where
  | nil {b : Bool} : Placed r b [] []
  | found {raw t : Text} {i : Import} {is : List Import} (written : Import.Written raw i)
      (whole : ∀ s ∈ r.statements, s <:+: i.statement → s = i.statement)
      (rest : Placed r false t is) : Placed r true (raw ++ t) (i :: is)
  | line {b : Bool} {w t : Text} {is : List Import} (single : '\n' ∉ w)
      (closed : opensImport w = false) (covered : r.Covered w) (rest : Placed r true t is) :
      Placed r b (w ++ '\n' :: t) is
  | rest {b : Bool} {w : Text} (ne_nil : w ≠ []) (single : '\n' ∉ w)
      (closed : opensImport w = false) (covered : r.Covered w) : Placed r b w []

/-- What is left of a line, whatever it is, and the lines behind it. -/
inductive Remainder (r : Registry) : Text → List Import → Prop where
  | last {v : Text} (single : '\n' ∉ v) : Remainder r v []
  | line {v t : Text} {is : List Import} (single : '\n' ∉ v) (rest : r.Placed true t is) :
      Remainder r (v ++ '\n' :: t) is

namespace Placed

theorem reading (h : r.Placed b t is) : Reading b t is := by
  induction h with
  | nil => exact .nil
  | found written whole rest ih => exact .found written ih
  | line single closed covered rest ih => exact .line single closed ih
  | rest ne_nil single closed covered => exact .rest ne_nil single closed

/-- What follows an import is left of its line. -/
theorem remainder (h : r.Placed false t is) : r.Remainder t is := by
  cases h with
  | nil => exact .last (by simp)
  | line single closed covered rest => exact .line single rest
  | rest ne_nil single closed covered => exact .last single

/-- What is left of a line can be indented to make a line. -/
theorem indent (tame : r.Tame) (hg : ∀ c ∈ g, isIndent c = true) (h : r.Placed false t is) :
    r.Placed b (g ++ t) is := by
  have hsingle : '\n' ∉ g := fun hmem => ne_newline_of_isIndent (hg '\n' hmem) rfl
  have hclosed : ∀ w, opensImport (g ++ w) = opensImport w :=
    opensImport_append_left fun c hc => isBlank_of_isIndent (hg c hc)
  cases h with
  | nil =>
      rw [List.append_nil]
      cases g with
      | nil => exact .nil
      | cons c g =>
          have hnil : opensImport [] = false := by decide
          refine .rest (by simp) hsingle ?_ ?_
          · simpa [hnil] using hclosed []
          · exact covered_of_not_isInfix fun s hs => tame.not_isInfix_indent hg hs
  | line single closed covered rest =>
      rw [← List.append_assoc]
      exact .line (List.not_mem_append hsingle single) ((hclosed _).trans closed)
        (tame.covered_indent hg covered) rest
  | rest ne_nil single closed covered =>
      exact .rest (List.append_ne_nil_of_right_ne_nil g ne_nil) (List.not_mem_append hsingle single)
        ((hclosed _).trans closed) (tame.covered_indent hg covered)

end Placed

/-- A line that is decided may go on in any way. -/
theorem Decided.placed (hu : r.Decided u) (h : r.Remainder t is) : r.Placed b (u ++ t) is := by
  cases h with
  | last single =>
      exact .rest (List.append_ne_nil_of_left_ne_nil hu.closing.ne_nil t)
        (List.not_mem_append hu.single single) (hu.closing t) (hu.covered_append t)
  | @line v t is single rest =>
      rw [← List.append_assoc]
      exact .line (List.not_mem_append hu.single single) (hu.closing v) (hu.covered_append v) rest

namespace Inert

/-- Inert lines in front of what is left of a line. -/
theorem placed (hx : r.Inert x) (hclosed : r.Closed x) (h : r.Remainder t is) :
    r.Placed b (x ++ t) is := by
  induction hx generalizing b with
  | last single closing covered => exact Decided.placed ⟨single, closing, covered, hclosed⟩ h
  | @line w x single closed covered rest ih =>
      rw [List.append_assoc]
      exact .line single closed covered (ih (hclosed.of_suffix ⟨w ++ ['\n'], by simp⟩))

/-- The first of inert lines may begin in any way that is decided. -/
theorem prepend (hx : r.Inert x) (hu : r.Decided u) : r.Inert (u ++ x) := by
  cases hx with
  | last single closing covered =>
      exact .last (List.not_mem_append hu.single single) (hu.closing.append x) (hu.covered_append x)
  | @line w x single closed covered rest =>
      rw [← List.append_assoc]
      exact .line (List.not_mem_append hu.single single) (hu.closing w) (hu.covered_append w) rest

theorem indent (tame : r.Tame) (hx : r.Inert x) (hg : ∀ c ∈ g, isIndent c = true) :
    r.Inert (g ++ x) := by
  have hblank : ∀ c ∈ g, isBlank c = true := fun c hc => isBlank_of_isIndent (hg c hc)
  have hsingle : '\n' ∉ g := fun hmem => ne_newline_of_isIndent (hg '\n' hmem) rfl
  cases hx with
  | last single closing covered =>
      exact .last (List.not_mem_append hsingle single) (closing.append_left hblank)
        (tame.covered_indent hg covered)
  | @line w x single closed covered rest =>
      rw [← List.append_assoc]
      exact .line (List.not_mem_append hsingle single)
        ((opensImport_append_left hblank w).trans closed) (tame.covered_indent hg covered) rest

end Inert

/-! ## One replacement -/

/-- What may stand in the place of a statement: nothing, or a source that opens no import. -/
def Fits (r : Registry) (x : Text) : Prop := x = [] ∨ r.Inert x ∧ r.Closed x

/-- In place of a statement in a line. -/
theorem placed_inLine (hx : r.Fits x) (hu : r.Decided u) (h : r.Remainder t is) :
    r.Placed b (u ++ x ++ t) is := by
  rcases hx with rfl | ⟨hinert, hx⟩
  · rw [List.append_nil]
    exact hu.placed h
  · exact (hinert.prepend hu).placed (closed_append hu.closed hx) h

/-- In place of a statement that is an import. -/
theorem placed_inImport (tame : r.Tame) (hx : r.Fits x) (hg : ∀ c ∈ g, isIndent c = true)
    (h : r.Placed false t is) : r.Placed b (g ++ x ++ t) is := by
  rcases hx with rfl | ⟨hinert, hx⟩
  · rw [List.append_nil]
    exact h.indent tame hg
  · exact (hinert.indent tame hg).placed (closed_append (tame.closed_indent hg) hx) h.remainder

/-- The line before a statement in it is decided. -/
theorem decided_before (hs : s ∈ r.statements) (hclosed : r.Closed u)
    (single : '\n' ∉ u ++ s ++ v) (covered : r.Covered (u ++ s ++ v)) :
    r.Decided u ∧ '\n' ∉ v := by
  have hclosing : Closing u := covered s hs u v rfl
  rw [List.append_assoc] at single covered
  rw [List.mem_append, List.mem_append, not_or, not_or] at single
  exact ⟨⟨single.1, hclosing, covered.of_append, hclosed⟩, single.2.2⟩

/-- **One statement is replaced** in a text whose statements are in place. They are in place in the
new text, and no import is in it that was not in the old one. -/
theorem Placed.replace (tame : r.Tame) (hx : r.Fits x) (hs : s ∈ r.statements)
    {before behind : Text} (hclosed : r.Closed before) (h : r.Placed b t is)
    (ht : t = before ++ s ++ behind) : ∃ js, js.Sublist is ∧ r.Placed b (before ++ x ++ behind) js := by
  induction h generalizing before with
  | nil =>
      have hnil : before ++ s ++ behind ≠ [] := by simp [tame.nonempty hs]
      exact absurd ht.symm hnil
  | @found raw t i is written whole rest ih =>
      rcases occurrence_cases (tame.closed_written written s hs) ht with
        ⟨after, hraw⟩ | ⟨gap, rfl, ht'⟩
      · -- the statement is the import, without its indentation
        obtain ⟨indent, hindent, rfl, -⟩ := written.exists_indent
        rcases occurrence_cases (tame.closed_indent hindent s hs) hraw with
          ⟨rest', hindent'⟩ | ⟨gap, rfl, hstatement⟩
        · exact absurd ⟨before, rest', hindent'.symm⟩ (tame.not_isInfix_indent hindent hs)
        · have hwhole := whole s hs ⟨gap, after, hstatement.symm⟩
          have hlength := congrArg List.length hstatement
          rw [← hwhole, List.length_append, List.length_append] at hlength
          obtain rfl : gap = [] := List.length_eq_zero_iff.mp (by omega)
          obtain rfl : after = [] := List.length_eq_zero_iff.mp (by omega)
          rw [List.append_nil, ← hwhole, List.append_cancel_left_eq] at ht
          rw [List.append_nil, ← ht]
          exact ⟨is, List.sublist_cons_self i is, placed_inImport tame hx hindent rest⟩
      · obtain ⟨js, hjs, hplaced⟩ := ih (hclosed.of_suffix (List.suffix_append raw gap)) ht'
        refine ⟨i :: js, hjs.cons_cons i, ?_⟩
        rw [List.append_assoc, List.append_assoc, ← List.append_assoc gap]
        exact .found written whole hplaced
  | @line b w t is single closed covered rest ih =>
      rcases tame.line_cases hs ht with ⟨v, rfl, rfl⟩ | ⟨gap, rfl, ht'⟩
      · obtain ⟨hdecided, hv⟩ := decided_before hs hclosed single covered
        exact ⟨is, List.Sublist.refl is, placed_inLine hx hdecided (.line hv rest)⟩
      · obtain ⟨js, hjs, hplaced⟩ := ih (hclosed.of_suffix ⟨w ++ ['\n'], by simp⟩) ht'
        refine ⟨js, hjs, ?_⟩
        rw [List.append_assoc, List.append_assoc]
        exact .line single closed covered (by simpa using hplaced)
  | @rest b w ne_nil single closed covered =>
      subst ht
      obtain ⟨hdecided, hbehind⟩ := decided_before hs hclosed single covered
      exact ⟨[], List.Sublist.refl [], placed_inLine hx hdecided (.last hbehind)⟩

/-! ## Going through a registry -/

/-- The statements of a text are **in place**. The text is tidy and they stay apart in it; one that
is in an import is all of it, and where one stands elsewhere, what stands before it on its line opens
no import. -/
structure InPlace (r : Registry) (t : Text) : Prop where
  tidy : Tidy t
  apart : r.Apart t
  whole : ∀ i ∈ imports t, ∀ s ∈ r.statements, s <:+: i.statement → s = i.statement
  covered : ∀ l, .plain l ∈ pieces Import.recognise t → r.Covered l

theorem placed_of_reading (h : Reading b t is)
    (hwhole : ∀ i ∈ is, ∀ s ∈ r.statements, s <:+: i.statement → s = i.statement)
    (hcovered : ∀ l, .plain l ∈ piecesFrom Import.recognise b t → r.Covered l) :
    r.Placed b t is := by
  induction h with
  | nil => exact .nil
  | @found raw t i is written rest ih =>
      have hrec := Import.recognise_eq_some_iff.mpr ⟨t, rfl, written⟩
      rw [piecesFrom_found written.ne_nil hrec, written.getLast?_eq] at hcovered
      exact .found written (hwhole i (by simp)) (ih
        (fun j hj => hwhole j (List.mem_cons_of_mem i hj))
        fun l hl => hcovered l (List.mem_cons_of_mem _ hl))
  | @line b w t is single closed rest ih =>
      rw [piecesFrom_line single fun _ => recognise_line single closed t] at hcovered
      exact .line single closed (hcovered _ List.mem_cons_self).of_append
        (ih hwhole fun l hl => hcovered l (List.mem_cons_of_mem _ hl))
  | @rest b w ne_nil single closed =>
      rw [piecesFrom_rest ne_nil single fun _ => recognise_rest single closed] at hcovered
      exact .rest ne_nil single closed (hcovered w (by simp))

theorem InPlace.placed (h : r.InPlace t) : r.Placed true t (imports t) :=
  placed_of_reading h.tidy.reading h.whole h.covered

theorem Apart.of_isPrefix (h : r.Apart t) (hu : u <+: t) : r.Apart u := by
  obtain ⟨v, rfl⟩ := hu
  rintro before s behind rfl hs
  exact h before s (behind ++ v) (by simp) hs

open Relation (ReflTransGen)

/-- Replacing one statement keeps all in place, and brings in no import. -/
theorem Replaces.keeps (tame : r.Tame) (h : r.Replaces t u) (hplaced : r.Placed b t is)
    (hapart : r.Apart t) : ∃ js, js.Sublist is ∧ r.Placed b u js ∧ r.Apart u := by
  obtain @⟨s, x, before, behind, h⟩ := h
  have hs : s ∈ r.statements := h.elim mem_statements And.left
  have hx : r.Fits x ∧ r.Apart x ∧ r.Closed x := by
    rcases h with he | ⟨-, rfl⟩
    · obtain ⟨hinert, hsource⟩ := tame.sources _ he
      exact ⟨.inr ⟨hinert, hsource.2⟩, hsource⟩
    · exact ⟨.inl rfl, apart_nil fun s hs => tame.nonempty hs, closed_nil⟩
  have hclosed : r.Closed before := hapart before s behind rfl hs
  obtain ⟨js, hjs, hplaced'⟩ := hplaced.replace tame hx.1 hs hclosed rfl
  refine ⟨js, hjs, hplaced', ?_⟩
  have hbefore : r.Apart before := hapart.of_isPrefix ⟨s ++ behind, by simp⟩
  exact apart_append (apart_append hbefore hclosed hx.2.1) (closed_append hclosed hx.2.2)
    hapart.of_append

/-- So does replacing any number of them. -/
theorem keeps_of_replaces (tame : r.Tame) (h : ReflTransGen r.Replaces t u)
    (hplaced : r.Placed b t is) (hapart : r.Apart t) :
    ∃ js, js.Sublist is ∧ r.Placed b u js ∧ r.Apart u := by
  induction h with
  | refl => exact ⟨is, List.Sublist.refl is, hplaced, hapart⟩
  | tail _ step ih =>
      obtain ⟨js, hjs, hplaced', hapart'⟩ := ih
      obtain ⟨ks, hks, hnext⟩ := step.keeps tame hplaced' hapart'
      exact ⟨ks, hks.trans hjs, hnext⟩

/-- A character of the result comes from the text or from a source. -/
theorem mem_of_replaces {c : Char} (h : ReflTransGen r.Replaces t u) (hc : c ∈ u) :
    c ∈ t ∨ ∃ e ∈ r.entries, c ∈ e.2 := by
  induction h with
  | refl => exact .inl hc
  | tail _ step ih =>
      obtain @⟨s, x, before, behind, h⟩ := step
      simp only [List.mem_append] at hc ih
      rcases hc with (hc | hc) | hc
      · exact ih (.inl (.inl hc))
      · rcases h with he | ⟨-, rfl⟩
        · exact .inr ⟨_, he, hc⟩
        · cases hc
      · exact ih (.inr hc)

/-- **Substitution brings in no import.** With a tame registry, and where the statements of the text
are in place, the result is tidy, and its imports are imports of the text. -/
theorem imports_substitute (tame : r.Tame) (h : r.InPlace t) {result : Text}
    (hresult : r.substitute t = .ok result) :
    Tidy result ∧ (imports result).Sublist (imports t) := by
  obtain ⟨result', hresult', hreplaces, -⟩ :=
    broughtBack_of_substitute (fun s hs => tame.nonempty hs) t
  obtain rfl : result' = result := Except.ok.inj (hresult'.symm.trans hresult)
  obtain ⟨js, hjs, hplaced, -⟩ := keeps_of_replaces tame hreplaces h.placed h.apart
  rw [hplaced.reading.imports_eq]
  exact ⟨hplaced.reading.tidy, hjs⟩

theorem apart_of_none (h : ∀ s ∈ r.statements, ¬ s <:+: t) : r.Apart t :=
  fun before s behind ht hs => absurd ⟨before, behind, ht.symm⟩ (h s hs)

/-- Where no statement is in the text, nothing happens. -/
theorem substitute_of_none (h : ∀ s ∈ r.statements, ¬ s <:+: t) : r.substitute t = .ok t := by
  have hnonempty : ∀ e ∈ r.entries, e.1 ≠ [] := by
    intro e he hnil
    exact h e.1 (mem_statements he) (hnil ▸ List.nil_infix)
  rw [substitute, foldlM_substituteEntry hnonempty]
  refine congrArg Except.ok ?_
  refine List.foldlRecOn (motive := (· = t)) r.entries _ rfl fun u hu e he => ?_
  rw [hu]
  exact put_of_not_isInfix (h e.1 (mem_statements he)) e.2

/-! ## The built-in registry -/

theorem entries_builtIn : builtIn.entries =
    [("import \x7bIERC165\x7d from \"../../utils/introspection/IERC165.sol\";".toList,
        interfaceDetection.toList),
      ("import \x7bContext\x7d from \"../utils/Context.sol\";".toList, callContext.toList)] := by
  refine Association.ofPairs_of_nodup ?_
  show [_, _].Nodup
  decide +kernel

/-- A source that is made of lines that open no import, with the last one in a way that nothing
that follows can change. -/
theorem inert_of_split {last : Text} (hlines : ∀ w ∈ split '\n' x, opensImport w = false)
    (hnone : ∀ s ∈ r.statements, ¬ s <:+: x) (hlast : r.Inert last) :
    r.Inert (x ++ '\n' :: last) := by
  induction x using split_induction '\n' with
  | plain w single =>
      rw [split_of_not_mem single] at hlines
      exact .line single (hlines w (by simp)) (covered_of_not_isInfix hnone) hlast
  | piece w x single ih =>
      rw [split_piece single] at hlines
      rw [List.append_assoc]
      refine .line single (hlines w (by simp)) ?_ (ih ?_ ?_)
      · exact covered_of_not_isInfix fun s hs hin =>
          hnone s hs (hin.trans (List.prefix_append w _).isInfix)
      · exact fun w' hw' => hlines w' (List.mem_cons_of_mem w hw')
      · exact fun s hs hin => hnone s hs (hin.trans ⟨w ++ ['\n'], [], by simp⟩)

/-- A text of lines that open no import and a brace behind them, without double quotes and carriage
returns. -/
def Plain (x : Text) : Prop :=
  x = x.dropLast.dropLast ++ '\n' :: ['\x7d'] ∧
    (∀ w ∈ split '\n' x.dropLast.dropLast, opensImport w = false) ∧ '"' ∉ x ∧ '\r' ∉ x

instance (x : Text) : Decidable (Plain x) := inferInstanceAs (Decidable (_ ∧ _ ∧ _ ∧ _))

theorem plain_ofList {s : String} {x : Text} (h : s = String.ofList x) (hx : Plain x) :
    Plain s.toList := by
  rwa [h, String.toList_ofList]

set_option maxRecDepth 4000 in
theorem plain_interfaceDetection : Plain interfaceDetection.toList := by
  refine plain_ofList (s := interfaceDetection) rfl ?_
  decide +kernel

set_option maxRecDepth 4000 in
theorem plain_callContext : Plain callContext.toList := by
  refine plain_ofList (s := callContext) rfl ?_
  decide +kernel

theorem plain_of_mem_builtIn {e : Text × Text} (he : e ∈ builtIn.entries) : Plain e.2 := by
  rw [entries_builtIn] at he
  rcases List.mem_pair.mp he with he | he
  · simp only [he, plain_interfaceDetection]
  · simp only [he, plain_callContext]

theorem not_isInfix_of_no_quote (hx : '"' ∉ x) (hs : s ∈ builtIn.statements) : ¬ s <:+: x := by
  have hquote : ∀ s ∈ builtIn.statements, '"' ∈ s := by
    rw [statements, entries_builtIn]
    decide +kernel
  exact fun h => hx (h.subset (hquote s hs))

theorem tame_builtIn : builtIn.Tame := by
  have hsingle : ∀ s ∈ builtIn.statements, '\n' ∉ s := by
    rw [statements, entries_builtIn]
    decide +kernel
  have hbegins : ∀ s ∈ builtIn.statements, s.head? = some 'i' := by
    rw [statements, entries_builtIn]
    decide +kernel
  have hends : ∀ s ∈ builtIn.statements, ';' ∉ s.dropLast := by
    rw [statements, entries_builtIn]
    decide +kernel
  have hbrace : ∀ s ∈ builtIn.statements, ¬ Unfinished s ['\x7d'] := by
    rw [statements, entries_builtIn]
    decide +kernel
  refine ⟨hsingle, hbegins, hends, fun e he => ?_⟩
  have hplain := plain_of_mem_builtIn he
  have hnone : ∀ s ∈ builtIn.statements, ¬ s <:+: e.2 := fun s => not_isInfix_of_no_quote hplain.2.2.1
  obtain ⟨heq, hlines, -⟩ := hplain
  refine ⟨?_, apart_of_none hnone, ?_⟩
  · rw [heq]
    refine inert_of_split hlines (fun s hs hin => hnone s hs ?_) (.last (by decide) ?_ ?_)
    · exact hin.trans ((List.dropLast_prefix _).trans (List.dropLast_prefix _)).isInfix
    · exact closing_cons (by decide) (by decide) []
    · refine covered_of_not_isInfix fun s hs hin => hnone s hs (hin.trans ?_)
      rw [heq]
      exact ⟨e.2.dropLast.dropLast ++ ['\n'], [], by simp⟩
  · rw [heq, List.append_cons]
    refine closed_append ?_ hbrace
    refine closed_of_getLast? (c := '\n') (fun s hs hmem => ?_) (by simp)
    exact hsingle s hs (List.mem_of_mem_dropLast hmem)

/-- **The built-in registry**, where its statements stay apart. They are all gone then, and its
sources bring no carriage returns. -/
theorem substitute_builtIn (h : builtIn.Apart t) :
    ∃ result, builtIn.substitute t = .ok result ∧
      (∀ s ∈ builtIn.statements, ¬ s <:+: result) ∧ ('\r' ∉ t → '\r' ∉ result) := by
  obtain ⟨result, hresult, hreplaces, hleft⟩ :=
    broughtBack_of_substitute (fun s hs => tame_builtIn.nonempty hs) t
  have hstays : builtIn.StaysApart t := .of_all h fun e he => (tame_builtIn.sources e he).2
  have hnone : ∀ e' ∈ builtIn.entries, ∀ e ∈ builtIn.entries, ¬ e'.1 <:+: e.2 :=
    fun e' he' e he => not_isInfix_of_no_quote (plain_of_mem_builtIn he).2.2.1 (mem_statements he')
  refine ⟨result, hresult, fun s hs hin => ?_, fun ht hmem => ?_⟩
  · exact not_broughtBack (fun e he => hnone e he e he)
      (List.pairwise_of_forall_mem_list hnone) (hleft hstays s hs hin)
  · rcases mem_of_replaces hreplaces hmem with hmem | ⟨e, he, hmem⟩
    · exact ht hmem
    · exact (plain_of_mem_builtIn he).2.2.2 hmem

/-- Where they are in place, if there are any, what stands in their places has no imports. -/
theorem imports_substitute_builtIn
    (h : (∃ s ∈ builtIn.statements, s <:+: t) → builtIn.InPlace t) {result : Text}
    (hresult : builtIn.substitute t = .ok result) : (imports result).Sublist (imports t) := by
  by_cases hin : ∃ s ∈ builtIn.statements, s <:+: t
  · exact (imports_substitute tame_builtIn (h hin) hresult).2
  · have hnone : ∀ s ∈ builtIn.statements, ¬ s <:+: t := fun s hs hs' => hin ⟨s, hs, hs'⟩
    rw [Except.ok.inj (hresult.symm.trans (substitute_of_none hnone))]

end ContractVerifier.Registry
