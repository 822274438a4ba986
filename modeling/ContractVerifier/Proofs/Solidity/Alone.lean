import ContractVerifier.Proofs.Solidity.Layout

set_option autoImplicit false

/-! # Import statements out of their text

The statements that are listed for a text stand in it one behind another (`stacked_findImports`).
Taken out of the text, each of them is still the import it was: where a statement is recognised
depends on what it is made of (`Import.Written`) and not on what stands around it, so a statement
alone is listed as itself (`statements_stand_alone`).
-/

namespace ContractVerifier.Solidity

variable {t s : Text} {raw : Text} {i : Import}

/-- The texts stand in `t` in this order, and none of them overlaps another. -/
inductive Stacked : List Text → Text → Prop where
  | nil {t : Text} : Stacked [] t
  | cons {s t : Text} {ss : List Text} (gap : Text) (rest : Stacked ss t) :
      Stacked (s :: ss) (gap ++ (s ++ t))

namespace Stacked

variable {ss : List Text}

/-- What stands before the texts widens the first gap. -/
theorem prepend (h : Stacked ss t) (u : Text) : Stacked ss (u ++ t) := by
  cases h with
  | nil => exact .nil
  | cons gap rest =>
      rw [← List.append_assoc]
      exact .cons (u ++ gap) rest

end Stacked

/-! ## The statements of a text -/

/-- A piece that was recognised is the statement behind its indentation. -/
theorem exists_indent_of_mem_pieces (h : .found raw i ∈ pieces Import.recognise t) :
    ∃ indent, raw = indent ++ i.statement := by
  obtain ⟨t', hrec⟩ := exists_of_mem_piecesFrom h
  obtain ⟨rest, -, hwritten⟩ := Import.recognise_eq_some_iff.mp hrec
  obtain ⟨indent, -, hraw, -⟩ := hwritten.exists_indent
  exact ⟨indent, hraw⟩

theorem stacked_of_pieces {ps : List (Piece Import)}
    (h : ∀ raw i, .found raw i ∈ ps → ∃ indent, raw = indent ++ i.statement) :
    Stacked ((ps.filterMap Piece.value?).map Import.statement) (ps.flatMap Piece.raw) := by
  induction ps with
  | nil => exact .nil
  | cons piece ps ih =>
      have hrest := ih fun raw i hi => h raw i (List.mem_cons_of_mem piece hi)
      rw [List.flatMap_cons]
      cases piece with
      | plain l => exact hrest.prepend l
      | found raw i =>
          obtain ⟨indent, rfl⟩ := h raw i (List.mem_cons_self ..)
          rw [Piece.raw, List.append_assoc]
          exact .cons indent hrest

/-- **The statements stand one behind another.** -/
theorem stacked_findImports (t : Text) : Stacked (findImports t) t := by
  have hstacked : Stacked (findImports t) ((pieces Import.recognise t).flatMap Piece.raw) :=
    stacked_of_pieces fun _ _ => exists_indent_of_mem_pieces
  rwa [flatMap_raw_pieces Import.recognise_sound] at hstacked

/-! ## A statement by itself -/

/-- Without its indentation an import is spelled out as well. -/
theorem Import.Written.statement (h : Import.Written raw i) : Import.Written i.statement i := by
  obtain @⟨indent, clause, path, c, -, hblank, hclause⟩ := h
  show Import.Written ([] ++ ("import".toList ++ c :: clause)) _
  exact .mk (by simp) hblank hclause

theorem written_of_mem_imports (h : i ∈ imports t) : Import.Written i.statement i := by
  obtain ⟨raw, t', -, hrec⟩ := exists_of_mem_found h
  obtain ⟨rest, -, hwritten⟩ := Import.recognise_eq_some_iff.mp hrec
  exact hwritten.statement

/-- What spells an import out is listed first, whatever follows it. -/
theorem imports_append (h : Import.Written raw i) (rest : Text) :
    imports (raw ++ rest) =
      i :: (piecesFrom Import.recognise false rest).filterMap Piece.value? := by
  have hrec := Import.recognise_eq_some_iff.mpr ⟨rest, rfl, h⟩
  rw [imports, found, pieces, piecesFrom_found h.ne_nil hrec, h.getLast?_eq]
  rfl

theorem imports_of_written (h : Import.Written raw i) : imports raw = [i] := by
  have hall := imports_append h []
  rw [List.append_nil, piecesFrom] at hall
  exact hall

/-- **Statements are what they are without their text.** The statements of a text stand in it one
behind another, and each of them alone is listed as itself, with the same path, and listed first
where anything follows it. What is listed as itself in this way is what spells an import out. -/
theorem statements_stand_alone (t : Text) :
    Stacked (findImports t) t ∧
      (∀ s ∈ findImports t, findImports s = [s]) ∧
      (∀ i ∈ imports t, imports i.statement = [i] ∧
        ∀ rest, (imports (i.statement ++ rest)).head? = some i) ∧
      ∀ i, imports i.statement = [i] ↔ Import.Written i.statement i := by
  refine ⟨stacked_findImports t, ?_, ?_, ?_⟩
  · intro s hs
    obtain ⟨i, hi, rfl⟩ := List.mem_map.mp hs
    rw [findImports, imports_of_written (written_of_mem_imports hi)]
    rfl
  · intro i hi
    have hwritten := written_of_mem_imports hi
    refine ⟨imports_of_written hwritten, ?_⟩
    intro rest
    rw [imports_append hwritten]
    rfl
  · intro i
    constructor
    · intro h
      exact written_of_mem_imports (h ▸ List.mem_singleton_self i)
    · exact imports_of_written

/-- A statement with an empty pair of quotes and a semicolon in its path, one more behind it on its
line, and a statement of two lines. The first is the import of `a;b` without the others too. -/
theorem first_stands_alone :
    findImports "import A from ''a;b' as c; import 'd';\n import\n'e';\n".toList =
        ["import A from ''a;b' as c;".toList, "import\n'e';".toList] ∧
      imports "import A from ''a;b' as c;".toList =
        [⟨"import A from ''a;b' as c;".toList, "a;b".toList⟩] := by
  have himports : imports "import A from ''a;b' as c; import 'd';\n import\n'e';\n".toList =
      [⟨"import A from ''a;b' as c;".toList, "a;b".toList⟩,
        ⟨"import\n'e';".toList, ['e']⟩] := by cbv
  refine ⟨by rw [findImports, himports]; rfl, ?_⟩
  obtain ⟨-, -, halone, -⟩ :=
    statements_stand_alone "import A from ''a;b' as c; import 'd';\n import\n'e';\n".toList
  exact (halone _ (himports ▸ List.mem_cons_self ..)).1

end ContractVerifier.Solidity
