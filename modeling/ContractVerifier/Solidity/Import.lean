import ContractVerifier.Solidity.Piece

set_option autoImplicit false

/-! # Import statements

An import statement begins a line, after spaces and tabs perhaps, with the word `import` and
a white space character, names a path between quotes and ends with the first semicolon
behind the path. The path is the first text between two quotes that is not empty and whose
opening quote no semicolon precedes; it may hold anything but quotes.

Main definitions: `Import.recognise` and `findImports`.
-/

namespace ContractVerifier.Solidity

/-- An import statement: its text, from the word `import` to the semicolon, and the path it
names. -/
structure Import where
  statement : Text
  path : Text
  deriving DecidableEq, Repr

/-- Whether `c` indents a line. -/
def isIndent (c : Char) : Bool := c = ' ' || c = '\t'

/-- Whether `c` is a quote of either kind. -/
def isQuote (c : Char) : Bool := c = '"' || c = '\''

namespace Import

/-- Goes to the quote that opens the path: what was passed, up to and with the quote, and
what follows. `passed` holds what was passed before, last character first. -/
def openingQuote? (passed : Text) : Text → Option (Text × Text)
  | [] => none
  | c :: t =>
    if c = ';' then none
    else if isQuote c then
      match t with
      | [] => none
      | d :: t' =>
        -- an empty path: the second quote may open the path instead
        if isQuote d then openingQuote? (c :: passed) (d :: t')
        else some ((c :: passed).reverse, d :: t')
    else openingQuote? (c :: passed) t

/-- Reads what follows the word `import` and the white space character behind it: the text
up to the semicolon, and the path. -/
def clause? (t : Text) : Option (Text × Text) :=
  match openingQuote? [] t with
  | none => none
  | some (before, t) =>
    let path := t.takeWhile (!isQuote ·)
    match t.drop path.length with
    | [] => none
    | quote :: t =>
      let behind := t.takeWhile (· ≠ ';')
      match t.drop behind.length with
      | [] => none
      | semicolon :: _ => some (before ++ path ++ quote :: behind ++ [semicolon], path)

/-- Recognises an import statement and the indentation before it. -/
def recognise : Recogniser Import := fun t =>
  let indent := t.takeWhile isIndent
  match Text.after? "import".toList (t.drop indent.length) with
  | some (c :: rest) =>
    if Text.isBlank c then
      (clause? rest).map fun (clause, path) =>
        let statement := "import".toList ++ c :: clause
        (indent ++ statement, ⟨statement, path⟩)
    else none
  | _ => none

theorem openingQuote?_eq_append {passed t before rest : Text}
    (h : openingQuote? passed t = some (before, rest)) : passed.reverse ++ t = before ++ rest := by
  fun_induction openingQuote? passed t with
  | case1 => cases h
  | case2 => cases h
  | case3 => cases h
  | case4 passed c _ _ d t' _ ih => simpa using ih h
  | case5 =>
    cases h
    simp
  | case6 passed c t _ _ ih => simpa using ih h

theorem clause?_isPrefix {t clause path : Text} (h : clause? t = some (clause, path)) :
    clause <+: t := by
  unfold clause? at h
  split at h
  · cases h
  · rename_i before t' ho
    simp only at h
    have ho := openingQuote?_eq_append ho
    have hp := List.prefix_iff_eq_append.1 (List.takeWhile_prefix (l := t') (!isQuote ·))
    split at h
    · cases h
    · rename_i quote t'' hq
      have hb := List.prefix_iff_eq_append.1 (List.takeWhile_prefix (l := t'') (· ≠ ';'))
      split at h
      · cases h
      · rename_i semicolon rest hs
        cases h
        refine ⟨rest, ?_⟩
        rw [hs] at hb
        rw [hq, ← hb] at hp
        simp only [List.reverse_nil, List.nil_append] at ho
        rw [ho]
        conv => rhs; rw [← hp]
        simp only [List.append_assoc, List.cons_append, List.nil_append]

theorem recognise_sound : Sound recognise := by
  intro t raw v h
  unfold recognise at h
  simp only at h
  split at h
  · rename_i c rest hc
    rw [Text.after?_eq_some_iff] at hc
    split at h
    · rw [Option.map_eq_some_iff] at h
      obtain ⟨⟨clause, path⟩, hcl, he⟩ := h
      cases he
      obtain ⟨r, hr⟩ := clause?_isPrefix hcl
      have hi := List.prefix_iff_eq_append.1 (List.takeWhile_prefix (l := t) isIndent)
      refine ⟨r, ?_⟩
      rw [hc, ← hr] at hi
      conv => rhs; rw [← hi]
      simp only [List.append_assoc, List.cons_append]
    · cases h
  · cases h

end Import

/-- The import statements of a text, in order. -/
def imports (t : Text) : List Import := found Import.recognise t

/-- The texts of the import statements of a text, in order. -/
def findImports (t : Text) : List Text := (imports t).map Import.statement

end ContractVerifier.Solidity
