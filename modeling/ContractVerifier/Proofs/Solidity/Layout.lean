import ContractVerifier.Proofs.Solidity.Pieces
import ContractVerifier.Proofs.Solidity.Statements

set_option autoImplicit false

/-! # Texts whose imports stand apart

The search for imports looks at a text where a line begins, and erasing, cutting and joining move
what stands there. In a **tidy** text that does no harm: whatever is not part of an import begins
no line in the way an import does (`opensImport`).

`Reading` follows the search through a tidy text and lists the imports. It is kept by erasing
imports (`Reading.erase`), by cutting white space off the ends (`Reading.strip`) and by putting
texts one behind the other on lines of their own (`Reading.append_line`, `reading_join`).
-/

namespace ContractVerifier.Solidity

/-- Whether `c` ends the search for the quote that opens a path. -/
def endsSearch (c : Char) : Bool := c = ';' || isQuote c

/-- Whether what follows the word `import` on its line may be the beginning of an import's rest:
nothing, or white space and no semicolon before the first quote. -/
def goesOn : Text → Bool
  | [] => true
  | c :: rest => Text.isBlank c && rest.find? endsSearch ≠ some ';'

/-- Whether a line begins in the way an import does, white space at its beginning apart. -/
def opensImport (line : Text) : Bool :=
  (Text.after? "import".toList (line.dropWhile Text.isBlank)).any goesOn

/-- A text is tidy if no piece between its imports could begin one. -/
def Tidy (t : Text) : Prop :=
  ∀ l, .plain l ∈ pieces Import.recognise t → opensImport l = false

/-- A tidy text without imports. -/
def Quiet (t : Text) : Prop := Tidy t ∧ imports t = []

/-- The search for imports goes through a tidy text, at the beginning of a line or not, and lists
imports. -/
inductive Reading : Bool → Text → List Import → Prop where
  | nil {b : Bool} : Reading b [] []
  | found {raw t : Text} {i : Import} {is : List Import} (written : Import.Written raw i)
      (rest : Reading false t is) : Reading true (raw ++ t) (i :: is)
  | line {b : Bool} {w t : Text} {is : List Import} (single : '\n' ∉ w)
      (closed : opensImport w = false) (rest : Reading true t is) :
      Reading b (w ++ '\n' :: t) is
  | rest {b : Bool} {w : Text} (ne_nil : w ≠ []) (single : '\n' ∉ w)
      (closed : opensImport w = false) : Reading b w []

/-! ## Lines that open no import -/

theorem isBlank_of_isIndent {c : Char} (h : isIndent c = true) : Text.isBlank c = true := by
  simp only [isIndent, Bool.or_eq_true, decide_eq_true_eq] at h
  rcases h with rfl | rfl <;> decide

theorem ne_newline_of_isIndent {c : Char} (h : isIndent c = true) : c ≠ '\n' := by
  rintro rfl
  exact absurd h (by decide)

theorem dropWhile_import {indent : Text} (h : ∀ c ∈ indent, Text.isBlank c = true) (t : Text) :
    (indent ++ ("import".toList ++ t)).dropWhile Text.isBlank = "import".toList ++ t := by
  rw [List.dropWhile_append_of_pos h]
  have : Text.isBlank 'i' = false := by decide
  simp [this]

theorem Import.Clause.find?_append {clause path : Text} (h : Clause clause path) (rest : Text) :
    ∃ quote, isQuote quote = true ∧ (clause ++ rest).find? endsSearch = some quote := by
  obtain @⟨before, quotes, path, behind, quote, hbefore, hne, hquotes, -, -, -, -⟩ := h
  obtain ⟨q, quotes, rfl⟩ := List.exists_cons_of_ne_nil hne
  have hq : isQuote q = true := hquotes q (by simp)
  refine ⟨q, hq, ?_⟩
  have hnone : before.find? endsSearch = none := by
    rw [List.find?_eq_none]
    intro c hc
    simp [endsSearch, hbefore c hc]
  rw [List.append_assoc, List.find?_append, hnone]
  simp [endsSearch, hq]

/-- What begins with neither white space nor the first letter of `import` opens none. -/
theorem opensImport_cons {c : Char} (hblank : Text.isBlank c = false) (hc : c ≠ 'i') (t : Text) :
    opensImport (c :: t) = false := by
  rw [opensImport, List.dropWhile_cons_of_neg (by simp [hblank])]
  simp [Text.after?, Ne.symm hc]

/-- The first line of an import opens one. -/
theorem Import.Written.opensImport {raw : Text} {i : Import} (h : Written raw i) (rest : Text) :
    opensImport ((raw ++ rest).takeWhile (· ≠ '\n')) = true := by
  obtain @⟨indent, clause, path, c, hindent, hblank, hclause⟩ := h
  have hline : ∀ x ∈ indent ++ "import".toList, decide (x ≠ '\n') = true := by
    intro x hx
    rcases List.mem_append.mp hx with hx | hx
    · simpa using ne_newline_of_isIndent (hindent x hx)
    · have hword : ∀ x ∈ "import".toList, x ≠ '\n' := by simp
      simpa using hword x hx
  have htake : (indent ++ ("import".toList ++ c :: clause) ++ rest).takeWhile (· ≠ '\n') =
      indent ++ ("import".toList ++ (c :: clause ++ rest).takeWhile (· ≠ '\n')) := by
    rw [← List.append_assoc, List.append_assoc, List.takeWhile_append_of_pos hline,
      List.append_assoc]
  rw [htake, Solidity.opensImport,
    dropWhile_import fun x hx => isBlank_of_isIndent (hindent x hx),
    Text.after?_eq_some_iff.mpr rfl]
  by_cases hc : c = '\n'
  · simp [hc, goesOn]
  · obtain ⟨quote, hquote, hfind⟩ := hclause.find?_append rest
    have hne : ((clause ++ rest).takeWhile (· ≠ '\n')).find? endsSearch ≠ some ';' := by
      intro hsemi
      have hbegins : (clause ++ rest).takeWhile (· ≠ '\n') <+: clause ++ rest :=
        List.takeWhile_prefix _
      obtain rfl : quote = ';' :=
        Option.some.inj (hfind.symm.trans (hbegins.find?_eq_some hsemi))
      simp [isQuote_semicolon] at hquote
    rw [List.cons_append, List.takeWhile_cons_of_pos (by simpa using hc)]
    simpa [goesOn, hblank] using hne

/-- Where the first line opens no import, none is recognised. -/
theorem recognise_eq_none {t : Text} (h : opensImport (t.takeWhile (· ≠ '\n')) = false) :
    Import.recognise t = none := by
  rw [Option.eq_none_iff_forall_ne_some]
  rintro ⟨raw, i⟩ hrec
  obtain ⟨rest, rfl, hwritten⟩ := Import.recognise_eq_some_iff.mp hrec
  rw [hwritten.opensImport rest] at h
  cases h

theorem recognise_line {w : Text} (hw : '\n' ∉ w) (h : opensImport w = false) (t : Text) :
    Import.recognise (w ++ '\n' :: t) = none :=
  recognise_eq_none (by rwa [takeWhile_line hw])

theorem recognise_rest {w : Text} (hw : '\n' ∉ w) (h : opensImport w = false) :
    Import.recognise w = none :=
  recognise_eq_none (by rwa [takeWhile_rest hw])

theorem endsSearch_eq_false {c : Char} (h : Text.isBlank c = true) : endsSearch c = false := by
  by_contra hc
  simp only [endsSearch, isQuote, Bool.not_eq_false, Bool.or_eq_true, decide_eq_true_eq] at hc
  rcases hc with rfl | rfl | rfl <;> exact absurd h (by decide)

theorem find?_blanks {g : Text} (hg : ∀ c ∈ g, Text.isBlank c = true) :
    g.find? endsSearch = none := by
  rw [List.find?_eq_none]
  intro c hc
  simp [endsSearch_eq_false (hg c hc)]

theorem goesOn_append_blanks {g : Text} (hg : ∀ c ∈ g, Text.isBlank c = true) (t : Text) :
    goesOn (t ++ g) = goesOn t := by
  cases t with
  | nil =>
      cases g with
      | nil => rfl
      | cons c g =>
          have hfind := find?_blanks fun x hx => hg x (List.mem_cons_of_mem c hx)
          simp [goesOn, hg c (by simp), hfind]
  | cons c t => simp [goesOn, List.find?_append, find?_blanks hg]

/-- White space behind a line does not matter. -/
theorem opensImport_append_blanks {g : Text} (hg : ∀ c ∈ g, Text.isBlank c = true) (w : Text) :
    opensImport (w ++ g) = opensImport w := by
  have hfresh : ∀ c ∈ g.head?, c ∉ "import".toList := by
    intro c hc hmem
    have hletters : ∀ x ∈ "import".toList, Text.isBlank x = false := by
      simp only [String.reduceToList, List.forall_mem_cons, List.not_mem_nil, false_implies,
        implies_true, and_true]
      decide
    exact absurd (hg c (List.mem_of_mem_head? hc)) (by simp [hletters c hmem])
  rw [opensImport, opensImport]
  rcases Text.dropWhile_append_blanks hg w with ⟨hw, hwg⟩ | hwg
  · rw [hw, hwg]
  · rw [hwg, Text.after?_append hfresh, Option.any_map]
    congr 1
    funext t
    exact goesOn_append_blanks hg t

theorem opensImport_append_newline (w : Text) : opensImport (w ++ ['\n']) = opensImport w := by
  have hblank : Text.isBlank '\n' = true := by decide
  exact opensImport_append_blanks (by simpa using hblank) w

/-- White space before a line does not matter. -/
theorem opensImport_append_left {g : Text} (hg : ∀ c ∈ g, Text.isBlank c = true) (w : Text) :
    opensImport (g ++ w) = opensImport w := by
  rw [opensImport, opensImport, List.dropWhile_append_of_pos hg]

/-! ## A reading is what the search does -/

namespace Import.Written

variable {raw : Text} {i : Import}

theorem ne_nil (h : Written raw i) : raw ≠ [] := by
  obtain ⟨-, -, -⟩ := h
  simp

/-- What stands before the statement is indentation. -/
theorem exists_indent (h : Written raw i) :
    ∃ indent : Text, (∀ c ∈ indent, isIndent c = true) ∧ raw = indent ++ i.statement ∧
      i.statement.getLast? = some ';' := by
  obtain @⟨indent, clause, path, c, hindent, -, hclause⟩ := h
  obtain @⟨before, quotes, path, behind, quote, -, -, -, -, -, -, -⟩ := hclause
  refine ⟨indent, hindent, rfl, ?_⟩
  rw [List.getLast?_eq_some_iff]
  exact ⟨"import".toList ++ c :: (before ++ (quotes ++ (path ++ quote :: behind))), by simp⟩

/-- An import ends with its semicolon. -/
theorem getLast?_eq (h : Written raw i) : raw.getLast? = some ';' := by
  obtain ⟨indent, -, rfl, hsemi⟩ := h.exists_indent
  rw [List.getLast?_append, hsemi]
  rfl

end Import.Written

namespace Reading

variable {b : Bool} {t : Text} {is : List Import}

/-- The pieces of a text that can be read: the imports read, and nothing that opens one. -/
theorem pieces_eq (h : Reading b t is) :
    (piecesFrom Import.recognise b t).filterMap Piece.value? = is ∧
      ∀ l, .plain l ∈ piecesFrom Import.recognise b t → opensImport l = false := by
  induction h with
  | nil => simp [piecesFrom]
  | @found raw t i is written rest ih =>
      have hrec := Import.recognise_eq_some_iff.mpr ⟨t, rfl, written⟩
      rw [piecesFrom_found written.ne_nil hrec, written.getLast?_eq]
      simpa [Piece.value?] using ih
  | @line b w t is single closed rest ih =>
      rw [piecesFrom_line single fun _ => recognise_line single closed t]
      refine ⟨ih.1, ?_⟩
      intro l hl
      rcases List.mem_cons.mp hl with hl | hl
      · cases hl
        rwa [opensImport_append_newline]
      · exact ih.2 l hl
  | @rest b w ne_nil single closed =>
      rw [piecesFrom_rest ne_nil single fun _ => recognise_rest single closed]
      simpa [Piece.value?] using closed

theorem tidy (h : Reading true t is) : Tidy t := h.pieces_eq.2

theorem imports_eq (h : Reading true t is) : imports t = is := h.pieces_eq.1

end Reading

/-- A text without pieces that open an import can be read. -/
theorem reading_piecesFrom {b : Bool} {t : Text}
    (h : ∀ l, .plain l ∈ piecesFrom Import.recognise b t → opensImport l = false) :
    Reading b t ((piecesFrom Import.recognise b t).filterMap Piece.value?) := by
  fun_induction piecesFrom Import.recognise b t with
  | case1 => exact .nil
  | case2 b c t d raw i hrec ih =>
      obtain ⟨rfl, hrec⟩ : b = true ∧ Import.recognise (c :: t) = some (d :: raw, i) := by
        cases b with
        | false => cases hrec
        | true => exact ⟨rfl, hrec⟩
      obtain ⟨rest, ht, hwritten⟩ := Import.recognise_eq_some_iff.mp hrec
      rw [List.cons_append] at ht
      obtain ⟨rfl, rfl⟩ := List.cons.inj ht
      rw [List.drop_left, hwritten.getLast?_eq] at ih h ⊢
      exact .found hwritten (ih fun l hl => h l (List.mem_cons_of_mem _ hl))
  | case3 b c t line hrec ih =>
      have hline : opensImport line = false := h line (by simp)
      have hrest := ih fun l hl => h l (List.mem_cons_of_mem _ hl)
      obtain ⟨w, hw, ht | ⟨t', ht⟩⟩ := exists_line (c :: t)
      · have hlw : line = w := by simp only [line, ht, firstLine_rest hw]
        have hnil : (c :: t).drop line.length = [] := by rw [hlw, ht, List.drop_length]
        rw [hnil] at hrest ⊢
        rw [hlw] at hline
        have hne : w ≠ [] := ht ▸ List.cons_ne_nil c t
        rw [ht, piecesFrom]
        exact .rest hne hw hline
      · have hlw : line = w ++ ['\n'] := by simp only [line, ht, firstLine_line hw]
        have hdrop : (c :: t).drop line.length = t' := by rw [hlw, ht, drop_line]
        rw [hdrop] at hrest ⊢
        rw [hlw, opensImport_append_newline] at hline
        rw [ht]
        exact .line hw hline hrest

theorem Tidy.reading {t : Text} (h : Tidy t) : Reading true t (imports t) := reading_piecesFrom h

/-! ## What keeps a reading -/

namespace Reading

variable {b : Bool} {t u : Text} {is js : List Import}

/-- What can be read inside a line can be read where a line begins. -/
theorem atLine (h : Reading b t is) : Reading true t is := by
  cases h with
  | nil => exact .nil
  | found written rest => exact .found written rest
  | line single closed rest => exact .line single closed rest
  | rest ne_nil single closed => exact .rest ne_nil single closed

theorem eq_nil (h : Reading b [] is) : is = [] := by
  rw [← h.pieces_eq.1, piecesFrom]
  rfl

/-- **Erasing imports leaves the others as they are.** -/
theorem erase (dropped : Import → Bool) (h : Reading b t is) :
    Reading b (eraseFrom Import.recognise dropped b t) (is.filter (!dropped ·)) := by
  induction h with
  | nil =>
      rw [eraseFrom_nil]
      exact .nil
  | @found raw t i is written rest ih =>
      have hrec := Import.recognise_eq_some_iff.mpr ⟨t, rfl, written⟩
      rw [eraseFrom_found written.ne_nil hrec, written.getLast?_eq]
      cases hi : dropped i with
      | true => simpa [hi] using ih.atLine
      | false => simpa [hi] using Reading.found written ih
  | @line b w t is single closed rest ih =>
      rw [eraseFrom_line single fun _ => recognise_line single closed t]
      exact .line single closed ih
  | @rest b w ne_nil single closed =>
      rw [eraseFrom_rest ne_nil single fun _ => recognise_rest single closed]
      exact .rest ne_nil single closed

/-- What follows on a line of its own is read on its own. -/
theorem append_line (h : Reading b t is) (hu : Reading true u js) :
    Reading b (t ++ '\n' :: u) (is ++ js) := by
  induction h with
  | nil => exact .line (w := []) (by simp) (by decide) hu
  | found written rest ih =>
      rw [List.append_assoc]
      exact .found written ih
  | line single closed rest ih =>
      rw [List.append_assoc]
      exact .line single closed ih
  | rest ne_nil single closed => exact .line single closed hu

/-- White space at the beginning does not matter. -/
theorem dropWhile (h : Reading b t is) : Reading true (t.dropWhile Text.isBlank) is := by
  induction h with
  | nil => exact .nil
  | @found raw t i is written rest ih =>
      obtain @⟨indent, clause, path, c, hindent, hblank, hclause⟩ := written
      rw [List.append_assoc, List.append_assoc,
        dropWhile_import fun x hx => isBlank_of_isIndent (hindent x hx), ← List.append_assoc]
      have hwritten : Import.Written ([] ++ ("import".toList ++ c :: clause))
          ⟨"import".toList ++ c :: clause, path⟩ := .mk (by simp) hblank hclause
      exact .found hwritten rest
  | @line b w t is single closed rest ih =>
      -- a line of white space goes as a whole, and any other one loses its beginning
      obtain ⟨run, w', rfl, -, hrun, hw'⟩ := Text.exists_takeWhile_eq Text.isBlank w
      rw [List.append_assoc, List.dropWhile_append_of_pos hrun]
      cases w' with
      | nil =>
          have hblank : Text.isBlank '\n' = true := by decide
          simpa [hblank] using ih
      | cons d w' =>
          have hd := hw' d w' rfl
          have hline : '\n' ∉ d :: w' := fun h => single (List.mem_append_right run h)
          rw [opensImport_append_left hrun] at closed
          rw [List.cons_append, List.dropWhile_cons_of_neg (by simpa using hd)]
          exact .line hline closed rest
  | @rest b w ne_nil single closed =>
      obtain ⟨run, w', rfl, -, hrun, hw'⟩ := Text.exists_takeWhile_eq Text.isBlank w
      rw [List.dropWhile_append_of_pos hrun]
      rw [opensImport_append_left hrun] at closed
      cases w' with
      | nil => exact .nil
      | cons d w' =>
          have hd := hw' d w' rfl
          have hline : '\n' ∉ d :: w' := fun h => single (List.mem_append_right run h)
          rw [List.dropWhile_cons_of_neg (by simpa using hd)]
          exact .rest (by simp) hline closed

/-- A single line that opens no import can be read, empty or not. -/
theorem of_closed {w : Text} (single : '\n' ∉ w) (closed : opensImport w = false) :
    Reading b w [] := by
  cases w with
  | nil => exact .nil
  | cons c w => exact .rest (by simp) single closed

theorem stripEnd_closed {w : Text} (single : '\n' ∉ w) (closed : opensImport w = false) :
    Reading b (Text.stripEnd w) [] := by
  obtain ⟨g, hg, hblank⟩ := Text.exists_stripEnd_append w
  refine of_closed (fun h => single ?_) ?_
  · rw [hg]
    exact List.mem_append_left g h
  · rwa [hg, opensImport_append_blanks hblank] at closed

/-- White space at the end does not matter. -/
theorem stripEnd (h : Reading b t is) : Reading b (Text.stripEnd t) is := by
  induction h with
  | nil => exact .nil
  | @found raw t i is written rest ih =>
      obtain ⟨front, hfront⟩ := List.getLast?_eq_some_iff.mp written.getLast?_eq
      have hsemi : Text.isBlank ';' = false := by decide
      have hstrip : Text.stripEnd (raw ++ t) = raw ++ Text.stripEnd t := by
        rw [hfront, List.append_assoc, List.append_assoc]
        exact Text.stripEnd_append_cons hsemi front t
      rw [hstrip]
      exact .found written ih
  | @line b w t is single closed rest ih =>
      rw [List.append_cons w '\n' t, Text.stripEnd_append]
      split
      · rename_i hnil
        rw [hnil] at ih
        rw [ih.eq_nil]
        rw [Text.stripEnd_append, if_pos (by decide)]
        exact stripEnd_closed single closed
      · rw [← List.append_cons w '\n' (Text.stripEnd t)]
        exact .line single closed ih
  | @rest b w ne_nil single closed => exact stripEnd_closed single closed

theorem strip (h : Reading true t is) : Reading true (Text.strip t) is := h.dropWhile.stripEnd

/-! ## Taking a reading apart -/

/-- Behind a line that opens no import the search goes on. -/
theorem of_line {w : Text} (single : '\n' ∉ w) (closed : opensImport w = false)
    (h : Reading true (w ++ '\n' :: t) is) : Reading true t is := by
  obtain ⟨himports, hplain⟩ := h.pieces_eq
  rw [piecesFrom_line single fun _ => recognise_line single closed t] at himports hplain
  rw [← himports]
  exact reading_piecesFrom fun l hl => hplain l (List.mem_cons_of_mem _ hl)

/-- Behind lines without imports the search goes on. -/
theorem of_quiet (hquiet : Reading b t []) (hend : t = [] ∨ t.getLast? = some '\n')
    (h : Reading true (t ++ u) js) : Reading true u js := by
  generalize hnil : ([] : List Import) = nothing at hquiet
  induction hquiet with
  | nil => exact h
  | found => cases hnil
  | @line b w t is single closed rest ih =>
      rw [List.append_assoc] at h
      refine ih ?_ (h.of_line single closed) hnil
      cases t with
      | nil => exact .inl rfl
      | cons c t => simpa using hend
  | @rest b w ne_nil single closed =>
      have hmem : '\n' ∈ w := List.mem_of_getLast? (hend.resolve_left ne_nil)
      exact absurd hmem single

end Reading

theorem quiet_iff {t : Text} : Quiet t ↔ Reading true t [] := by
  constructor
  · rintro ⟨htidy, himports⟩
    rw [← himports]
    exact htidy.reading
  · intro h
    exact ⟨h.tidy, h.imports_eq⟩

/-- **Tidy texts can be put together**, with a blank line between neighbours: the imports are
those of the parts. -/
theorem reading_join {parts : List Text} (h : ∀ p ∈ parts, Tidy p) :
    Reading true (Text.join "\n\n".toList parts) (parts.flatMap imports) := by
  induction parts with
  | nil => exact .nil
  | cons p parts ih =>
      have hp := (h p (by simp)).reading
      have hrest := ih fun q hq => h q (List.mem_cons_of_mem p hq)
      cases parts with
      | nil => simpa [Text.join, List.intercalate] using hp
      | cons q parts =>
          have hjoin : Text.join "\n\n".toList (p :: q :: parts) =
              p ++ '\n' :: ([] ++ '\n' :: Text.join "\n\n".toList (q :: parts)) := by
            simp [Text.join, List.intercalate]
          rw [hjoin, List.flatMap_cons]
          exact hp.append_line (.line (by simp) (by decide) hrest)

end ContractVerifier.Solidity
