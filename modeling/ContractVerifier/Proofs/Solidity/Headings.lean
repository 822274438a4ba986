import ContractVerifier.Proofs.Solidity.HeaderLines
import ContractVerifier.Proofs.Solidity.Headers
import ContractVerifier.Proofs.Text.Splitting

set_option autoImplicit false

/-! # Texts whose header lines stand apart

The search for header lines looks at a text where a line begins, and what follows an import or a
header line on its line comes to stand there when that is erased. In a text that is **laid out**
(`Laid`) imports, header lines and the other lines keep out of each other's way: none begins inside
another, and no other line begins in the way a header line does (`opensHeader`).

Erasing imports from such a text leaves its header lines (`Laid.eraseImports`), and erasing its
header lines leaves none (`HeaderReading.headerless_erase`), nor do cutting white space off the ends
and putting texts one behind the other bring one about.
-/

namespace ContractVerifier.Solidity

/-- Whether a line begins in the way a header line does, white space at its beginning apart. The
white space in a header line may hold line feeds, so the licence's tag alone is such a beginning,
and so is the word `pragma` alone. -/
def opensHeader (line : Text) : Bool :=
  let t := line.dropWhile Text.isBlank
  let isTag := Text.startsWith "SPDX-License-Identifier:".toList
  isTag t || (Text.after? "//".toList t).any (fun u => isTag (u.dropWhile Text.isBlank)) ||
    (Text.after? "pragma".toList t).any fun u =>
      let u := u.dropWhile Text.isBlank
      u.isEmpty || Text.startsWith "solidity".toList u

/-- A text no line of which begins in the way a header line does. -/
def Headerless (t : Text) : Prop := ∀ w ∈ Text.split '\n' t, opensHeader w = false

/-- The search for header lines goes through a text, at the beginning of a line or not, and lists
header lines. -/
inductive HeaderReading : Bool → Text → List Text → Prop where
  | nil {b : Bool} : HeaderReading b [] []
  | found {raw line t : Text} {ls : List Text}
      (recognised : Header.recognise (raw ++ t) = some (raw, line))
      (rest : HeaderReading (raw.getLast? = some '\n') t ls) :
      HeaderReading true (raw ++ t) (line :: ls)
  | line {b : Bool} {w t : Text} {ls : List Text} (single : '\n' ∉ w)
      (closed : opensHeader w = false) (rest : HeaderReading true t ls) :
      HeaderReading b (w ++ '\n' :: t) ls
  | rest {b : Bool} {w : Text} (ne_nil : w ≠ []) (single : '\n' ∉ w)
      (closed : opensHeader w = false) : HeaderReading b w []

/-- A text is laid out if it consists of imports without header lines in them, of header lines
without imports in them, and of other lines, parts of one behind an import or a header line
included, that begin neither. -/
inductive Laid : Bool → Text → List Import → List Text → Prop where
  | nil {b : Bool} : Laid b [] [] []
  | statement {raw t : Text} {i : Import} {is : List Import} {ls : List Text}
      (written : Import.Written raw i) (apart : Headerless i.statement)
      (rest : Laid false t is ls) : Laid true (raw ++ t) (i :: is) ls
  | header {raw line t : Text} {is : List Import} {ls : List Text}
      (recognised : Header.recognise (raw ++ t) = some (raw, line)) (quiet : Quiet raw)
      (rest : Laid (raw.getLast? = some '\n') t is ls) : Laid true (raw ++ t) is (line :: ls)
  | line {b : Bool} {w t : Text} {is : List Import} {ls : List Text} (single : '\n' ∉ w)
      (closed : opensImport w = false) (closed' : opensHeader w = false) (rest : Laid true t is ls) :
      Laid b (w ++ '\n' :: t) is ls
  | rest {b : Bool} {w : Text} (ne_nil : w ≠ []) (single : '\n' ∉ w)
      (closed : opensImport w = false) (closed' : opensHeader w = false) : Laid b w [] []

/-! ## Lines that open no header line -/

/-- The words that header lines are told by. -/
def headerWords : List Text :=
  ["SPDX-License-Identifier:".toList, "//".toList, "pragma".toList, "solidity".toList]

/-- A text that goes on with none of the words. -/
def Fresh (g : Text) : Prop := ∀ p ∈ headerWords, ∀ c ∈ g.head?, c ∉ p

theorem fresh_of_blank {g : Text} (h : ∀ c ∈ g.head?, Text.isBlank c = true) : Fresh g := by
  have hall : headerWords.all (fun p => p.all fun c => !Text.isBlank c) = true := by decide +kernel
  intro p hp c hc hmem
  have hword := List.all_eq_true.mp (List.all_eq_true.mp hall p hp) c hmem
  rw [h c hc] at hword
  cases hword

theorem fresh_semicolon (u : Text) : Fresh (';' :: u) := by
  have hall : headerWords.all (fun p => p.all fun c => c ≠ ';') = true := by decide +kernel
  intro p hp c hc hmem
  obtain rfl := Option.some.inj hc
  simpa using List.all_eq_true.mp (List.all_eq_true.mp hall p hp) _ hmem

theorem Fresh.startsWith {g p : Text} (h : Fresh g) (hp : p ∈ headerWords) (t : Text) :
    Text.startsWith p (t ++ g) = Text.startsWith p t := by
  rw [Text.startsWith, Text.startsWith, Text.after?_append (h p hp), Option.isSome_map]

theorem Fresh.after? {g p : Text} (h : Fresh g) (hp : p ∈ headerWords) (t : Text) :
    Text.after? p (t ++ g) = (Text.after? p t).map (· ++ g) :=
  Text.after?_append (h p hp) t

/-- Where cutting off white space at the beginning leaves the same of two texts, or neither of their
ends, a line opens a header line with both ends or with none. -/
theorem opensHeader_congr {g g' : Text} (hg : Fresh g) (hg' : Fresh g')
    (hcut : ∀ u : Text, (u ++ g).dropWhile Text.isBlank = (u ++ g').dropWhile Text.isBlank ∨
      ∃ v, (u ++ g).dropWhile Text.isBlank = v ++ g ∧
        (u ++ g').dropWhile Text.isBlank = v ++ g' ∧ (v ++ g).isEmpty = (v ++ g').isEmpty)
    (w : Text) : opensHeader (w ++ g) = opensHeader (w ++ g') := by
  have hword : ∀ {p : Text}, p ∈ headerWords → ∀ u : Text,
      Text.startsWith p ((u ++ g).dropWhile Text.isBlank) =
        Text.startsWith p ((u ++ g').dropWhile Text.isBlank) := by
    intro p hp u
    rcases hcut u with h | ⟨v, h, h', -⟩
    · rw [h]
    · rw [h, h', hg.startsWith hp, hg'.startsWith hp]
  have hempty : ∀ u : Text, ((u ++ g).dropWhile Text.isBlank).isEmpty =
      ((u ++ g').dropWhile Text.isBlank).isEmpty := by
    intro u
    rcases hcut u with h | ⟨v, h, h', hv⟩
    · rw [h]
    · rw [h, h', hv]
  rcases hcut w with h | ⟨v, h, h', -⟩
  · rw [opensHeader, opensHeader, h]
  · have hslashes : "//".toList ∈ headerWords := by simp [headerWords]
    have hpragma : "pragma".toList ∈ headerWords := by simp [headerWords]
    have htag : "SPDX-License-Identifier:".toList ∈ headerWords := by simp [headerWords]
    have hsolidity : "solidity".toList ∈ headerWords := by simp [headerWords]
    simp only [opensHeader, h, h']
    rw [hg.startsWith htag, hg'.startsWith htag, hg.after? hslashes, hg'.after? hslashes,
      hg.after? hpragma, hg'.after? hpragma]
    simp only [Option.any_map, hword htag, hword hsolidity, hempty]

/-- White space behind a line does not matter. -/
theorem opensHeader_append_blanks {g : Text} (hg : ∀ c ∈ g, Text.isBlank c = true) (w : Text) :
    opensHeader (w ++ g) = opensHeader w := by
  have hfresh : Fresh g := fresh_of_blank fun c hc => hg c (List.mem_of_mem_head? hc)
  have hnil : Fresh [] := fresh_of_blank (by simp)
  have hcongr := opensHeader_congr hfresh hnil (fun u => ?_) w
  · rwa [List.append_nil] at hcongr
  · rw [List.append_nil]
    rcases Text.dropWhile_append_blanks hg u with ⟨hu, hug⟩ | hug
    · exact .inl (hug.trans hu.symm)
    · cases hv : u.dropWhile Text.isBlank with
      | nil =>
          -- nothing but white space, so all of it goes
          have hblank : ∀ c ∈ u ++ g, Text.isBlank c = true := by
            intro c hc
            rcases List.mem_append.mp hc with hc | hc
            · exact List.dropWhile_eq_nil_iff.mp hv c hc
            · exact hg c hc
          exact .inl (List.dropWhile_eq_nil_iff.mpr hblank)
      | cons d v => exact .inr ⟨d :: v, by rw [hug, hv], by simp, rfl⟩

/-- White space before a line does not matter. -/
theorem opensHeader_append_left {g : Text} (hg : ∀ c ∈ g, Text.isBlank c = true) (w : Text) :
    opensHeader (g ++ w) = opensHeader w := by
  rw [opensHeader, opensHeader, List.dropWhile_append_of_pos hg]

theorem dropWhile_append_cons {c : Char} (hc : Text.isBlank c = false) (u t : Text) :
    (u ++ c :: t).dropWhile Text.isBlank = u.dropWhile Text.isBlank ++ c :: t := by
  rw [List.dropWhile_append]
  split
  · rename_i hnil
    rw [List.isEmpty_iff.mp hnil, List.dropWhile_cons_of_neg (by simp [hc]), List.nil_append]
  · rfl

/-- Whether a line opens a header line, nothing behind its first semicolon tells. -/
theorem opensHeader_semicolon (w u : Text) :
    opensHeader (w ++ ';' :: u) = opensHeader (w ++ [';']) := by
  have hsemi : Text.isBlank ';' = false := by decide
  refine opensHeader_congr (fresh_semicolon u) (fresh_semicolon []) (fun v => .inr ?_) w
  refine ⟨v.dropWhile Text.isBlank, dropWhile_append_cons hsemi v u,
    dropWhile_append_cons hsemi v [], ?_⟩
  cases v.dropWhile Text.isBlank <;> rfl

/-! ## Where no header line is recognised -/

/-- The rest of a text's first line: nothing, or a line feed and a text that does not begin with the
licence's tag, which a licence on the line before could go on with. -/
def EndsLine (s : Text) : Prop :=
  s = [] ∨ ∃ t, s = '\n' :: t ∧
    Text.startsWith "SPDX-License-Identifier:".toList (t.dropWhile Text.isBlank) = false

theorem EndsLine.fresh {s : Text} (h : EndsLine s) : Fresh s := by
  have hblank : Text.isBlank '\n' = true := by decide
  refine fresh_of_blank ?_
  rcases h with rfl | ⟨t, rfl, -⟩ <;> simp [hblank]

theorem EndsLine.no_tag {s : Text} (h : EndsLine s) :
    Text.startsWith "SPDX-License-Identifier:".toList (s.dropWhile Text.isBlank) = false := by
  rcases h with rfl | ⟨t, rfl, ht⟩
  · decide
  · rwa [List.dropWhile_cons_of_pos (by decide)]

/-- What begins a text without leaving its first line begins that line. -/
theorem exists_eq_append {p x w s : Text} (hp : '\n' ∉ p) (hs : s = [] ∨ ∃ t, s = '\n' :: t)
    (h : w ++ s = p ++ x) : ∃ w', w = p ++ w' ∧ x = w' ++ s := by
  rcases List.append_eq_append_iff.mp h with ⟨c, rfl, hc⟩ | ⟨w', rfl, hx⟩
  · cases c with
    | nil => exact ⟨[], by simp, by simpa using hc.symm⟩
    | cons d c =>
        rcases hs with rfl | ⟨t, rfl⟩
        · cases hc
        · obtain ⟨rfl, -⟩ := List.cons.inj hc
          exact absurd (by simp) hp
  · exact ⟨w', rfl, hx⟩

theorem opensHeader_slashes {w : Text}
    (h : Text.startsWith "SPDX-License-Identifier:".toList (w.dropWhile Text.isBlank) = true) :
    opensHeader ("//".toList ++ w) = true := by
  have hdrop : ("//".toList ++ w).dropWhile Text.isBlank = "//".toList ++ w :=
    List.dropWhile_cons_of_neg (by decide)
  simp only [opensHeader, hdrop, Header.after?_self, Option.any_some, h, Bool.or_true, Bool.true_or]

theorem opensHeader_pragma {w : Text} (h : w.dropWhile Text.isBlank = [] ∨
    Text.startsWith "solidity".toList (w.dropWhile Text.isBlank) = true) :
    opensHeader ("pragma".toList ++ w) = true := by
  have hdrop : ("pragma".toList ++ w).dropWhile Text.isBlank = "pragma".toList ++ w :=
    List.dropWhile_cons_of_neg (by decide)
  simp only [opensHeader, hdrop, Header.after?_self, Option.any_some, Bool.or_eq_true,
    List.isEmpty_iff]
  exact .inr h

/-- A word of a header line behind white space stands on the first line, or on a later one. -/
theorem word_ahead {word gap w s z : Text} (hword : word ∈ headerWords)
    (hstarts : ∀ c ∈ word.head?, Text.isBlank c = false) (hne : word ≠ [])
    (hgap : ∀ c ∈ gap, Text.isBlank c = true) (hs : Fresh s) (h : w ++ s = gap ++ (word ++ z)) :
    w.dropWhile Text.isBlank = [] ∧ Text.startsWith word (s.dropWhile Text.isBlank) = true ∨
      Text.startsWith word (w.dropWhile Text.isBlank) = true := by
  have hdrop : (w ++ s).dropWhile Text.isBlank = word ++ z := by
    obtain ⟨c, word, rfl⟩ := List.exists_cons_of_ne_nil hne
    rw [h, List.dropWhile_append_of_pos hgap, List.cons_append,
      List.dropWhile_cons_of_neg (by simpa using hstarts)]
  have hself : Text.startsWith word (word ++ z) = true := by
    rw [Text.startsWith, Header.after?_self]
    rfl
  rw [List.dropWhile_append] at hdrop
  split at hdrop
  · rename_i hnil
    exact .inl ⟨List.isEmpty_iff.mp hnil, hdrop ▸ hself⟩
  · have hw := hs.startsWith hword (w.dropWhile Text.isBlank)
    rw [hdrop, hself] at hw
    exact .inr hw.symm

/-- Where the first line opens no header line, none is recognised. -/
theorem recognise_header_eq_none {w s : Text} (hs : EndsLine s)
    (closed : opensHeader w = false) : Header.recognise (w ++ s) = none := by
  rw [Option.eq_none_iff_forall_ne_some]
  rintro ⟨raw, line⟩ hrec
  obtain ⟨-, rest, htext, hwritten⟩ := Header.recognise_eq_some_iff.mp hrec
  have hends : s = [] ∨ ∃ t, s = '\n' :: t := hs.imp_right fun ⟨t, ht, _⟩ => ⟨t, ht⟩
  have hline : ∀ {indent : Text}, (∀ c ∈ indent, isIndent c = true) → ∀ word : Text,
      '\n' ∉ word → '\n' ∉ indent ++ word := by
    intro indent hindent word hword hmem
    rcases List.mem_append.mp hmem with hmem | hmem
    · exact ne_newline_of_isIndent (hindent '\n' hmem) rfl
    · exact hword hmem
  have hopens : ∀ {indent word w' : Text}, (∀ c ∈ indent, isIndent c = true) →
      w = indent ++ word ++ w' → opensHeader (word ++ w') = false := by
    intro indent word w' hindent hw
    rw [← opensHeader_append_left fun c hc => isBlank_of_isIndent (hindent c hc),
      ← List.append_assoc, ← hw]
    exact closed
  -- the first word of a header line stands on the line, and what follows it can be on the next one
  cases hwritten with
  | @licence indent body ending _ hindent hbody hends' =>
      obtain @⟨gap, tail, hgap, hsingle⟩ := hbody
      obtain ⟨w', hw, hx⟩ := exists_eq_append
        (x := gap ++ ("SPDX-License-Identifier:".toList ++ (tail ++ (ending ++ rest))))
        (hline hindent "//".toList (by simp)) hends
        (by rw [htext]; simp only [List.append_assoc])
      have hfalse := hopens hindent hw
      rcases word_ahead (by simp [headerWords]) (by simp; decide) (by simp) hgap hs.fresh hx.symm
        with ⟨-, htag⟩ | htag
      · rw [hs.no_tag] at htag
        cases htag
      · rw [opensHeader_slashes htag] at hfalse
        cases hfalse
  | @pragma indent body spaces ending _ hindent hbody hspaces hends' =>
      obtain @⟨gap, gap', versions, hne, hgap, hne', hgap', hclosed, hstarts⟩ := hbody
      obtain ⟨w', hw, hx⟩ := exists_eq_append
        (x := gap ++ ("solidity".toList ++
          (gap' ++ (versions ++ [';']) ++ (spaces ++ ending) ++ rest)))
        (hline hindent "pragma".toList (by simp)) hends
        (by rw [htext]; simp only [List.append_assoc])
      have hfalse := hopens hindent hw
      have htrue := opensHeader_pragma ((word_ahead (by simp [headerWords]) (by simp; decide)
        (by simp) hgap hs.fresh hx.symm).imp_left And.left)
      rw [htrue] at hfalse
      cases hfalse

/-! ## A reading is what the search does -/

namespace HeaderReading

variable {b : Bool} {t u w : Text} {ls : List Text}

/-- A text that can be read does not begin in the middle of a licence. -/
theorem no_tag (h : HeaderReading b t ls) :
    Text.startsWith "SPDX-License-Identifier:".toList (t.dropWhile Text.isBlank) = false := by
  have hline : ∀ w : Text, opensHeader w = false →
      Text.startsWith "SPDX-License-Identifier:".toList (w.dropWhile Text.isBlank) = false := by
    intro w hw
    simp only [opensHeader, Bool.or_eq_false_iff] at hw
    exact hw.1.1
  induction h with
  | nil => decide
  | @found raw line t ls recognised rest ih =>
      obtain ⟨-, rest', htext, hwritten⟩ := Header.recognise_eq_some_iff.mp recognised
      obtain ⟨indent, body, x, rfl, hindent, hbody⟩ := hwritten.exists_body
      rw [List.append_assoc,
        List.dropWhile_append_of_pos fun c hc => isBlank_of_isIndent (hindent c hc)]
      obtain ⟨c, hc, -, hblank, -⟩ := Header.head?_of_body hbody (x ++ t)
      obtain ⟨r, hr⟩ := List.head?_eq_some_iff.mp hc
      have hletter : Text.startsWith "SPDX-License-Identifier:".toList (body ++ (x ++ t)) = false := by
        rcases hbody with ⟨-, -⟩ | ⟨-, -, -, -, -, -⟩ <;> rfl
      rw [List.append_assoc, hr, List.dropWhile_cons_of_neg (by simp [hblank]), ← hr]
      exact hletter
  | @line b w t ls single closed rest ih =>
      rw [List.dropWhile_append]
      split
      · rwa [List.dropWhile_cons_of_pos (by decide)]
      · have hnewline : Fresh ('\n' :: t) := by
          have hblank : Text.isBlank '\n' = true := by decide
          exact fresh_of_blank (by simp [hblank])
        rw [hnewline.startsWith (by simp [headerWords])]
        exact hline w closed
  | @rest b w ne_nil single closed => exact hline w closed

theorem endsLine (h : HeaderReading b t ls) : EndsLine ('\n' :: t) := .inr ⟨t, rfl, h.no_tag⟩

/-- The pieces of a text that can be read: the header lines read, and nothing else. -/
theorem pieces_eq (h : HeaderReading b t ls) :
    (piecesFrom Header.recognise b t).filterMap Piece.value? = ls := by
  induction h with
  | nil => simp [piecesFrom]
  | @found raw line t ls recognised rest ih =>
      rw [piecesFrom_found (Header.recognise_spec recognised).2.1 recognised]
      simpa [Piece.value?] using ih
  | @line b w t ls single closed rest ih =>
      rw [piecesFrom_line single fun _ => recognise_header_eq_none rest.endsLine closed]
      exact ih
  | @rest b w ne_nil single closed =>
      have hnone := recognise_header_eq_none (.inl rfl) closed
      rw [List.append_nil] at hnone
      rw [piecesFrom_rest ne_nil single fun _ => hnone]
      rfl

theorem found_eq (h : HeaderReading true t ls) : Solidity.found Header.recognise t = ls :=
  h.pieces_eq

end HeaderReading

/-! ## Texts without header lines -/

namespace Headerless

variable {b : Bool} {t u w : Text} {ls : List Text}

theorem of_line (single : '\n' ∉ w) : Headerless w ↔ opensHeader w = false := by
  rw [Headerless, Text.split_of_not_mem single]
  simp

/-- The texts on both sides of a line feed tell. -/
theorem append_line : Headerless (t ++ '\n' :: u) ↔ Headerless t ∧ Headerless u := by
  simp only [Headerless, Text.split_append, List.mem_append, or_imp, forall_and]

theorem line (single : '\n' ∉ w) :
    Headerless (w ++ '\n' :: t) ↔ opensHeader w = false ∧ Headerless t := by
  rw [append_line, of_line single]

theorem nil : Headerless [] := (of_line (by simp)).mpr (by decide)

/-- A text whose lines begin no header line is read without finding one. -/
theorem reading (h : Headerless t) : HeaderReading b t [] := by
  induction t using Text.split_induction '\n' generalizing b with
  | plain w single =>
      cases w with
      | nil => exact .nil
      | cons c w => exact .rest (by simp) single ((of_line single).mp h)
  | piece w t single ih =>
      obtain ⟨hw, ht⟩ := (line single).mp h
      exact .line single hw (ih ht)

/-- What follows a semicolon on its line changes nothing before it. -/
theorem append_closed (h : Headerless t) (hsemi : t.getLast? = some ';')
    (hu : HeaderReading false u ls) : HeaderReading b (t ++ u) ls := by
  induction t using Text.split_induction '\n' generalizing b with
  | plain w single =>
      obtain ⟨front, rfl⟩ := List.getLast?_eq_some_iff.mp hsemi
      have hw : ∀ v : Text, opensHeader (front ++ [';'] ++ v) = false := by
        intro v
        rw [List.append_assoc, List.singleton_append, opensHeader_semicolon]
        exact (of_line single).mp h
      have hline : ∀ v : Text, '\n' ∉ v → '\n' ∉ front ++ [';'] ++ v := by
        intro v hv hmem
        exact (List.mem_append.mp hmem).elim single hv
      cases hu with
      | nil => exact .rest (by simp) (hline [] (by simp)) (hw [])
      | @line _ v t _ single' _ rest =>
          rw [← List.append_assoc]
          exact .line (hline v single') (hw v) rest
      | @rest _ v _ single' _ => exact .rest (by simp) (hline u single') (hw u)
  | piece w t single ih =>
      obtain ⟨hw, ht⟩ := (line single).mp h
      have hsemi' : t.getLast? = some ';' := by
        cases t with
        | nil => simp at hsemi
        | cons c t => simpa using hsemi
      rw [List.append_assoc, List.cons_append]
      exact .line single hw (ih ht hsemi')

/-- Indentation does not matter. -/
theorem indent {g : Text} (hg : ∀ c ∈ g, isIndent c = true) (h : Headerless t) :
    Headerless (g ++ t) := by
  have hline : '\n' ∉ g := fun hmem => ne_newline_of_isIndent (hg '\n' hmem) rfl
  have hblank : ∀ c ∈ g, Text.isBlank c = true := fun c hc => isBlank_of_isIndent (hg c hc)
  induction t using Text.split_induction '\n' with
  | plain w single =>
      rw [of_line (by simp [hline, single]), opensHeader_append_left hblank]
      exact (of_line single).mp h
  | piece w t single ih =>
      rw [← List.append_assoc, line (by simp [hline, single]), opensHeader_append_left hblank]
      exact (line single).mp h

/-- White space at the beginning does not matter. -/
theorem dropWhile (h : Headerless t) : Headerless (t.dropWhile Text.isBlank) := by
  have hcut : ∀ w : Text, opensHeader (w.dropWhile Text.isBlank) = opensHeader w := by
    intro w
    rw [opensHeader, opensHeader, List.dropWhile_idempotent]
  have hsub : ∀ w : Text, '\n' ∉ w → '\n' ∉ w.dropWhile Text.isBlank :=
    fun w hw hmem => hw ((List.dropWhile_suffix Text.isBlank).subset hmem)
  induction t using Text.split_induction '\n' with
  | plain w single =>
      rw [of_line (hsub w single), hcut]
      exact (of_line single).mp h
  | piece w t single ih =>
      obtain ⟨hw, ht⟩ := (line single).mp h
      rw [List.dropWhile_append]
      split
      · rw [List.dropWhile_cons_of_pos (by decide)]
        exact ih ht
      · rw [line (hsub w single), hcut]
        exact ⟨hw, ht⟩

/-- White space at the end does not matter. -/
theorem stripEnd (h : Headerless t) : Headerless (Text.stripEnd t) := by
  have hcut : ∀ w : Text, '\n' ∉ w → opensHeader w = false → Headerless (Text.stripEnd w) := by
    intro w single hw
    obtain ⟨g, hg, hblank⟩ := Text.exists_stripEnd_append w
    have hsub : '\n' ∉ Text.stripEnd w := by
      intro hmem
      rw [hg] at single
      exact single (List.mem_append_left g hmem)
    rw [of_line hsub, ← opensHeader_append_blanks hblank, ← hg]
    exact hw
  induction t using Text.split_induction '\n' with
  | plain w single => exact hcut w single ((of_line single).mp h)
  | piece w t single ih =>
      obtain ⟨hw, ht⟩ := (line single).mp h
      rw [List.append_cons, Text.stripEnd_append]
      split
      · rw [Text.stripEnd_append, if_pos (by decide)]
        exact hcut w single hw
      · rw [← List.append_cons, line single]
        exact ⟨hw, ih ht⟩

theorem strip (h : Headerless t) : Headerless (Text.strip t) := h.dropWhile.stripEnd

theorem join {parts : List Text} (h : ∀ p ∈ parts, Headerless p) :
    Headerless (Text.join "\n\n".toList parts) := by
  induction parts with
  | nil => exact nil
  | cons p parts ih =>
      have hp := h p (by simp)
      have hrest := ih fun q hq => h q (List.mem_cons_of_mem p hq)
      cases parts with
      | nil => simpa [Text.join, List.intercalate] using hp
      | cons q parts =>
          have hjoin : Text.join "\n\n".toList (p :: q :: parts) =
              p ++ '\n' :: ([] ++ '\n' :: Text.join "\n\n".toList (q :: parts)) := by
            simp [Text.join, List.intercalate]
          rw [hjoin]
          exact append_line.mpr ⟨hp, append_line.mpr ⟨nil, hrest⟩⟩

end Headerless

/-- **Erasing the header lines leaves none.** -/
theorem HeaderReading.headerless_erase {b : Bool} {t : Text} {ls : List Text}
    (h : HeaderReading b t ls) :
    Headerless (eraseFrom Header.recognise (fun _ => true) b t) := by
  induction h with
  | nil => simpa using Headerless.nil
  | @found raw line t ls recognised rest ih =>
      rw [eraseFrom_found (Header.recognise_spec recognised).2.1 recognised]
      exact ih
  | @line b w t ls single closed rest ih =>
      rw [eraseFrom_line single fun _ => recognise_header_eq_none rest.endsLine closed]
      exact (Headerless.line single).mpr ⟨closed, ih⟩
  | @rest b w ne_nil single closed =>
      have hnone := recognise_header_eq_none (.inl rfl) closed
      rw [List.append_nil] at hnone
      rw [eraseFrom_rest ne_nil single fun _ => hnone]
      exact (Headerless.of_line single).mpr closed

/-! ## Erasing imports -/

variable {dropped : Import → Bool}

/-- Nothing is erased from a text without imports, in front of another line. -/
theorem Reading.erase_append {b : Bool} {x : Text} (h : Reading b x [])
    (hend : x.getLast? = some '\n') (t : Text) :
    eraseFrom Import.recognise dropped b (x ++ t) =
      x ++ eraseFrom Import.recognise dropped true t := by
  generalize hnil : ([] : List Import) = nothing at h
  induction h with
  | nil => cases hend
  | found => cases hnil
  | @line b w x is single closed rest ih =>
      rw [List.append_assoc, List.cons_append,
        eraseFrom_line single fun _ => recognise_line single closed _]
      cases x with
      | nil => simp
      | cons c x =>
          rw [ih (by simpa using hend) hnil]
          simp
  | @rest b w ne_nil single closed => exact absurd (List.mem_of_getLast? hend) single

theorem Reading.erase_quiet {b : Bool} {x : Text} (h : Reading b x []) :
    eraseFrom Import.recognise dropped b x = x := by
  generalize hnil : ([] : List Import) = nothing at h
  induction h with
  | nil => simp
  | found => cases hnil
  | @line b w x is single closed rest ih =>
      rw [eraseFrom_line single fun _ => recognise_line single closed _, ih hnil]
  | @rest b w ne_nil single closed =>
      rw [eraseFrom_rest ne_nil single fun _ => recognise_rest single closed]

namespace Laid

variable {b : Bool} {t : Text} {is : List Import} {ls : List Text}

/-- What is laid out inside a line is laid out where a line begins. -/
theorem atLine (h : Laid b t is ls) : Laid true t is ls := by
  cases h with
  | nil => exact .nil
  | statement written apart rest => exact .statement written apart rest
  | header recognised quiet rest => exact .header recognised quiet rest
  | line single closed closed' rest => exact .line single closed closed' rest
  | rest ne_nil single closed closed' => exact .rest ne_nil single closed closed'

/-- A header line on a line of its own that begins no import. -/
theorem header_line (line : Text) {t : Text} (single : '\n' ∉ line)
    (recognised : Header.recognise (line ++ '\n' :: t) = some (line ++ ['\n'], line))
    (closed : opensImport line = false) (rest : Laid true t is ls) :
    Laid true (line ++ '\n' :: t) is (line :: ls) := by
  have hquiet : Quiet (line ++ ['\n']) := quiet_iff.mpr (.line single closed .nil)
  rw [List.append_cons] at recognised ⊢
  exact .header recognised hquiet (by simpa using rest)

/-- The search for header lines finds those of the layout. -/
theorem headerReading (h : Laid b t is ls) : HeaderReading b t ls := by
  induction h with
  | nil => exact .nil
  | @statement raw t i is ls written apart rest ih =>
      obtain ⟨indent, hindent, rfl, hsemi⟩ := written.exists_indent
      refine (apart.indent hindent).append_closed ?_ ih
      rw [List.getLast?_append, hsemi]
      rfl
  | header recognised quiet rest ih => exact .found recognised ih
  | line single closed closed' rest ih => exact .line single closed' ih
  | rest ne_nil single closed closed' => exact .rest ne_nil single closed'

/-- Nothing is erased before the end of a line that has begun. -/
theorem head?_eraseImports (h : Laid false t is ls) :
    (eraseFrom Import.recognise dropped false t).head? = t.head? := by
  cases h with
  | nil => simp
  | @line _ w t _ _ single closed closed' rest =>
      rw [eraseFrom_line single (by simp)]
      cases w <;> rfl
  | rest ne_nil single closed closed' => rw [eraseFrom_rest ne_nil single (by simp)]

/-- The search for imports passes a header line. -/
theorem eraseImports_header {raw line : Text}
    (recognised : Header.recognise (raw ++ t) = some (raw, line)) (quiet : Quiet raw)
    (h : Laid (raw.getLast? = some '\n') t is ls) :
    eraseFrom Import.recognise dropped true (raw ++ t) =
      raw ++ eraseFrom Import.recognise dropped (raw.getLast? = some '\n') t := by
  have hquiet := quiet_iff.mp quiet
  obtain ⟨-, -, rest, hrest, hend⟩ := Header.recognise_spec recognised
  obtain rfl := List.append_cancel_left hrest
  by_cases hnewline : raw.getLast? = some '\n'
  · simpa [hnewline] using hquiet.erase_append hnewline t
  · rcases hend with hend | rfl | ⟨front, spaces, hraw, hspaces⟩
    · exact absurd hend hnewline
    · simpa using hquiet.erase_quiet
    · have hsingle : '\n' ∉ spaces := fun hmem => ne_newline_of_isIndent (hspaces '\n' hmem) rfl
      simp only [hnewline, decide_false] at h ⊢
      cases h with
      | nil => simpa using hquiet.erase_quiet
      | @line _ w t _ _ single closed closed' rest =>
          -- the line that the header line is on ends with what follows
          have hline := (hquiet.append_closed hraw hsingle single).append_line .nil
          have herase := @Reading.erase_append dropped _ _ hline (by simp) t
          rw [eraseFrom_line single (by simp)]
          simpa using herase
      | rest ne_nil single closed closed' =>
          rw [eraseFrom_rest ne_nil single (by simp)]
          exact (hquiet.append_closed hraw hsingle single).erase_quiet

/-- **Erasing imports leaves the layout of what is left.** -/
theorem eraseImports (h : Laid b t is ls) :
    Laid b (eraseFrom Import.recognise dropped b t) (is.filter (!dropped ·)) ls := by
  induction h with
  | nil =>
      rw [eraseFrom_nil]
      exact .nil
  | @statement raw t i is ls written apart rest ih =>
      have hrec := Import.recognise_eq_some_iff.mpr ⟨t, rfl, written⟩
      rw [eraseFrom_found written.ne_nil hrec, written.getLast?_eq]
      cases hi : dropped i with
      | true => simpa [hi] using ih.atLine
      | false => simpa [hi] using Laid.statement written apart ih
  | @header raw line t is ls recognised quiet rest ih =>
      rw [eraseImports_header recognised quiet rest]
      refine .header (Header.recognise_congr recognised ?_) quiet ih
      by_cases hnewline : raw.getLast? = some '\n'
      · exact .inl hnewline
      · simp only [hnewline, decide_false] at rest ⊢
        exact .inr rest.head?_eraseImports
  | @line b w t is ls single closed closed' rest ih =>
      rw [eraseFrom_line single fun _ => recognise_line single closed t]
      exact .line single closed closed' ih
  | @rest b w ne_nil single closed closed' =>
      rw [eraseFrom_rest ne_nil single fun _ => recognise_rest single closed]
      exact .rest ne_nil single closed closed'

end Laid

end ContractVerifier.Solidity
