import ContractVerifier.Proofs.Solidity.HeaderLines

set_option autoImplicit false

/-! # Taking header lines out of a text with imports

Header lines are found where lines begin, as imports are, and taking one out moves what follows it
on its line. Where header lines and imports keep apart (`HeadersApart`), a text without its header
lines has the same imports (`Reading.eraseHeaders`), and the header lines themselves have none
(`HeadersApart.reading_header`).
-/

namespace ContractVerifier.Solidity

/-! ## What the search for header lines looks at

A header line that is found in a text with a semicolon at its end is found in every longer text,
and the other way round: the search looks at nothing behind the semicolon. -/

namespace Header

variable {s r : Text}

theorem after?_append {p u : Text} (hs : s.getLast? = some ';') (hp : ';' ∉ p)
    (h : Text.after? p (s ++ r) = some u) :
    ∃ s', s'.getLast? = some ';' ∧ Text.after? p s = some s' ∧ u = s' ++ r := by
  obtain ⟨x, rfl⟩ := List.getLast?_eq_some_iff.mp hs
  have hfresh : ∀ u : Text, ∀ c ∈ (';' :: u).head?, c ∉ p := by simpa using hp
  rw [List.append_assoc, List.singleton_append, Text.after?_append (hfresh r)] at h
  obtain ⟨y, hy, rfl⟩ := Option.map_eq_some_iff.mp h
  refine ⟨y ++ [';'], by simp, ?_, by simp⟩
  rw [Text.after?_append (hfresh []), hy]
  rfl

/-- A run of characters ends before the semicolon, whatever stands behind. -/
theorem takeWhile_append {p : Char → Bool} (hs : s.getLast? = some ';') (hp : p ';' = false) :
    ∃ run s', s = run ++ s' ∧ s'.getLast? = some ';' ∧ (run ++ s').takeWhile p = run ∧
      (run ++ (s' ++ r)).takeWhile p = run := by
  obtain ⟨run, s', rfl, htake, hrun, hs'⟩ := Text.exists_takeWhile_eq p s
  have hne : s' ≠ [] := by
    rintro rfl
    rw [List.append_nil] at hs
    exact absurd (hrun _ (List.mem_of_getLast? hs)) (by simp [hp])
  refine ⟨run, s', rfl, ?_, htake, ?_⟩
  · rwa [List.getLast?_append_of_ne_nil run hne] at hs
  · obtain ⟨d, s', rfl⟩ := List.exists_cons_of_ne_nil hne
    rw [List.takeWhile_append_of_pos hrun, List.cons_append,
      List.takeWhile_cons_of_neg (by simp [hs' d s' rfl]), List.append_nil]

theorem blanksAhead_append (hs : s.getLast? = some ';') :
    ∃ run s', s'.getLast? = some ';' ∧ blanksAhead s = (run, s') ∧
      blanksAhead (s ++ r) = (run, s' ++ r) := by
  obtain ⟨run, s', rfl, hs', htake, htake'⟩ :=
    takeWhile_append (p := Text.isBlank) (r := r) hs (by decide)
  refine ⟨run, s', hs', ?_, ?_⟩
  · rw [blanksAhead, htake, List.drop_left]
  · rw [List.append_assoc, blanksAhead, htake', List.drop_left]

theorem licence?_append (hs : s.getLast? = some ';') (h : licence? s = none) :
    licence? (s ++ r) = none := by
  cases hafter : Text.after? "//".toList (s ++ r) with
  | none => rw [licence?, hafter]
  | some u =>
      obtain ⟨s₁, hs₁, hafter₁, rfl⟩ := after?_append hs (by simp) hafter
      obtain ⟨gap, s₂, hs₂, hgap, hgap'⟩ := blanksAhead_append (r := r) hs₁
      rw [licence?, hafter₁] at h
      rw [licence?, hafter]
      simp only [hgap, hgap'] at h ⊢
      cases htag : Text.after? "SPDX-License-Identifier:".toList (s₂ ++ r) with
      | none => rfl
      | some u =>
          obtain ⟨s₃, -, htag₃, -⟩ := after?_append hs₂ (by simp) htag
          rw [htag₃] at h
          cases h

theorem pragma?_append (hs : s.getLast? = some ';') (h : pragma? s = none) :
    pragma? (s ++ r) = none := by
  cases hafter : Text.after? "pragma".toList (s ++ r) with
  | none => rw [pragma?, hafter]
  | some u =>
      obtain ⟨s₁, hs₁, hafter₁, rfl⟩ := after?_append hs (by simp) hafter
      obtain ⟨gap, s₂, hs₂, hgap, hgap'⟩ := blanksAhead_append (r := r) hs₁
      rw [pragma?, hafter₁] at h
      rw [pragma?, hafter]
      simp only [hgap, hgap'] at h ⊢
      cases hword : Text.after? "solidity".toList (s₂ ++ r) with
      | none => rfl
      | some u =>
          obtain ⟨s₃, hs₃, hword₃, rfl⟩ := after?_append hs₂ (by simp) hword
          obtain ⟨gap', s₄, hs₄, hgap₄, hgap₄'⟩ := blanksAhead_append (r := r) hs₃
          obtain ⟨versions, s₅, rfl, hs₅, htake, htake'⟩ :=
            takeWhile_append (p := (· ≠ ';')) (r := r) hs₄ (by decide)
          obtain ⟨d, s₅, rfl⟩ := List.exists_cons_of_ne_nil (l := s₅) (by rintro rfl; cases hs₅)
          rw [List.append_assoc, List.cons_append] at hgap₄'
          rw [List.cons_append] at htake'
          rw [hword₃] at h
          simp only [hgap₄, hgap₄', htake, htake', List.drop_left] at h ⊢
          split at h
          · rw [if_pos ‹_›]
          · cases h

theorem recognise_append (hs : s.getLast? = some ';') (h : recognise s = none) :
    recognise (s ++ r) = none := by
  obtain ⟨indent, s', rfl, hs', htake, htake'⟩ :=
    takeWhile_append (p := isIndent) (r := r) hs (by decide)
  rw [List.append_assoc]
  simp only [recognise, htake, htake', List.drop_left, Option.map_eq_none_iff] at h ⊢
  cases hlicence : licence? s' with
  | some line => simp [hlicence] at h
  | none =>
      simp only [hlicence] at h
      rw [licence?_append hs' hlicence, pragma?_append hs' h]

/-- Indentation does not matter. -/
theorem recognise_indent {indent : Text} (hindent : ∀ c ∈ indent, isIndent c = true)
    (h : recognise s = none) : recognise (indent ++ s) = none := by
  simp only [recognise, Option.map_eq_none_iff] at h ⊢
  rw [List.takeWhile_append_of_pos hindent, List.length_append, ← List.drop_drop, List.drop_left]
  exact h

/-! ## What a header line ends with -/

theorem Written.ne_nil {raw rest : Text} (h : Written raw rest) : raw ≠ [] := by
  obtain ⟨indent, body, ending, rfl, -, hbody⟩ := h.exists_body
  obtain ⟨c, hc, -⟩ := head?_of_body hbody []
  intro hnil
  rw [List.append_eq_nil_iff, List.append_eq_nil_iff] at hnil
  rw [hnil.2.1] at hc
  cases hc

/-- What is recognised as a header line ends with the line, with the text, or with a semicolon and
indentation. -/
theorem recognise_spec {t raw line : Text} (h : recognise t = some (raw, line)) :
    line = Text.strip raw ∧ raw ≠ [] ∧ ∃ rest, t = raw ++ rest ∧
      (raw.getLast? = some '\n' ∨ rest = [] ∨
        ∃ front spaces, raw = front ++ ';' :: spaces ∧ ∀ c ∈ spaces, isIndent c = true) := by
  obtain ⟨hline, rest, ht, hwritten⟩ := written_of_recognise h
  refine ⟨hline, hwritten.ne_nil, rest, ht, ?_⟩
  cases hwritten with
  | licence _ _ hends =>
      rcases hends with rfl | ⟨-, hrest⟩
      · exact .inl (by simp)
      · exact .inr (.inl hrest)
  | @pragma indent body spaces ending _ _ hbody hspaces hends =>
      rcases hends with rfl | ⟨rfl, -⟩
      · exact .inl (by simp)
      · obtain ⟨front, rfl⟩ := List.getLast?_eq_some_iff.mp hbody.getLast?_eq
        exact .inr (.inr ⟨indent ++ front, spaces, by simp, hspaces⟩)

end Header

/-! ## Header lines and imports that keep apart -/

/-- In a list of pieces, no line of a header line opens an import, and what follows a header line
on its last line does not either. -/
def Apart (ps : List (Piece Text)) : Prop :=
  ∀ raw line behind, .found raw line :: behind <:+ ps →
    Quiet raw ∧ ∀ l rest, behind = .plain l :: rest → raw.getLast? ≠ some '\n' →
      opensImport l = false

/-- Header lines and imports keep apart in a text: no header line begins inside an import, and
none brings what opens an import to the beginning of a line. -/
structure HeadersApart (t : Text) : Prop where
  outside : ∀ i ∈ imports t, found Header.recognise i.statement = []
  apart : Apart (pieces Header.recognise t)

theorem Apart.of_suffix {ps ps' : List (Piece Text)} (h : Apart ps) (hs : ps' <:+ ps) :
    Apart ps' :=
  fun raw line behind hmem => h raw line behind (hmem.trans hs)

theorem Apart.of_cons {p : Piece Text} {ps : List (Piece Text)} (h : Apart (p :: ps)) :
    Apart ps :=
  h.of_suffix (List.suffix_cons p ps)

/-- Where no header line is found, none is recognised. -/
theorem Header.recognise_eq_none {t : Text}
    (h : (piecesFrom recognise true t).filterMap Piece.value? = []) : recognise t = none := by
  rw [Option.eq_none_iff_forall_ne_some]
  rintro ⟨raw, line⟩ hrec
  obtain ⟨-, hne, rest, rfl, -⟩ := recognise_spec hrec
  rw [piecesFrom_found hne hrec] at h
  cases h

/-- A text without header lines that ends with a semicolon is cut into lines, and its last line
takes along what follows on it. -/
theorem Header.piecesFrom_within {indent s : Text} (hindent : ∀ c ∈ indent, isIndent c = true)
    (hs : s.getLast? = some ';')
    (hnone : (piecesFrom recognise true s).filterMap Piece.value? = []) (t : Text) :
    ∃ ls : List Text, piecesFrom recognise true (indent ++ (s ++ t)) =
        ls.map .plain ++ piecesFrom recognise true (t.drop (firstLine t).length) ∧
      ls.flatten = indent ++ (s ++ firstLine t) := by
  induction hn : s.length using Nat.strong_induction_on generalizing indent s with
  | _ n ih =>
    have hline : '\n' ∉ indent := fun h => ne_newline_of_isIndent (hindent '\n' h) rfl
    have hfree : recognise s = none := recognise_eq_none hnone
    have hrec : recognise (indent ++ (s ++ t)) = none :=
      recognise_indent hindent (recognise_append hs hfree)
    have hne : s ≠ [] := by
      rintro rfl
      cases hs
    obtain ⟨w, hw, hsw | ⟨s', hsw⟩⟩ := exists_line s
    · -- the last line of `s`
      have hlast : '\n' ∉ indent ++ s := by simpa [hsw] using ⟨hline, hw⟩
      refine ⟨[indent ++ s ++ firstLine t], ?_, by simp⟩
      rw [← List.append_assoc] at hrec ⊢
      exact piecesFrom_append (by simp [hne]) hlast fun _ => hrec
    · have hfirst : '\n' ∉ indent ++ w := by simpa using ⟨hline, hw⟩
      have htext : indent ++ (s ++ t) = (indent ++ w) ++ '\n' :: (s' ++ t) := by simp [hsw]
      have hs' : s'.getLast? = some ';' := by
        rw [hsw] at hs
        cases s' with
        | nil => simp at hs
        | cons c s' => simpa using hs
      have hnone' : (piecesFrom recognise true s').filterMap Piece.value? = [] := by
        rw [hsw] at hnone hfree
        rw [piecesFrom_line hw fun _ => hfree] at hnone
        exact hnone
      have hshorter : s'.length < n := by
        rw [← hn, hsw]
        exact length_lt_line w s'
      have hempty : ∀ c ∈ ([] : Text), isIndent c = true := by simp
      obtain ⟨ls, hls, hflat⟩ := ih s'.length hshorter hempty hs' hnone' rfl
      refine ⟨(indent ++ w ++ ['\n']) :: ls, ?_, ?_⟩
      · rw [htext] at hrec ⊢
        rw [piecesFrom_line hfirst fun _ => hrec]
        exact congrArg _ hls
      · rw [List.flatten_cons, hflat]
        simp [hsw]

/-! ## Taking the header lines out -/

theorem goesOn_semicolon (t u : Text) : goesOn (t ++ ';' :: u) = goesOn (t ++ [';']) := by
  cases t with
  | nil =>
      have : Text.isBlank ';' = false := by decide
      simp [goesOn, this]
  | cons c t =>
      have : endsSearch ';' = true := by decide
      simp [goesOn, List.find?_append, this]

/-- Whether a line opens an import, nothing behind its first semicolon tells. -/
theorem opensImport_semicolon (w u : Text) :
    opensImport (w ++ ';' :: u) = opensImport (w ++ [';']) := by
  obtain ⟨run, w, rfl, -, hrun, hw⟩ := Text.exists_takeWhile_eq Text.isBlank w
  have hdrop : ∀ v : Text, (w ++ ';' :: v).dropWhile Text.isBlank = w ++ ';' :: v := by
    intro v
    cases w with
    | nil => exact List.dropWhile_cons_of_neg (by decide)
    | cons d w => exact List.dropWhile_cons_of_neg (by simp [hw d w rfl])
  have hfresh : ∀ v : Text, ∀ c ∈ (';' :: v).head?, c ∉ "import".toList := by simp
  rw [List.append_assoc, List.append_assoc, opensImport_append_left hrun,
    opensImport_append_left hrun, opensImport, opensImport, hdrop, hdrop,
    Text.after?_append (hfresh u), Text.after?_append (hfresh []), Option.any_map, Option.any_map]
  congr 1
  funext t
  exact goesOn_semicolon t u

namespace Reading

variable {b : Bool} {t u : Text} {is : List Import}

/-- What follows a header line on its last line changes nothing before it. -/
theorem append_closed {front spaces w : Text} (hquiet : Reading b t [])
    (ht : t = front ++ ';' :: spaces) (hspaces : '\n' ∉ spaces) (hw : '\n' ∉ w) :
    Reading b (t ++ w) [] := by
  generalize hnil : ([] : List Import) = nothing at hquiet ⊢
  induction hquiet generalizing front with
  | nil => simp at ht
  | found => cases hnil
  | @line b v t is single closed rest ih =>
      obtain ⟨front', hfront'⟩ : ∃ front', t = front' ++ ';' :: spaces := by
        rcases List.append_eq_append_iff.mp ht with ⟨a, -, ha⟩ | ⟨c, -, hc⟩
        · cases a with
          | nil => simp at ha
          | cons x a => exact ⟨a, (List.cons.inj ha).2⟩
        · have hmem : '\n' ∈ ';' :: spaces := by simp [hc]
          exact absurd hmem (by simpa using hspaces)
      rw [List.append_assoc]
      exact .line single closed (ih hfront' hnil)
  | @rest b v ne_nil single closed =>
      refine of_closed (by simp [single, hw]) ?_
      rw [ht, opensImport_semicolon] at closed
      rwa [ht, List.append_assoc, List.cons_append, opensImport_semicolon]

/-- Behind a header line the search goes on, unless the line does and opens an import. -/
theorem of_header {raw line rest : Text} (hrec : Header.recognise (raw ++ rest) = some (raw, line))
    (hquiet : Quiet raw) (hbehind : raw.getLast? ≠ some '\n' → opensImport (firstLine rest) = false)
    (h : Reading true (raw ++ rest) is) : Reading (raw.getLast? = some '\n') rest is := by
  rw [quiet_iff] at hquiet
  have hunique : ∀ {x : Text}, Reading true x [] → Reading true x is → is = [] :=
    fun hx hx' => hx'.imports_eq.symm.trans hx.imports_eq
  obtain ⟨-, -, rest', hrest', hend⟩ := Header.recognise_spec hrec
  obtain rfl := List.append_cancel_left hrest'
  by_cases hnewline : raw.getLast? = some '\n'
  · rw [hnewline]
    exact of_quiet hquiet (.inr hnewline) h
  · have hclosed := hbehind hnewline
    simp only [hnewline, decide_false]
    rcases hend with hend | rfl | ⟨front, spaces, hraw, hspaces⟩
    · exact absurd hend hnewline
    · rw [List.append_nil] at h
      rw [hunique hquiet h]
      exact .nil
    · have hsingle : '\n' ∉ spaces := fun hmem => ne_newline_of_isIndent (hspaces '\n' hmem) rfl
      obtain ⟨w, hw, rfl | ⟨u, rfl⟩⟩ := exists_line rest
      · rw [firstLine_rest hw] at hclosed
        rw [hunique (hquiet.append_closed hraw hsingle hw) h]
        exact of_closed hw hclosed
      · rw [firstLine_line hw, opensImport_append_newline] at hclosed
        have hline := (hquiet.append_closed hraw hsingle hw).append_line .nil
        refine .line hw hclosed (of_quiet hline (.inr (by simp)) ?_)
        simpa using h

/-- The same for a header line that keeps apart from the imports. -/
theorem of_apart {raw line rest : Text} (hrec : Header.recognise (raw ++ rest) = some (raw, line))
    (hapart : Apart (.found raw line ::
      piecesFrom Header.recognise (raw.getLast? = some '\n') rest))
    (h : Reading true (raw ++ rest) is) : Reading (raw.getLast? = some '\n') rest is := by
  obtain ⟨hquiet, hbehind⟩ := hapart raw line _ (List.suffix_refl _)
  refine h.of_header hrec hquiet fun hnewline => ?_
  cases rest with
  | nil => decide
  | cons c rest =>
      refine hbehind _ _ (piecesFrom_plain fun h => ?_) hnewline
      exact absurd (of_decide_eq_true h) hnewline

/-- **A text without its header lines has the same imports** if the header lines keep apart from
them. -/
theorem eraseHeaders (h : Reading b t is)
    (houtside : ∀ i ∈ is, Solidity.found Header.recognise i.statement = [])
    (hapart : Apart (piecesFrom Header.recognise b t)) :
    Reading b (eraseFrom Header.recognise (fun _ => true) b t) is := by
  induction hn : t.length using Nat.strong_induction_on generalizing b t is with
  | _ n ih =>
    subst hn
    -- the search for header lines goes its own way, so first whether one is found here
    by_cases hheader : b = true ∧ Header.recognise t ≠ none
    · obtain ⟨rfl, hsome⟩ := hheader
      obtain ⟨⟨raw, line⟩, hrec⟩ := Option.ne_none_iff_exists'.mp hsome
      obtain ⟨-, hne, rest, rfl, -⟩ := Header.recognise_spec hrec
      rw [piecesFrom_found hne hrec] at hapart
      rw [eraseFrom_found hne hrec, if_pos rfl, List.nil_append]
      have hrest := h.of_apart hrec hapart
      have hlength : rest.length < (raw ++ rest).length := by
        have := List.length_pos_iff.mpr hne
        simp only [List.length_append]
        omega
      exact (ih _ hlength hrest houtside hapart.of_cons rfl).atLine
    · have hnone : b = true → Header.recognise t = none := fun hb => by
        by_contra h'
        exact hheader ⟨hb, h'⟩
      cases h with
      | nil =>
          rw [eraseFrom_nil]
          exact .nil
      | @line _ w t _ single closed rest =>
          rw [piecesFrom_line single hnone] at hapart
          rw [eraseFrom_line single hnone]
          exact .line single closed (ih _ (length_lt_line w t) rest houtside hapart.of_cons rfl)
      | rest ne_nil single closed =>
          rw [eraseFrom_rest ne_nil single hnone]
          exact .rest ne_nil single closed
      | @found raw t i is written rest =>
          obtain ⟨indent, hindent, rfl, hsemi⟩ := written.exists_indent
          have hnone := houtside i (by simp)
          have houtside' : ∀ j ∈ is, Solidity.found Header.recognise j.statement = [] :=
            fun j hj => houtside j (List.mem_cons_of_mem i hj)
          -- no header line begins in the import, and its last line takes along what follows on it
          obtain ⟨ls, hls, hflat⟩ := Header.piecesFrom_within hindent hsemi hnone t
          rw [List.append_assoc, hls] at hapart
          rw [List.append_assoc, eraseFrom, hls, List.flatMap_append, flatMap_kept_plain, hflat,
            ← eraseFrom]
          have hsuffix := hapart.of_suffix (List.suffix_append _ _)
          cases rest with
          | nil => simpa [firstLine] using Reading.found written .nil
          | rest ne_nil single' closed =>
              simpa [firstLine_rest single'] using
                Reading.found written (.rest ne_nil single' closed)
          | @line _ w t _ single' closed rest =>
              rw [firstLine_line single', drop_line] at hsuffix ⊢
              have hlength : t.length < (indent ++ i.statement ++ (w ++ '\n' :: t)).length := by
                simp only [List.length_append, List.length_cons]
                omega
              simpa using Reading.found written
                (.line single' closed (ih _ hlength rest houtside' hsuffix rfl))

end Reading

theorem HeadersApart.reading_erase {t : Text} (h : HeadersApart t) (htidy : Tidy t) :
    Reading true (erase Header.recognise t) (imports t) :=
  htidy.reading.eraseHeaders h.outside h.apart

/-- The header lines of a text, on lines of their own, have no imports. -/
theorem HeadersApart.reading_header {t : Text} (h : HeadersApart t) :
    Reading true (splitHeader t).1 [] := by
  have hlines : ∀ line ∈ found Header.recognise t, Reading true line [] := by
    intro line hline
    obtain ⟨raw, t', hp, hrec⟩ := exists_of_mem_found hline
    obtain ⟨before, behind, hsplit⟩ := List.append_of_mem hp
    rw [(Header.recognise_spec hrec).1]
    exact (quiet_iff.mp (h.apart raw line behind ⟨before, hsplit.symm⟩).1).strip
  rw [splitHeader]
  simp only
  generalize found Header.recognise t = lines at hlines
  induction lines with
  | nil => exact .nil
  | cons line lines ih =>
      rw [List.flatMap_cons, List.append_assoc]
      exact (hlines line (by simp)).append_line
        (ih fun l hl => hlines l (List.mem_cons_of_mem line hl))

end ContractVerifier.Solidity
