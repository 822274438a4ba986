import ContractVerifier.Proofs.Solidity.Layout
import ContractVerifier.Solidity.Header

set_option autoImplicit false

/-! # How a header line is written

`Header.recognise` scans. Here stands what it looks for, without the scanning: `Written raw rest`
says that `raw` spells out a header line in front of `rest`, part by part.
`recognise_eq_some_iff` says that the scan finds a header line exactly where one is written.

How far a header line goes depends on what follows it: a licence goes on to the end of its line,
and behind a pragma indentation and a line feed are taken along.
-/

namespace ContractVerifier.Solidity.Header

/-- A licence without what stands around it. -/
inductive Licence : Text → Prop
  | mk {gap tail : Text} (gap_blank : ∀ c ∈ gap, Text.isBlank c = true) (single : '\n' ∉ tail) :
      Licence ("//".toList ++ (gap ++ ("SPDX-License-Identifier:".toList ++ tail)))

/-- A pragma without what stands around it. -/
inductive Pragma : Text → Prop
  | mk {gap gap' versions : Text} (gap_ne_nil : gap ≠ [])
      (gap_blank : ∀ c ∈ gap, Text.isBlank c = true) (gap'_ne_nil : gap' ≠ [])
      (gap'_blank : ∀ c ∈ gap', Text.isBlank c = true) (closed : ';' ∉ versions)
      (starts : ∀ c ∈ versions.head?, Text.isBlank c = false) :
      Pragma ("pragma".toList ++ (gap ++ ("solidity".toList ++ (gap' ++ (versions ++ [';'])))))

/-- `raw` spells out a header line if `rest` follows it. -/
inductive Written : Text → Text → Prop
  | licence {indent body ending rest : Text} (indent_indents : ∀ c ∈ indent, isIndent c = true)
      (body_licence : Licence body) (ends : ending = ['\n'] ∨ ending = [] ∧ rest = []) :
      Written (indent ++ (body ++ ending)) rest
  | pragma {indent body spaces ending rest : Text} (indent_indents : ∀ c ∈ indent, isIndent c = true)
      (body_pragma : Pragma body) (spaces_indent : ∀ c ∈ spaces, isIndent c = true)
      (ends : ending = ['\n'] ∨
        ending = [] ∧ ∀ c ∈ rest.head?, c ≠ '\n' ∧ isIndent c = false) :
      Written (indent ++ (body ++ (spaces ++ ending))) rest

/-! ## The two kinds -/

theorem after?_self (p t : Text) : Text.after? p (p ++ t) = some t :=
  Text.after?_eq_some_iff.mpr rfl

/-- A run of characters ends where the next one is not of the kind. -/
theorem takeWhile_run {p : Char → Bool} {run t : Text} (hrun : ∀ c ∈ run, p c = true)
    (ht : ∀ c ∈ t.head?, p c = false) : (run ++ t).takeWhile p = run := by
  rw [List.takeWhile_append_of_pos hrun]
  cases t with
  | nil => simp
  | cons c t => simp [ht c rfl]

/-- Every text begins with a run of characters, which ends as it does. -/
theorem exists_run (p : Char → Bool) (t : Text) :
    ∃ run rest, t = run ++ rest ∧ t.takeWhile p = run ∧ (∀ c ∈ run, p c = true) ∧
      ∀ c ∈ rest.head?, p c = false := by
  obtain ⟨run, rest, ht, htake, hrun, hrest⟩ := Text.exists_takeWhile_eq p t
  refine ⟨run, rest, ht, htake, hrun, fun c hc => ?_⟩
  cases rest with
  | nil => cases hc
  | cons d rest => exact hrest c rest (by rw [Option.some.inj hc])

theorem blanksAhead_eq {gap t : Text} (hgap : ∀ c ∈ gap, Text.isBlank c = true)
    (ht : ∀ c ∈ t.head?, Text.isBlank c = false) : blanksAhead (gap ++ t) = (gap, t) := by
  rw [blanksAhead, takeWhile_run hgap ht, List.drop_left]

/-- What `blanksAhead` passes is white space, and what it leaves begins with none. -/
theorem blanksAhead_spec (t : Text) :
    ∃ gap rest, t = gap ++ rest ∧ blanksAhead t = (gap, rest) ∧
      (∀ c ∈ gap, Text.isBlank c = true) ∧ ∀ c ∈ rest.head?, Text.isBlank c = false := by
  obtain ⟨gap, rest, rfl, htake, hgap, hrest⟩ := exists_run Text.isBlank t
  exact ⟨gap, rest, rfl, by rw [blanksAhead, htake, List.drop_left], hgap, hrest⟩

/-- A licence that is read is written where the text begins, and goes on to the end of its line. -/
theorem licence_of_licence? {t body : Text} (h : licence? t = some body) :
    Licence body ∧ ∃ rest, t = body ++ rest ∧ ∀ c ∈ rest.head?, c = '\n' := by
  unfold licence? at h
  split at h
  · cases h
  · rename_i t₁ hafter
    obtain ⟨gap, t₂, rfl, hgap, hblank, -⟩ := blanksAhead_spec t₁
    simp only [hgap] at h
    split at h
    · cases h
    · rename_i t₃ htag
      obtain ⟨tail, rest, rfl, htake, htail, hrest⟩ := exists_run (· ≠ '\n') t₃
      obtain rfl := Option.some.inj h
      rw [htake, Text.after?_eq_some_iff.mp hafter, Text.after?_eq_some_iff.mp htag]
      have hsingle : '\n' ∉ tail := fun hmem => absurd (htail _ hmem) (by simp)
      refine ⟨?_, rest, by simp only [List.append_assoc], by simpa using hrest⟩
      have hlicence := Licence.mk hblank hsingle
      simpa only [List.append_assoc] using hlicence

/-- A licence is read at the end of a line. -/
theorem licence?_of_licence {body rest : Text} (h : Licence body)
    (hrest : ∀ c ∈ rest.head?, c = '\n') : licence? (body ++ rest) = some body := by
  obtain @⟨gap, tail, hblank, hsingle⟩ := h
  have htag : ∀ c ∈ ("SPDX-License-Identifier:".toList ++ (tail ++ rest)).head?,
      Text.isBlank c = false := by
    have hletter : Text.isBlank 'S' = false := by decide
    simpa using hletter
  have htail : ∀ c ∈ tail, decide (c ≠ '\n') = true := by
    intro c hc
    simpa using fun h : c = '\n' => hsingle (h ▸ hc)
  have hend : ∀ c ∈ rest.head?, decide (c ≠ '\n') = false := by
    simpa using hrest
  simp only [List.append_assoc]
  rw [licence?, after?_self]
  simp only [blanksAhead_eq hblank htag, after?_self, takeWhile_run htail hend,
    List.append_assoc]

/-- A pragma that is read is written where the text begins. -/
theorem pragma_of_pragma? {t body : Text} (h : pragma? t = some body) :
    Pragma body ∧ ∃ rest, t = body ++ rest := by
  unfold pragma? at h
  split at h
  · cases h
  · rename_i t₁ hafter
    obtain ⟨gap, t₂, rfl, hgap, hblank, -⟩ := blanksAhead_spec t₁
    simp only [hgap] at h
    split at h
    · cases h
    · rename_i t₃ hword
      obtain ⟨gap', t₄, rfl, hgap', hblank', hstarts⟩ := blanksAhead_spec t₃
      obtain ⟨versions, t₅, rfl, htake, hversions, hsemi⟩ := exists_run (· ≠ ';') t₄
      simp only [hgap', htake, List.drop_left] at h
      cases t₅ with
      | nil => cases h
      | cons d rest =>
          obtain rfl : d = ';' := by simpa using hsemi d rfl
          simp only at h
          split at h
          · cases h
          · rename_i hne
            rw [not_or] at hne
            obtain rfl := Option.some.inj h
            rw [Text.after?_eq_some_iff.mp hafter, Text.after?_eq_some_iff.mp hword]
            have hclosed : ';' ∉ versions := fun hmem => absurd (hversions _ hmem) (by simp)
            have hstarts' : ∀ c ∈ versions.head?, Text.isBlank c = false := by
              intro c hc
              refine hstarts c ?_
              rw [List.head?_append, hc]
              rfl
            have hpragma := Pragma.mk hne.1 hblank hne.2 hblank' hclosed hstarts'
            exact ⟨by simpa only [List.append_assoc] using hpragma, rest, by simp⟩

/-- A pragma is read in front of any rest. -/
theorem pragma?_of_pragma {body : Text} (h : Pragma body) (rest : Text) :
    pragma? (body ++ rest) = some body := by
  obtain @⟨gap, gap', versions, hne, hblank, hne', hblank', hclosed, hstarts⟩ := h
  have hword : ∀ c ∈ ("solidity".toList ++ (gap' ++ (versions ++ ';' :: rest))).head?,
      Text.isBlank c = false := by
    have hletter : Text.isBlank 's' = false := by decide
    simpa using hletter
  have hversions : ∀ c ∈ versions, decide (c ≠ ';') = true := by
    intro c hc
    simpa using fun h : c = ';' => hclosed (h ▸ hc)
  have hsemi : Text.isBlank ';' = false := by decide
  have hstarts' : ∀ c ∈ (versions ++ ';' :: rest).head?, Text.isBlank c = false := by
    cases versions with
    | nil => simpa using hsemi
    | cons d versions => simpa using hstarts
  have hend : ∀ c ∈ (';' :: rest).head?, decide (c ≠ ';') = false := by simp
  simp only [List.append_assoc, List.singleton_append]
  rw [pragma?, after?_self]
  simp only [blanksAhead_eq hblank hword, after?_self, blanksAhead_eq hblank' hstarts',
    takeWhile_run hversions hend, List.drop_left, hne, hne', or_self, if_false,
    List.append_assoc]

/-! ## Header lines -/

/-- A licence or a pragma begins with a slash or a letter. -/
theorem head?_of_body {body : Text} (h : Licence body ∨ Pragma body) (rest : Text) :
    ∃ c, (body ++ rest).head? = some c ∧ isIndent c = false ∧ Text.isBlank c = false ∧
      c ≠ '\n' := by
  rcases h with ⟨-, -⟩ | ⟨-, -, -, -, -, -⟩
  · exact ⟨'/', by simp, by decide, by decide, by decide⟩
  · exact ⟨'p', by simp, by decide, by decide, by decide⟩

theorem licence?_of_pragma {body : Text} (h : Pragma body) (rest : Text) :
    licence? (body ++ rest) = none := by
  obtain ⟨-, -, -, -, -, -⟩ := h
  rw [licence?]
  simp [Text.after?]

/-- The licence or the pragma that a text begins with. -/
def body? (t : Text) : Option Text :=
  match licence? t with
  | some body => some body
  | none => pragma? t

theorem body?_spec {t body : Text} (h : body? t = some body) :
    ∃ rest, t = body ++ rest ∧
      (Licence body ∧ (∀ c ∈ rest.head?, c = '\n') ∨ Pragma body) := by
  unfold body? at h
  split at h
  · rename_i line hline
    obtain rfl := Option.some.inj h
    obtain ⟨hlicence, rest, ht, hrest⟩ := licence_of_licence? hline
    exact ⟨rest, ht, .inl ⟨hlicence, hrest⟩⟩
  · obtain ⟨hpragma, rest, ht⟩ := pragma_of_pragma? h
    exact ⟨rest, ht, .inr hpragma⟩

theorem body?_eq {body rest : Text}
    (h : Licence body ∧ (∀ c ∈ rest.head?, c = '\n') ∨ Pragma body) :
    body? (body ++ rest) = some body := by
  rcases h with ⟨hlicence, hrest⟩ | hpragma
  · rw [body?, licence?_of_licence hlicence hrest]
  · rw [body?, licence?_of_pragma hpragma, pragma?_of_pragma hpragma rest]

/-- What ends a header line in front of `t`: a line feed, if it is there. -/
def endingOf : Text → Text
  | '\n' :: _ => ['\n']
  | _ => []

theorem endingOf_cases (t : Text) :
    (∃ r, t = '\n' :: r ∧ endingOf t = ['\n']) ∨ (∀ c ∈ t.head?, c ≠ '\n') ∧ endingOf t = [] := by
  rw [endingOf.eq_def]
  split
  · exact .inl ⟨_, rfl, rfl⟩
  · rename_i hne
    refine .inr ⟨?_, rfl⟩
    rintro c hc rfl
    obtain ⟨r, rfl⟩ := List.head?_eq_some_iff.mp hc
    exact hne r rfl

theorem recognise_eq_map (t : Text) :
    recognise t =
      (body? (t.drop (t.takeWhile isIndent).length)).map fun body =>
        let rest := (t.drop (t.takeWhile isIndent).length).drop body.length
        let spaces := rest.takeWhile isIndent
        let raw := t.takeWhile isIndent ++ body ++ spaces ++ endingOf (rest.drop spaces.length)
        (raw, Text.strip raw) :=
  rfl

/-- The search passes indentation, reads a licence or a pragma, and takes indentation and a line
feed along. -/
theorem recognise_eq {indent body spaces rest : Text} (hindent : ∀ c ∈ indent, isIndent c = true)
    (hbody : body? (body ++ (spaces ++ rest)) = some body)
    (hspaces : ∀ c ∈ spaces, isIndent c = true) (hrest : ∀ c ∈ rest.head?, isIndent c = false) :
    let raw := indent ++ (body ++ (spaces ++ endingOf rest))
    recognise (indent ++ (body ++ (spaces ++ rest))) = some (raw, Text.strip raw) := by
  obtain ⟨rest', -, hkind⟩ := body?_spec hbody
  obtain ⟨c, hc, hci, -⟩ := head?_of_body (hkind.imp_left And.left) (spaces ++ rest)
  have hhead : ∀ d ∈ (body ++ (spaces ++ rest)).head?, isIndent d = false := by
    rw [hc]
    simpa using hci
  rw [recognise_eq_map, takeWhile_run hindent hhead, List.drop_left, hbody]
  simp only [Option.map_some, List.drop_left, takeWhile_run hspaces hrest, List.append_assoc]

/-- A header line that is recognised is written there. -/
theorem written_of_recognise {t raw line : Text} (h : recognise t = some (raw, line)) :
    line = Text.strip raw ∧ ∃ rest, t = raw ++ rest ∧ Written raw rest := by
  obtain ⟨indent, t, rfl, htake, hindent, -⟩ := exists_run isIndent t
  obtain ⟨body, hbody⟩ : ∃ body, body? t = some body := by
    rw [recognise_eq_map, htake, List.drop_left] at h
    obtain ⟨body, hbody, -⟩ := Option.map_eq_some_iff.mp h
    exact ⟨body, hbody⟩
  obtain ⟨rest, rfl, hkind⟩ := body?_spec hbody
  obtain ⟨spaces, rest, rfl, -, hspaces, hrest⟩ := exists_run isIndent rest
  obtain ⟨rfl, rfl⟩ := Prod.mk.inj
    (Option.some.inj (h.symm.trans (recognise_eq hindent hbody hspaces hrest)))
  refine ⟨rfl, ?_⟩
  rcases hkind with ⟨hlicence, hstops⟩ | hpragma
  · -- a licence goes on to the line feed, so no indentation follows it
    obtain rfl : spaces = [] := by
      cases spaces with
      | nil => rfl
      | cons c spaces =>
          obtain rfl := hstops c rfl
          exact absurd rfl (ne_newline_of_isIndent (hspaces '\n' List.mem_cons_self))
    rcases endingOf_cases rest with ⟨r, rfl, hending⟩ | ⟨hne, hending⟩
    · exact ⟨r, by simp [hending], hending ▸ .licence hindent hlicence (.inl rfl)⟩
    · obtain rfl : rest = [] := by
        cases rest with
        | nil => rfl
        | cons c rest => exact absurd (hstops c rfl) (hne c rfl)
      exact ⟨[], by simp [hending], hending ▸ .licence hindent hlicence (.inr ⟨rfl, rfl⟩)⟩
  · rcases endingOf_cases rest with ⟨r, rfl, hending⟩ | ⟨hne, hending⟩
    · exact ⟨r, by simp [hending], hending ▸ .pragma hindent hpragma hspaces (.inl rfl)⟩
    · refine ⟨rest, by simp [hending], hending ▸ .pragma hindent hpragma hspaces (.inr ⟨rfl, ?_⟩)⟩
      exact fun c hc => ⟨hne c hc, hrest c hc⟩

/-- A header line that is written is recognised. -/
theorem Written.recognise_append {raw rest : Text} (h : Written raw rest) :
    recognise (raw ++ rest) = some (raw, Text.strip raw) := by
  have hnewline : isIndent '\n' = false := by decide
  cases h with
  | @licence indent body ending _ hindent hbody hends =>
      have hstops : ∀ c ∈ (ending ++ rest).head?, c = '\n' := by
        rcases hends with rfl | ⟨rfl, rfl⟩ <;> simp
      have hending : endingOf (ending ++ rest) = ending := by
        rcases hends with rfl | ⟨rfl, rfl⟩ <;> rfl
      have hrest : ∀ c ∈ (ending ++ rest).head?, isIndent c = false := by
        intro c hc
        rw [hstops c hc, hnewline]
      have hbody' : body? (body ++ ([] ++ (ending ++ rest))) = some body :=
        body?_eq (.inl ⟨hbody, hstops⟩)
      have heq := recognise_eq hindent hbody' (by simp) hrest
      simpa [hending] using heq
  | @pragma indent body spaces ending _ hindent hbody hspaces hends =>
      have hending : endingOf (ending ++ rest) = ending := by
        rcases hends with rfl | ⟨rfl, hrest⟩
        · rfl
        · rcases endingOf_cases rest with ⟨r, rfl, -⟩ | ⟨-, hnil⟩
          · exact absurd rfl (hrest '\n' rfl).1
          · exact hnil
      have hrest : ∀ c ∈ (ending ++ rest).head?, isIndent c = false := by
        rcases hends with rfl | ⟨rfl, hrest⟩
        · simpa using hnewline
        · exact fun c hc => (hrest c hc).2
      have heq := recognise_eq hindent (body?_eq (.inr hbody)) hspaces hrest
      simpa [hending] using heq

/-- **A header line is recognised exactly where one is written.** Its meaning is its text without
white space around it. -/
theorem recognise_eq_some_iff {t raw line : Text} :
    recognise t = some (raw, line) ↔
      line = Text.strip raw ∧ ∃ rest, t = raw ++ rest ∧ Written raw rest := by
  constructor
  · exact written_of_recognise
  · rintro ⟨rfl, rest, rfl, hwritten⟩
    exact hwritten.recognise_append

theorem Written.exists_body {raw rest : Text} (h : Written raw rest) :
    ∃ indent body ending, raw = indent ++ (body ++ ending) ∧ (∀ c ∈ indent, isIndent c = true) ∧
      (Licence body ∨ Pragma body) := by
  cases h with
  | licence hindent hbody => exact ⟨_, _, _, rfl, hindent, .inl hbody⟩
  | pragma hindent hbody => exact ⟨_, _, _, rfl, hindent, .inr hbody⟩

/-! ## Header lines on lines of their own -/

/-- A header line without white space around it. -/
structure IsLine (line : Text) : Prop where
  kind : Licence line ∨ Pragma line
  trimmed : ∃ front c, line = front ++ [c] ∧ Text.isBlank c = false

theorem Pragma.getLast?_eq {body : Text} (h : Pragma body) : body.getLast? = some ';' := by
  obtain @⟨gap, gap', versions, -, -, -, -, -, -⟩ := h
  exact List.getLast?_eq_some_iff.mpr
    ⟨"pragma".toList ++ (gap ++ ("solidity".toList ++ (gap' ++ versions))), by simp⟩

theorem Pragma.trimmed {body : Text} (h : Pragma body) :
    ∃ front c, body = front ++ [c] ∧ Text.isBlank c = false := by
  obtain ⟨front, hfront⟩ := List.getLast?_eq_some_iff.mp h.getLast?_eq
  exact ⟨front, ';', hfront, by decide⟩

theorem strip_of_trimmed {line g : Text} {c d : Char} {front : Text}
    (hhead : line.head? = some d) (hd : Text.isBlank d = false) (hline : line = front ++ [c])
    (hc : Text.isBlank c = false) (hg : ∀ x ∈ g, Text.isBlank x = true) :
    Text.strip (line ++ g) = line := by
  obtain ⟨t, ht⟩ := List.head?_eq_some_iff.mp hhead
  have hdrop : (line ++ g).dropWhile Text.isBlank = line ++ g := by
    rw [ht, List.cons_append, List.dropWhile_cons_of_neg (by simp [hd])]
  have hend : Text.stripEnd g = [] := by
    rw [Text.stripEnd, List.reverse_eq_nil_iff, List.dropWhile_eq_nil_iff]
    simpa using hg
  rw [Text.strip, hdrop, hline, List.append_assoc, List.singleton_append,
    Text.stripEnd_append_cons hc, hend]

theorem strip_indent {indent : Text} (h : ∀ c ∈ indent, isIndent c = true) (t : Text) :
    Text.strip (indent ++ t) = Text.strip t := by
  rw [Text.strip, Text.strip,
    List.dropWhile_append_of_pos fun c hc => isBlank_of_isIndent (h c hc)]

/-- A text that ends with white space, or else with a character that is none. -/
theorem exists_trimmed (t : Text) :
    ∃ u g, t = u ++ g ∧ (∀ c ∈ g, Text.isBlank c = true) ∧
      (u = [] ∨ ∃ front c, u = front ++ [c] ∧ Text.isBlank c = false) := by
  obtain ⟨g, hg, hblank⟩ := Text.exists_stripEnd_append t
  refine ⟨Text.stripEnd t, g, hg, hblank, ?_⟩
  by_cases hnil : Text.stripEnd t = []
  · exact .inl hnil
  · have hne : t.reverse.dropWhile Text.isBlank ≠ [] := by
      simpa [Text.stripEnd] using hnil
    obtain ⟨c, r, hr⟩ := List.exists_cons_of_ne_nil hne
    refine .inr ⟨r.reverse, c, ?_, ?_⟩
    · rw [Text.stripEnd, hr, List.reverse_cons]
    · have hhead := List.head_dropWhile_not Text.isBlank hne
      simpa [hr] using hhead

/-- A header line is still recognised with another text behind it, if that begins with the same
character or the header line ends with its line. -/
theorem recognise_congr {raw line t t' : Text}
    (h : recognise (raw ++ t) = some (raw, line))
    (hnext : raw.getLast? = some '\n' ∨ t'.head? = t.head?) :
    recognise (raw ++ t') = some (raw, line) := by
  obtain ⟨hline, rest, htext, hwritten⟩ := recognise_eq_some_iff.mp h
  obtain rfl := List.append_cancel_left htext
  refine recognise_eq_some_iff.mpr ⟨hline, t', rfl, ?_⟩
  cases hwritten with
  | @licence indent body ending _ hindent hbody hends =>
      refine .licence hindent hbody (hends.imp_right ?_)
      rintro ⟨rfl, rfl⟩
      refine ⟨rfl, ?_⟩
      rcases hnext with hnewline | hhead
      · obtain @⟨gap, tail, hgap, hsingle⟩ := hbody
        have hraw : indent ++ ("//".toList ++ (gap ++ ("SPDX-License-Identifier:".toList ++ tail)) ++
            []) = (indent ++ ("//".toList ++ gap)) ++ ("SPDX-License-Identifier:".toList ++ tail) := by
          simp only [List.append_assoc, List.append_nil]
        rw [hraw, List.getLast?_append_of_ne_nil _ (by simp)] at hnewline
        have hmem := List.mem_of_getLast? hnewline
        exact absurd hmem (by simpa using hsingle)
      · exact List.head?_eq_none_iff.mp hhead
  | @pragma indent body spaces ending _ hindent hbody hspaces hends =>
      refine .pragma hindent hbody hspaces (hends.imp_right ?_)
      rintro ⟨rfl, hrest⟩
      refine ⟨rfl, ?_⟩
      rcases hnext with hnewline | hhead
      · obtain ⟨front, c, rfl, hc⟩ := hbody.trimmed
        have hraw : indent ++ (front ++ [c] ++ (spaces ++ [])) = (indent ++ front) ++ c :: spaces := by
          simp
        rw [hraw, List.getLast?_append_of_ne_nil _ (by simp)] at hnewline
        rcases List.mem_cons.mp (List.mem_of_getLast? hnewline) with rfl | hmem
        · exact absurd hc (by decide)
        · exact absurd rfl (ne_newline_of_isIndent (hspaces _ hmem))
      · rwa [hhead]

/-- What a header line means is a header line itself. -/
theorem Written.isLine {raw rest : Text} (h : Written raw rest) : IsLine (Text.strip raw) := by
  -- it is enough to say which part of `raw` is the line
  suffices hline : ∃ indent line g, raw = indent ++ (line ++ g) ∧
      (∀ c ∈ indent, isIndent c = true) ∧ (∀ c ∈ g, Text.isBlank c = true) ∧ IsLine line by
    obtain ⟨indent, line, g, rfl, hindent, hg, hisLine⟩ := hline
    obtain ⟨front, c, hfront, hc⟩ := hisLine.trimmed
    obtain ⟨d, hd, -, hblank, -⟩ := head?_of_body hisLine.kind []
    rw [List.append_nil] at hd
    rwa [strip_indent hindent, strip_of_trimmed hd hblank hfront hc hg]
  have hnewline : Text.isBlank '\n' = true := by decide
  cases h with
  | @licence indent body ending _ hindent hbody hends =>
      obtain @⟨gap, tail, hgap, hsingle⟩ := hbody
      obtain ⟨u, g, rfl, hg, hu⟩ := exists_trimmed tail
      refine ⟨indent, "//".toList ++ (gap ++ ("SPDX-License-Identifier:".toList ++ u)), g ++ ending,
        by simp only [List.append_assoc], hindent, ?_, ?_, ?_⟩
      · intro c hc
        rcases List.mem_append.mp hc with hc | hc
        · exact hg c hc
        · rcases hends with rfl | ⟨rfl, -⟩
          · rwa [List.mem_singleton.mp hc]
          · cases hc
      · exact .inl (.mk hgap fun hmem => hsingle (List.mem_append_left g hmem))
      · rcases hu with rfl | ⟨front, c, rfl, hc⟩
        · exact ⟨"//".toList ++ (gap ++ "SPDX-License-Identifier".toList), ':', by simp, by decide⟩
        · exact ⟨"//".toList ++ (gap ++ ("SPDX-License-Identifier:".toList ++ front)), c,
            by simp only [List.append_assoc], hc⟩
  | @pragma indent body spaces ending _ hindent hbody hspaces hends =>
      refine ⟨indent, body, spaces ++ ending, rfl, hindent, ?_, .inr hbody, hbody.trimmed⟩
      intro c hc
      rcases List.mem_append.mp hc with hc | hc
      · exact isBlank_of_isIndent (hspaces c hc)
      · rcases hends with rfl | ⟨rfl, -⟩
        · rwa [List.mem_singleton.mp hc]
        · cases hc

/-- A header line is recognised on a line of its own. -/
theorem IsLine.recognise {line : Text} (h : IsLine line) (t : Text) :
    recognise (line ++ '\n' :: t) = some (line ++ ['\n'], line) := by
  obtain ⟨front, c, hline, hc⟩ := h.trimmed
  obtain ⟨d, hd, -, hblank, -⟩ := head?_of_body h.kind []
  rw [List.append_nil] at hd
  have hnewline : ∀ x ∈ ['\n'], Text.isBlank x = true := by
    have hblank : Text.isBlank '\n' = true := by decide
    simpa using hblank
  have hwritten : Written (line ++ ['\n']) t := by
    have hnone : ∀ x ∈ ([] : Text), isIndent x = true := by simp
    rcases h.kind with hlicence | hpragma
    · exact .licence hnone hlicence (.inl rfl)
    · exact .pragma hnone hpragma hnone (.inl rfl)
  exact recognise_eq_some_iff.mpr
    ⟨(strip_of_trimmed hd hblank hline hc hnewline).symm, t, by simp, hwritten⟩

end ContractVerifier.Solidity.Header
