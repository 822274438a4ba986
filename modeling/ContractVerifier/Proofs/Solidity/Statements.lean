import ContractVerifier.Proofs.Text.Ends
import ContractVerifier.Solidity.Import

set_option autoImplicit false

/-! # How an import statement is written

`Import.recognise` scans. Here stands what it looks for, without the scanning: `Written raw i`
says that `raw` spells out the import `i`, part by part. `recognise_eq_some_iff` says that the
scan finds an import exactly where one is written.
-/

namespace ContractVerifier.Solidity.Import

/-- A clause, which is what stands between `import` with a white space character and the next
statement, and the path it names: something without quotes and semicolons, quotes, the path, a
quote, and something that ends with its first semicolon. Quotes in a row enclose nothing, so the
last of them opens the path. -/
inductive Clause : Text → Text → Prop where
  | mk {before quotes path behind : Text} {quote : Char}
      (before_plain : ∀ c ∈ before, c ≠ ';' ∧ isQuote c = false)
      (quotes_ne_nil : quotes ≠ []) (quotes_quote : ∀ c ∈ quotes, isQuote c = true)
      (path_ne_nil : path ≠ []) (path_plain : ∀ c ∈ path, isQuote c = false)
      (quote_quote : isQuote quote = true) (behind_open : ∀ c ∈ behind, c ≠ ';') :
      Clause (before ++ (quotes ++ (path ++ quote :: (behind ++ [';'])))) path

/-- `raw` spells the import out, behind an indentation. -/
inductive Written : Text → Import → Prop where
  | mk {indent clause path : Text} {c : Char} (indent_indents : ∀ x ∈ indent, isIndent x = true)
      (blank : Text.isBlank c = true) (clause_clause : Clause clause path) :
      Written (indent ++ ("import".toList ++ c :: clause)) ⟨"import".toList ++ c :: clause, path⟩

/-! ## The opening quote -/

theorem isQuote_semicolon : isQuote ';' = false := by decide

/-- The scan passes what holds neither quotes nor semicolons. -/
theorem openingQuote?_append {before : Text} (h : ∀ c ∈ before, c ≠ ';' ∧ isQuote c = false)
    (passed t : Text) :
    openingQuote? passed (before ++ t) = openingQuote? (before.reverse ++ passed) t := by
  induction before generalizing passed with
  | nil => rfl
  | cons c before ih =>
      have hc := h c (by simp)
      rw [List.cons_append, openingQuote?.eq_def]
      simp only [hc.1, hc.2, if_false, Bool.false_eq_true,
        ih (fun x hx => h x (List.mem_cons_of_mem c hx)), List.reverse_cons, List.append_assoc,
        List.cons_append, List.nil_append]

/-- The scan passes quotes in a row and stops behind the last of them. -/
theorem openingQuote?_quotes {quotes : Text} (hne : quotes ≠ [])
    (h : ∀ c ∈ quotes, isQuote c = true) {d : Char} (hd : isQuote d = false) (passed t : Text) :
    openingQuote? passed (quotes ++ d :: t) = some (passed.reverse ++ quotes, d :: t) := by
  induction quotes generalizing passed with
  | nil => exact absurd rfl hne
  | cons c quotes ih =>
      have hc : isQuote c = true := h c (by simp)
      have hsemi : c ≠ ';' := by
        rintro rfl
        simp [isQuote_semicolon] at hc
      cases quotes with
      | nil => simp [openingQuote?, hsemi, hc, hd]
      | cons c' quotes =>
          have hc' : isQuote c' = true := h c' (by simp)
          have hrest := ih (by simp) (fun x hx => h x (List.mem_cons_of_mem c hx)) (c :: passed)
          rw [List.cons_append, List.cons_append, openingQuote?, if_neg hsemi, if_pos hc]
          simp only [hc', if_true]
          rw [← List.cons_append, hrest]
          simp

/-- What the scan passed when it stopped: what holds neither quotes nor semicolons, and quotes. -/
theorem parts_of_openingQuote? {passed t head rest : Text}
    (h : openingQuote? passed t = some (head, rest)) :
    ∃ before quotes d r, t = before ++ (quotes ++ d :: r) ∧ rest = d :: r ∧
      (∀ c ∈ before, c ≠ ';' ∧ isQuote c = false) ∧ quotes ≠ [] ∧
      (∀ c ∈ quotes, isQuote c = true) ∧ isQuote d = false ∧
      head = passed.reverse ++ (before ++ quotes) := by
  fun_induction openingQuote? passed t with
  | case1 => cases h
  | case2 => cases h
  | case3 => cases h
  | case4 passed c hsemi hc d t hd ih =>
      obtain ⟨before, quotes, d', r, ht, hrest, hbefore, hne, hquotes, hd', hhead⟩ := ih h
      -- the next character is a quote, so the quotes in a row go on
      cases before with
      | cons x before =>
          obtain ⟨rfl, -⟩ := List.cons.inj ht
          exact absurd hd (by simp [(hbefore d (by simp)).2])
      | nil =>
          refine ⟨[], c :: quotes, d', r, by simp [ht], hrest, by simp, by simp, ?_, hd', ?_⟩
          · rintro x (_ | ⟨_, hx⟩)
            · exact hc
            · exact hquotes x hx
          · simp [hhead]
  | case5 passed c hsemi hc d t hd =>
      cases h
      exact ⟨[], [c], d, t, rfl, rfl, by simp, by simp, by simpa using hc, by simpa using hd,
        by simp⟩
  | case6 passed c t hsemi hc ih =>
      obtain ⟨before, quotes, d', r, ht, hrest, hbefore, hne, hquotes, hd', hhead⟩ := ih h
      refine ⟨c :: before, quotes, d', r, by simp [ht], hrest, ?_, hne, hquotes, hd', ?_⟩
      · rintro x (_ | ⟨_, hx⟩)
        · exact ⟨hsemi, by simpa using hc⟩
        · exact hbefore x hx
      · simp [hhead]

/-! ## The clause and the statement -/

theorem clause?_of_clause {clause path : Text} (h : Clause clause path) (rest : Text) :
    clause? (clause ++ rest) = some (clause, path) := by
  obtain @⟨before, quotes, path, behind, quote, hbefore, hne, hquotes, hpne, hpath, hquote,
    hbehind⟩ := h
  obtain ⟨d, p, rfl⟩ := List.exists_cons_of_ne_nil hpne
  have hopen : openingQuote? []
      ((before ++ (quotes ++ (d :: p ++ quote :: (behind ++ [';'])))) ++ rest) =
      some (before ++ quotes, d :: p ++ quote :: (behind ++ ';' :: rest)) := by
    have h := openingQuote?_quotes hne hquotes (hpath d (by simp)) (before.reverse ++ [])
      (p ++ quote :: (behind ++ ';' :: rest))
    rw [← openingQuote?_append hbefore] at h
    simpa using h
  have htake : (d :: p ++ quote :: (behind ++ ';' :: rest)).takeWhile (!isQuote ·) = d :: p := by
    rw [List.takeWhile_append_of_pos (by simpa using hpath)]
    simp [hquote]
  have htake' : (behind ++ ';' :: rest).takeWhile (· ≠ ';') = behind := by
    rw [List.takeWhile_append_of_pos (by simpa using hbehind)]
    simp
  rw [clause?, hopen]
  simp only [htake, htake', List.drop_left]
  simp

theorem clause_of_clause? {t clause path : Text} (h : clause? t = some (clause, path)) :
    Clause clause path := by
  unfold clause? at h
  split at h
  · cases h
  · rename_i head t' ho
    obtain ⟨before, quotes, d, r, -, rfl, hbefore, hne, hquotes, hd, hhead⟩ :=
      parts_of_openingQuote? ho
    obtain ⟨path', t', ht', htake, hpath, hquote⟩ := Text.exists_takeWhile_eq (!isQuote ·) (d :: r)
    simp only [htake] at h
    rw [ht', List.drop_left] at h
    have hpne : path' ≠ [] := by
      rintro rfl
      simpa [hd] using hquote d r ht'.symm
    split at h
    · cases h
    · rename_i quote t''
      obtain ⟨behind, t₃, rfl, htake', hbehind, hend⟩ := Text.exists_takeWhile_eq (· ≠ ';') t''
      simp only [htake', List.drop_left] at h
      split at h
      · cases h
      · rename_i semicolon rest
        obtain rfl : semicolon = ';' := by simpa using hend semicolon rest rfl
        obtain ⟨rfl, rfl⟩ := Prod.mk.inj (Option.some.inj h)
        have hclause : Clause (before ++ (quotes ++ (path' ++ quote :: (behind ++ [';'])))) path' :=
          .mk hbefore hne hquotes hpne (by simpa using hpath)
            (by simpa using hquote quote _ rfl) (by simpa using hbehind)
        rw [hhead]
        simpa using hclause

/-- **An import is recognised exactly where one is written.** -/
theorem recognise_eq_some_iff {t raw : Text} {i : Import} :
    recognise t = some (raw, i) ↔ ∃ rest, t = raw ++ rest ∧ Written raw i := by
  constructor
  · intro h
    obtain ⟨rest, hrest⟩ := recognise_sound t raw i h
    refine ⟨rest, hrest.symm, ?_⟩
    obtain ⟨indent, t', rfl, htake, hindent, -⟩ := Text.exists_takeWhile_eq isIndent t
    unfold recognise at h
    simp only [htake, List.drop_left] at h
    split at h
    · rename_i c r hafter
      split at h
      · rename_i hblank
        obtain ⟨⟨clause, path⟩, hclause, heq⟩ := Option.map_eq_some_iff.mp h
        obtain ⟨rfl, rfl⟩ := Prod.mk.inj heq
        exact .mk hindent hblank (clause_of_clause? hclause)
      · cases h
    · cases h
  · rintro ⟨rest, rfl, hwritten⟩
    obtain @⟨indent, clause, path, c, hindent, hblank, hclause⟩ := hwritten
    have htake : (indent ++ ("import".toList ++ c :: clause) ++ rest).takeWhile isIndent =
        indent := by
      rw [List.append_assoc, List.takeWhile_append_of_pos hindent]
      have : isIndent 'i' = false := by decide
      simp [this]
    have hafter : Text.after? "import".toList
        ("import".toList ++ c :: clause ++ rest) = some (c :: clause ++ rest) := by
      rw [Text.after?_eq_some_iff]
      simp
    unfold recognise
    simp only [htake]
    rw [List.append_assoc, List.drop_left, hafter]
    simp only [List.cons_append, hblank, if_true, clause?_of_clause hclause, Option.map_some]

end ContractVerifier.Solidity.Import
