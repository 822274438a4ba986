import ContractVerifier.Proofs.Encoding.Utf8
import ContractVerifier.Proofs.Text.Splitting
import ContractVerifier.Url.Escape

set_option autoImplicit false

/-! # What escapes stand for

Escaping a text does not change what it stands for (`bytes_escape`). A text without escapes stands
for itself (`unescape_of_not_hasEscape`), and one with an escape for a shorter text
(`length_unescape`).

In a form, names and values are read back (`Form.decodePairs_encodePairs`).
-/

namespace ContractVerifier.Url

variable {kept : Char → Bool} {t : Text}

/-! ## Escapes -/

/-- The text begins with an escape: a percent sign and two digits. -/
def Opens (t : Text) : Prop :=
  ∃ a b rest high low, t = '%' :: a :: b :: rest ∧
    Text.hexValue? a = some high ∧ Text.hexValue? b = some low

/-- Somewhere in the text there is an escape. -/
def HasEscape (t : Text) : Prop := ∃ before behind, t = before ++ behind ∧ Opens behind

theorem opens_cons_iff {c : Char} : Opens (c :: t) ↔ c = '%' ∧ Opens ('%' :: t) := by
  constructor
  · rintro ⟨a, b, rest, high, low, h, hdigits⟩
    injection h with hc ht
    exact ⟨hc, a, b, rest, high, low, by rw [ht], hdigits⟩
  · rintro ⟨rfl, h⟩
    exact h

theorem bytes_opens {a b : Char} {high low : Nat} (ha : Text.hexValue? a = some high)
    (hb : Text.hexValue? b = some low) (rest : Text) :
    bytes ('%' :: a :: b :: rest) = UInt8.ofNat (high * 16 + low) :: bytes rest := by
  rw [bytes, ha, hb]

/-- A character that begins no escape stands for itself. -/
theorem bytes_cons {c : Char} (h : ¬ Opens (c :: t)) :
    bytes (c :: t) = Utf8.encode [c] ++ bytes t := by
  by_cases hshape : ∃ a b rest, c = '%' ∧ t = a :: b :: rest
  · obtain ⟨a, b, rest, rfl, rfl⟩ := hshape
    rw [bytes]
    split
    · rename_i high low ha hb
      exact absurd ⟨a, b, rest, high, low, rfl, ha, hb⟩ h
    · rfl
  · rw [bytes]
    exact fun a b rest hc ht => hshape ⟨a, b, rest, hc, ht⟩

theorem bytes_cons_of_ne {c : Char} (h : c ≠ '%') (t : Text) :
    bytes (c :: t) = Utf8.encode [c] ++ bytes t :=
  bytes_cons fun hopens => h (opens_cons_iff.mp hopens).1

/-- Every text is empty, begins with an escape or begins with a character that stands for itself. -/
theorem escape_induction {motive : Text → Prop} (nil : motive [])
    (opens : ∀ a b rest high low, Text.hexValue? a = some high → Text.hexValue? b = some low →
      motive rest → motive ('%' :: a :: b :: rest))
    (cons : ∀ c t, ¬ Opens (c :: t) → motive t → motive (c :: t)) (t : Text) : motive t := by
  induction t using bytes.induct with
  | case1 a b rest high low hb ha ih => exact opens a b rest high low ha hb ih
  | case2 a b rest hnot ih =>
      refine cons '%' (a :: b :: rest) ?_ ih
      rintro ⟨a', b', rest', high, low, h, ha, hb⟩
      cases h
      exact hnot high low ha hb
  | case3 c rest hnot ih =>
      refine cons c rest ?_ ih
      rintro ⟨a, b, rest', high, low, h, -⟩
      injection h with hc ht
      exact hnot a b rest' hc ht
  | case4 => exact nil

/-! ## What escaping writes -/

/-- The digit that stands for `n` in an escape. -/
def digit (n : Nat) : Char := (Nat.digitChar n).toUpper

theorem digit_spec {n : Nat} (h : n < 16) :
    Text.hexValue? (digit n) = some n ∧ isUnreserved (digit n) = true := by
  have hall : ∀ n ∈ List.range 16,
      Text.hexValue? (digit n) = some n ∧ isUnreserved (digit n) = true := by decide
  exact hall n (List.mem_range.mpr h)

theorem escapeByte_eq (b : UInt8) :
    escapeByte b = ['%', digit (b.toNat / 16), digit (b.toNat % 16)] := rfl

theorem bytes_escapeByte (b : UInt8) (t : Text) : bytes (escapeByte b ++ t) = b :: bytes t := by
  have hb : b.toNat < 256 := b.toNat_lt
  have hhigh := (digit_spec (show b.toNat / 16 < 16 by omega)).1
  have hlow := (digit_spec (show b.toNat % 16 < 16 by omega)).1
  have hsum : b.toNat / 16 * 16 + b.toNat % 16 = b.toNat := by omega
  rw [escapeByte_eq, List.cons_append, List.cons_append, List.cons_append, List.nil_append,
    bytes_opens hhigh hlow, hsum, UInt8.ofNat_toNat]

/-- An escaped character stands for itself. -/
theorem bytes_escapeChar (c : Char) (t : Text) :
    bytes (escapeChar c ++ t) = Utf8.encode [c] ++ bytes t := by
  unfold escapeChar
  induction Utf8.encode [c] with
  | nil => rfl
  | cons b bs ih =>
      rw [List.flatMap_cons, List.append_assoc, bytes_escapeByte, ih, List.cons_append]

/-- Escapes are made of percent signs and characters that stand for themselves everywhere. -/
theorem mem_escapeChar {c d : Char} (h : d ∈ escapeChar c) : d = '%' ∨ isUnreserved d = true := by
  obtain ⟨b, -, hd⟩ := List.mem_flatMap.mp h
  have hb : b.toNat < 256 := b.toNat_lt
  simp only [escapeByte_eq, List.mem_cons, List.not_mem_nil, or_false] at hd
  rcases hd with rfl | rfl | rfl
  · exact .inl rfl
  · exact .inr (digit_spec (by omega)).2
  · exact .inr (digit_spec (by omega)).2

theorem exists_escapeChar_eq (c : Char) : ∃ rest, escapeChar c = '%' :: rest := by
  have hne : Utf8.encode [c] ≠ [] := by
    intro h
    have hlength := congrArg List.length h
    have hpos := c.utf8Size_pos
    simp [Utf8.encode] at hlength
    omega
  obtain ⟨b, bs, hbs⟩ := List.exists_cons_of_ne_nil hne
  rw [escapeChar, hbs]
  exact ⟨_, rfl⟩

theorem escape_cons_of_kept {c : Char} (h : kept c = true) (t : Text) :
    escape kept (c :: t) = c :: escape kept t := by
  rw [escape, List.flatMap_cons, if_pos h]
  rfl

theorem escape_cons_of_not_kept {c : Char} (h : ¬ kept c = true) (t : Text) :
    escape kept (c :: t) = escapeChar c ++ escape kept t := by
  rw [escape, List.flatMap_cons, if_neg h]
  rfl

/-- What holds of all ASCII characters. -/
theorem of_ascii {p : Char → Prop} (h : ∀ n ∈ List.range 128, p (Char.ofNat n)) {c : Char}
    (hc : c.toNat < 128) : p c := by
  rw [← Char.ofNat_toNat c]
  exact h c.toNat (List.mem_range.mpr hc)

theorem toNat_lt_of_isUnreserved {c : Char} (h : isUnreserved c = true) : c.toNat < 128 := by
  unfold isUnreserved at h
  rw [Bool.or_eq_true] at h
  rcases h with h | h
  · simp only [Char.isAlphanum, Char.isAlpha, Char.isUpper, Char.isLower, Char.isDigit,
      Bool.or_eq_true, Bool.and_eq_true, decide_eq_true_eq, UInt32.le_iff_toNat_le] at h
    have : 'Z'.val.toNat = 90 := rfl
    have : 'z'.val.toNat = 122 := rfl
    have : '9'.val.toNat = 57 := rfl
    show c.val.toNat < 128
    omega
  · simp only [List.contains_cons, List.contains_nil, Bool.or_false, Bool.or_eq_true,
      beq_iff_eq] at h
    rcases h with rfl | rfl | rfl | rfl <;> decide

theorem isUnreserved_of_hexValue? {c : Char} {n : Nat} (h : Text.hexValue? c = some n) :
    isUnreserved c = true := by
  have hc : c.toNat < 128 := by
    unfold Text.hexValue? at h
    simp only [Char.le_def, UInt32.le_iff_toNat_le] at h
    show c.val.toNat < 128
    split_ifs at h with h₁ h₂ h₃
    · have : '9'.val.toNat = 57 := rfl
      omega
    · have : 'f'.val.toNat = 102 := rfl
      omega
    · have : 'F'.val.toNat = 70 := rfl
      omega
  have hall : ∀ n ∈ List.range 128, (Text.hexValue? (Char.ofNat n)).isSome →
      isUnreserved (Char.ofNat n) = true := by decide +kernel
  exact of_ascii (p := fun c => (Text.hexValue? c).isSome → isUnreserved c = true) hall hc
    (by rw [h]; rfl)

theorem escape_ne_nil (h : t ≠ []) : escape kept t ≠ [] := by
  obtain ⟨c, t, rfl⟩ := List.exists_cons_of_ne_nil h
  by_cases hc : kept c = true
  · rw [escape_cons_of_kept hc]
    exact List.cons_ne_nil _ _
  · obtain ⟨rest, hrest⟩ := exists_escapeChar_eq c
    rw [escape_cons_of_not_kept hc, hrest]
    exact List.cons_ne_nil _ _

/-- A part of an address in which escapes may stand. -/
structure KeepsEscapes (kept : Char → Bool) : Prop where
  percent : kept '%' = true
  unreserved : ∀ c, isUnreserved c = true → kept c = true

theorem KeepsEscapes.digit (h : KeepsEscapes kept) {c : Char} {n : Nat}
    (hc : Text.hexValue? c = some n) : kept c = true :=
  h.unreserved c (isUnreserved_of_hexValue? hc)

theorem keepsEscapes_path : KeepsEscapes keptInPath where
  percent := rfl
  unreserved c hc := by
    have hall : ∀ n ∈ List.range 128, isUnreserved (Char.ofNat n) = true →
        keptInPath (Char.ofNat n) = true := by decide +kernel
    exact of_ascii (p := fun c => isUnreserved c = true → keptInPath c = true) hall
      (toNat_lt_of_isUnreserved hc) hc

theorem keepsEscapes_query : KeepsEscapes keptInQuery where
  percent := rfl
  unreserved c hc := by
    have hpath : keptInPath c = true := keepsEscapes_path.unreserved c hc
    rw [keptInPath, Bool.and_eq_true] at hpath
    exact hpath.1

/-- All characters of an escaped text may stand in the part. -/
theorem kept_of_mem_escape (hkept : KeepsEscapes kept) {c : Char} (h : c ∈ escape kept t) :
    kept c = true := by
  obtain ⟨d, -, hc⟩ := List.mem_flatMap.mp h
  split_ifs at hc with hd
  · rwa [List.mem_singleton.mp hc]
  · rcases mem_escapeChar hc with rfl | hc
    · exact hkept.percent
    · exact hkept.unreserved c hc

/-- A digit in an escaped text is a digit of the text. -/
theorem of_escape_eq_cons {a : Char} {n : Nat} {u : Text} (ha : Text.hexValue? a = some n)
    (h : escape kept t = a :: u) : ∃ t', t = a :: t' ∧ u = escape kept t' := by
  cases t with
  | nil => cases h
  | cons c t =>
      by_cases hc : kept c = true
      · rw [escape_cons_of_kept hc] at h
        injection h with hca hu
        exact ⟨t, by rw [hca], hu.symm⟩
      · obtain ⟨rest, hrest⟩ := exists_escapeChar_eq c
        rw [escape_cons_of_not_kept hc, hrest] at h
        injection h with hpercent
        rw [← hpercent] at ha
        cases ha

theorem opens_of_escape {c : Char} (hc : kept c = true) (h : Opens (escape kept (c :: t))) :
    Opens (c :: t) := by
  obtain ⟨a, b, rest, high, low, heq, ha, hb⟩ := h
  rw [escape_cons_of_kept hc] at heq
  injection heq with hpercent hrest
  obtain ⟨t', rfl, ht'⟩ := of_escape_eq_cons ha hrest
  obtain ⟨t'', rfl, -⟩ := of_escape_eq_cons hb ht'.symm
  exact ⟨a, b, t'', high, low, by rw [hpercent], ha, hb⟩

/-- **Escaping a text does not change what it stands for.** -/
theorem bytes_escape (hkept : KeepsEscapes kept) (t : Text) :
    bytes (escape kept t) = bytes t := by
  induction t using escape_induction with
  | nil => rfl
  | opens a b rest high low ha hb ih =>
      rw [escape_cons_of_kept hkept.percent, escape_cons_of_kept (hkept.digit ha),
        escape_cons_of_kept (hkept.digit hb), bytes_opens ha hb, bytes_opens ha hb, ih]
  | cons c t hnot ih =>
      rw [bytes_cons hnot]
      by_cases hc : kept c = true
      · have hnot' : ¬ Opens (c :: escape kept t) := by
          rw [← escape_cons_of_kept hc]
          exact fun hopens => hnot (opens_of_escape hc hopens)
        rw [escape_cons_of_kept hc, bytes_cons hnot', ih]
      · rw [escape_cons_of_not_kept hc, bytes_escapeChar, ih]

/-! ## Texts without escapes, and with them -/

theorem bytes_of_not_hasEscape (h : ¬ HasEscape t) : bytes t = Utf8.encode t := by
  induction t with
  | nil => rw [bytes]; rfl
  | cons c t ih =>
      have hnot : ¬ Opens (c :: t) := fun hopens => h ⟨[], c :: t, rfl, hopens⟩
      have hrest : ¬ HasEscape t := by
        rintro ⟨before, behind, ht, hopens⟩
        exact h ⟨c :: before, behind, by rw [ht]; rfl, hopens⟩
      rw [bytes_cons hnot, ih hrest, Utf8.encode_cons c t]

theorem not_hasEscape_of_not_mem (h : '%' ∉ t) : ¬ HasEscape t := by
  rintro ⟨before, behind, rfl, a, b, rest, high, low, rfl, -⟩
  exact h (List.mem_append_right before List.mem_cons_self)

/-- A text without escapes stands for itself. -/
theorem unescape_of_not_hasEscape (h : ¬ HasEscape t) : unescape t = t := by
  rw [unescape, bytes_of_not_hasEscape h, Utf8.decodeLossy_encode]

/-- A text stands for a text that is not longer, and for a shorter one if it has an escape. -/
theorem length_unescape (t : Text) :
    (unescape t).length ≤ t.length ∧ (HasEscape t → (unescape t).length < t.length) := by
  unfold unescape
  rw [Utf8.length_decodeLossy]
  induction t using escape_induction with
  | nil =>
      rw [bytes]
      refine ⟨Nat.le_refl 0, ?_⟩
      rintro ⟨before, behind, h, a, b, rest, high, low, hbehind, -⟩
      rw [hbehind] at h
      exact absurd h.symm (List.append_ne_nil_of_right_ne_nil before (List.cons_ne_nil _ _))
  | opens a b rest high low ha hb ih =>
      have htoken := Utf8.length_tokens_cons_le (UInt8.ofNat (high * 16 + low)) (bytes rest)
      rw [bytes_opens ha hb]
      simp only [List.length_cons]
      exact ⟨by omega, fun _ => by omega⟩
  | cons c t hnot ih =>
      rw [bytes_cons hnot, Utf8.length_tokens_encode_append, List.length_cons]
      refine ⟨by omega, fun h => ?_⟩
      have hrest : HasEscape t := by
        obtain ⟨before, behind, hcons, hopens⟩ := h
        cases before with
        | nil => exact absurd (hcons ▸ hopens) hnot
        | cons d before =>
            injection hcons with _ ht
            exact ⟨before, behind, ht, hopens⟩
      have := ih.2 hrest
      omega

/-! ## Forms -/

theorem ne_of_isUnreserved {c d : Char} (hc : isUnreserved c = true) (hd : isUnreserved d = false) :
    c ≠ d := by
  rintro rfl
  rw [hc] at hd
  cases hd

namespace Form

theorem encode_cons (c : Char) (t : Text) : encode (c :: t) =
    (if c = ' ' then ['+'] else if isUnreserved c then [c] else escapeChar c) ++ encode t := by
  rw [encode, List.flatMap_cons]
  rfl

/-- The characters of a name or value. -/
theorem mem_encode {t : Text} {c : Char} (h : c ∈ encode t) :
    c = '+' ∨ c = '%' ∨ isUnreserved c = true := by
  obtain ⟨d, -, hc⟩ := List.mem_flatMap.mp h
  split_ifs at hc with hspace hunreserved
  · exact .inl (List.mem_singleton.mp hc)
  · rw [List.mem_singleton.mp hc]
    exact .inr (.inr hunreserved)
  · exact .inr (mem_escapeChar hc)

/-- Spaces in the place of plus signs. -/
def spaced (t : Text) : Text := t.map fun c => if c = '+' then ' ' else c

theorem spaced_of_not_mem {t : Text} (h : '+' ∉ t) : spaced t = t := by
  unfold spaced
  refine (List.map_congr_left fun c hc => ?_).trans (List.map_id t)
  rw [if_neg, id]
  rintro rfl
  exact h hc

theorem bytes_spaced_encode (t : Text) : bytes (spaced (encode t)) = Utf8.encode t := by
  induction t with
  | nil => rw [encode, List.flatMap_nil, spaced, List.map_nil, bytes]; rfl
  | cons c t ih =>
      rw [encode_cons, Utf8.encode_cons, spaced, List.map_append, ← spaced, ← spaced, ← ih]
      split_ifs with hspace hunreserved
      · rw [hspace]
        exact bytes_cons_of_ne (by decide) _
      · rw [spaced_of_not_mem (by simpa using (ne_of_isUnreserved hunreserved (by decide)).symm)]
        exact bytes_cons_of_ne (ne_of_isUnreserved hunreserved (by decide)) _
      · rw [spaced_of_not_mem, bytes_escapeChar]
        intro hplus
        rcases mem_escapeChar hplus with h | h
        · exact absurd h (by decide)
        · exact absurd h (by decide)

/-- A name or value is read back. -/
theorem decode_encode (t : Text) : decode (encode t) = t := by
  show unescape (spaced (encode t)) = t
  rw [unescape, bytes_spaced_encode, Utf8.decodeLossy_encode]

/-- Neither names nor values have the characters between them. -/
theorem not_mem_encode (t : Text) : '&' ∉ encode t ∧ '=' ∉ encode t := by
  constructor
  all_goals
    intro h
    rcases mem_encode h with h | h | h
    · exact absurd h (by decide)
    · exact absurd h (by decide)
    · exact absurd h (by decide)

/-- **Names and values are read back.** -/
theorem decodePairs_encodePairs (pairs : List (Text × Text)) :
    decodePairs (encodePairs pairs) = pairs := by
  unfold decodePairs encodePairs
  by_cases hpairs : pairs = []
  · rw [hpairs]
    rfl
  · have hpieces : ∀ piece ∈ pairs.map fun p => encode p.1 ++ '=' :: encode p.2, '&' ∉ piece := by
      intro piece hpiece
      obtain ⟨p, -, rfl⟩ := List.mem_map.mp hpiece
      rw [List.mem_append, List.mem_cons, not_or, not_or]
      exact ⟨(not_mem_encode p.1).1, by decide, (not_mem_encode p.2).1⟩
    rw [Text.split_join (by simpa using hpairs) hpieces, List.filterMap_map]
    refine (List.filterMap_congr fun p _ => ?_).trans List.filterMap_some
    have hne : encode p.1 ++ '=' :: encode p.2 ≠ [] :=
      List.append_ne_nil_of_right_ne_nil _ (List.cons_ne_nil _ _)
    simp only [Function.comp_apply, if_neg hne, Text.cut?_append (not_mem_encode p.1).2,
      decode_encode]

/-- The characters of a form are kept in a query. -/
theorem keptInQuery_of_mem {pairs : List (Text × Text)} {c : Char} (h : c ∈ encodePairs pairs) :
    keptInQuery c = true := by
  have hall : ∀ {t : Text}, c ∈ encode t → keptInQuery c = true := by
    intro t hc
    rcases mem_encode hc with rfl | rfl | hc
    · rfl
    · rfl
    · exact keepsEscapes_query.unreserved c hc
  rcases Text.mem_join h with rfl | ⟨piece, hpiece, hc⟩
  · rfl
  · obtain ⟨p, -, rfl⟩ := List.mem_map.mp hpiece
    rw [List.mem_append, List.mem_cons] at hc
    rcases hc with hc | rfl | hc
    · exact hall hc
    · rfl
    · exact hall hc

end Form

end ContractVerifier.Url
