import ContractVerifier.Proofs.Url.Escapes
import ContractVerifier.Url.Reader

set_option autoImplicit false

/-! # What addresses are read to

An address is read if its parts are (`ofParts_eq_ok_iff`). What is put behind an address that has
neither a query nor a fragment goes on with its path: scheme and authority stay (`split_append`,
`ofText_append`).
-/

namespace ContractVerifier.Url

variable {p : Parts} {u : Url} {t : Text} {kept : Char → Bool}

/-! ## Checks -/

theorem escapePart_eq_ok_iff {t' : Text} :
    escapePart kept t = .ok t' ↔ (∀ c ∈ t, Text.isHalf c = false) ∧ t' = escape kept t := by
  unfold escapePart
  cases hfind : t.find? Text.isHalf with
  | none =>
      have hhalf : ∀ c ∈ t, Text.isHalf c = false := by
        simpa using List.find?_eq_none.mp hfind
      constructor
      · rintro ⟨⟩
        exact ⟨hhalf, rfl⟩
      · rintro ⟨-, rfl⟩
        rfl
  | some c =>
      have hc : Text.isHalf c = true := List.find?_some hfind
      have hmem : c ∈ t := List.mem_of_find?_eq_some hfind
      refine iff_of_false (by rintro ⟨⟩) fun h => ?_
      rw [h.1 c hmem] at hc
      cases hc

theorem escapePart?_eq_ok_iff {part part' : Option Text} :
    escapePart? kept part = .ok part' ↔
      (∀ t ∈ part, ∀ c ∈ t, Text.isHalf c = false) ∧ part' = part.map (escape kept) := by
  cases part with
  | none =>
      constructor
      · rintro ⟨⟩
        exact ⟨by rintro _ ⟨⟩, rfl⟩
      · rintro ⟨-, rfl⟩
        rfl
  | some t =>
      have hiff : escapePart? kept (some t) = .ok part' ↔
          ∃ t', escapePart kept t = .ok t' ∧ part' = some t' := by
        rw [escapePart?]
        cases escapePart kept t with
        | error e =>
            constructor
            · rintro ⟨⟩
            · rintro ⟨_, ⟨⟩, _⟩
        | ok t' =>
            constructor
            · rintro ⟨⟩
              exact ⟨t', rfl, rfl⟩
            · rintro ⟨_, ⟨⟩, rfl⟩
              rfl
      rw [hiff]
      constructor
      · rintro ⟨t', h, rfl⟩
        obtain ⟨hhalf, rfl⟩ := escapePart_eq_ok_iff.mp h
        refine ⟨?_, rfl⟩
        rintro _ ⟨⟩
        exact hhalf
      · rintro ⟨hhalf, rfl⟩
        exact ⟨_, escapePart_eq_ok_iff.mpr ⟨hhalf t rfl, rfl⟩, rfl⟩

/-! ## Reading parts -/

/-- User, host and port of an address that is read from these parts. -/
def readAuthority (p : Parts) : Except UrlError (Text × Text × Option Int) := do
  let (user, rest) := splitUser p.authority
  let (host, port) := splitPort rest
  let user ← escapePart keptInUser user
  let host ← readHost host
  let port ← (shownPort p.scheme ·) <$> readPort port
  return (user, host, port)

/-- An authority holds a user, a host or a port. -/
def IsGiven (authority : Text × Text × Option Int) : Prop :=
  authority.1 ≠ [] ∨ authority.2.1 ≠ [] ∨ authority.2.2.isSome

instance (authority : Text × Text × Option Int) : Decidable (IsGiven authority) :=
  inferInstanceAs (Decidable (_ ∨ _ ∨ _))

/-- There is neither a scheme nor an authority. -/
def IsBare (scheme : Text) (authority : Text × Text × Option Int) : Prop :=
  ¬ IsGiven authority ∧ scheme = []

instance (scheme : Text) (authority : Text × Text × Option Int) :
    Decidable (IsBare scheme authority) :=
  inferInstanceAs (Decidable (_ ∧ _))

/-- The path of an address that is read from these parts. Without scheme and authority it is left
as it is. -/
def readPath (p : Parts) (authority : Text × Text × Option Int) : Text :=
  if IsBare p.scheme authority then p.path else tidyPath p.path

/-- First user, host and port are read; then the path is checked against them; then the path, the
query and the fragment are escaped. -/
theorem ofParts_eq (p : Parts) : ofParts p = (readAuthority p).bind fun a =>
    if IsGiven a ∧ p.path ≠ [] ∧ p.path.head? ≠ some '/' then .error .rootless
    else if IsBare p.scheme a ∧ p.path.take 2 = ['/', '/'] then .error .doubleSlash
    else if IsBare p.scheme a ∧ p.path.head? = some ':' then .error .leadingColon
    else
      (escapePart keptInPath (readPath p a)).bind fun path =>
        (escapePart? keptInQuery p.query).bind fun query =>
          (escapePart? keptInFragment p.fragment).bind fun fragment =>
            .ok ⟨Text.lowerLatin p.scheme, a.1, a.2.1, a.2.2, path, query, fragment⟩ := by
  unfold ofParts readAuthority
  obtain ⟨user, rest⟩ := splitUser p.authority
  simp only [bind, Except.bind]
  cases escapePart keptInUser user with
  | error e => rfl
  | ok user =>
    simp only
    cases readHost (splitPort rest).1 with
    | error e => rfl
    | ok host =>
      simp only
      cases (shownPort p.scheme ·) <$> readPort (splitPort rest).2 with
      | error e => rfl
      | ok port => rfl

theorem bind_eq_ok_iff {α β : Type} {x : Except UrlError α} {f : α → Except UrlError β} {b : β} :
    x.bind f = .ok b ↔ ∃ a, x = .ok a ∧ f a = .ok b := by
  cases x with
  | error e => exact iff_of_false (fun h => nomatch h) fun h => nomatch h.choose_spec
  | ok a => exact ⟨fun h => ⟨a, rfl, h⟩, fun ⟨_, ha, h⟩ => by cases ha; exact h⟩

/-- The path is not taken for something else if the address is written out. -/
structure IsClear (p : Parts) (authority : Text × Text × Option Int) : Prop where
  rooted : IsGiven authority → p.path = [] ∨ p.path.head? = some '/'
  slash : IsBare p.scheme authority → p.path.take 2 ≠ ['/', '/']
  colon : IsBare p.scheme authority → p.path.head? ≠ some ':'

/-- **What parts are read to.** -/
theorem ofParts_eq_ok_iff : ofParts p = .ok u ↔ ∃ authority, readAuthority p = .ok authority ∧
    IsClear p authority ∧ escapePart keptInPath (readPath p authority) = .ok u.path ∧
    escapePart? keptInQuery p.query = .ok u.query ∧
    escapePart? keptInFragment p.fragment = .ok u.fragment ∧
    u.scheme = Text.lowerLatin p.scheme ∧ authority = (u.user, u.host, u.port) := by
  rw [ofParts_eq, bind_eq_ok_iff]
  refine exists_congr fun a => and_congr_right fun _ => ?_
  constructor
  · intro h
    split_ifs at h with hrooted hslash hcolon
    obtain ⟨path, hpath, h⟩ := bind_eq_ok_iff.mp h
    obtain ⟨query, hquery, h⟩ := bind_eq_ok_iff.mp h
    obtain ⟨fragment, hfragment, h⟩ := bind_eq_ok_iff.mp h
    cases h
    refine ⟨⟨fun hgiven => ?_, fun hbare h => hslash ⟨hbare, h⟩, fun hbare h => hcolon ⟨hbare, h⟩⟩,
      hpath, hquery, hfragment, rfl, rfl⟩
    by_contra hnot
    rw [not_or] at hnot
    exact hrooted ⟨hgiven, hnot⟩
  · rintro ⟨hclear, hpath, hquery, hfragment, hscheme, rfl⟩
    rw [if_neg fun h => (hclear.rooted h.1).elim h.2.1 h.2.2,
      if_neg fun h => hclear.slash h.1 h.2, if_neg fun h => hclear.colon h.1 h.2, hpath, hquery,
      hfragment]
    show Except.ok (Url.mk _ u.user u.host u.port u.path u.query u.fragment) = _
    rw [← hscheme]

/-! ## Going on with a path -/

variable {base tail : Text}

theorem splitBefore_eq (marks : List Char) (t : Text) :
    splitBefore marks t =
      (t.takeWhile fun c => !marks.contains c, t.dropWhile fun c => !marks.contains c) :=
  List.span_eq_takeWhile_dropWhile _ t

/-- A text without the marks is passed over. -/
theorem splitBefore_append {marks : List Char} (h : ∀ c ∈ base, c ∉ marks) (t : Text) :
    splitBefore marks (base ++ t) = (base ++ (splitBefore marks t).1, (splitBefore marks t).2) := by
  have hpass : ∀ c ∈ base, (!marks.contains c) = true := by simpa using h
  rw [splitBefore_eq, splitBefore_eq, List.takeWhile_append_of_pos hpass,
    List.dropWhile_append_of_pos hpass]

/-- Behind a character that ends a run in any case, the run is what it was. -/
theorem run_append_cons {p : Char → Bool} {c : Char} (hc : p c = false) (base t : Text) :
    (base ++ c :: t).takeWhile p = base.takeWhile p ∧
      (base ++ c :: t).dropWhile p = base.dropWhile p ++ c :: t := by
  induction base with
  | nil => simp [hc]
  | cons d base ih =>
      by_cases hd : p d
      · simpa [hd] using ih
      · simp [hd]

/-- Before a mark nothing changes. -/
theorem splitBefore_append_cons {marks : List Char} {c : Char} (hc : c ∈ marks) (base t : Text) :
    splitBefore marks (base ++ c :: t) =
      ((splitBefore marks base).1, (splitBefore marks base).2 ++ c :: t) := by
  obtain ⟨htake, hdrop⟩ := run_append_cons (p := fun c => !marks.contains c) (by simpa using hc)
    base t
  rw [splitBefore_eq, splitBefore_eq, htake, hdrop]

/-- A text **goes on** with a path: it begins with a slash, and with one only. -/
def GoesOn (tail : Text) : Prop := ∃ c rest, tail = '/' :: c :: rest ∧ c ≠ '/'

/-- Whether `c` may stand in a scheme. -/
def isSchemeChar (c : Char) : Bool := c.isAlphanum || ['+', '.', '-'].contains c

theorem splitScheme_eq (t : Text) : splitScheme t =
    if (t.dropWhile isSchemeChar).head? = some ':' ∧
        (t.takeWhile isSchemeChar).head?.all Char.isAlpha = true then
      (t.takeWhile isSchemeChar, (t.dropWhile isSchemeChar).tail)
    else ([], t) := by
  have hspan : t.span isSchemeChar = (t.takeWhile isSchemeChar, t.dropWhile isSchemeChar) :=
    List.span_eq_takeWhile_dropWhile _ t
  unfold splitScheme
  rw [show (fun c : Char => c.isAlphanum || ['+', '.', '-'].contains c) = isSchemeChar from rfl,
    hspan]
  split
  · rename_i scheme rest heq
    injection heq with hscheme hrest
    rw [hscheme, hrest]
    simp
  · rename_i hnot
    rw [if_neg]
    rintro ⟨hcolon, -⟩
    obtain ⟨rest, hrest⟩ := List.head?_eq_some_iff.mp hcolon
    exact hnot _ rest (by rw [hrest])

/-- A scheme is not made by what goes on with a path. -/
theorem splitScheme_append (htail : GoesOn tail) (base : Text) :
    splitScheme (base ++ tail) = ((splitScheme base).1, (splitScheme base).2 ++ tail) := by
  obtain ⟨c, rest, rfl, -⟩ := htail
  obtain ⟨htake, hdrop⟩ := run_append_cons (p := isSchemeChar) (c := '/') rfl base (c :: rest)
  rw [splitScheme_eq, splitScheme_eq, htake, hdrop]
  cases hbehind : base.dropWhile isSchemeChar with
  | nil => simp
  | cons d behind =>
      rw [List.cons_append, List.head?_cons, List.head?_cons]
      split <;> rfl

theorem suffix_splitScheme (t : Text) : (splitScheme t).2 <:+ t := by
  rw [splitScheme_eq]
  split
  · exact (List.tail_suffix _).trans (List.dropWhile_suffix _)
  · exact List.suffix_refl t

/-- The authority of an address, with what follows it, if there is one behind the scheme. -/
def splitAuthority (t : Text) : Text × Text :=
  match t with
  | '/' :: '/' :: rest => splitBefore ['/', '?', '#'] rest
  | _ => ([], t)

theorem splitAuthority_eq (t : Text) : splitAuthority t =
    if t.take 2 = ['/', '/'] then splitBefore ['/', '?', '#'] (t.drop 2) else ([], t) := by
  unfold splitAuthority
  split
  · rfl
  · rename_i hnot
    rw [if_neg]
    intro h
    exact hnot (t.drop 2) (by rw [← List.take_append_drop 2 t, h]; rfl)

theorem splitAuthority_append (htail : GoesOn tail) (hend : base.getLast? ≠ some '/') :
    splitAuthority (base ++ tail) =
      ((splitAuthority base).1, (splitAuthority base).2 ++ tail) := by
  obtain ⟨c, rest, rfl, hc⟩ := htail
  rw [splitAuthority_eq, splitAuthority_eq]
  rcases base with _ | ⟨a, _ | ⟨b, base⟩⟩
  · rw [if_neg (by simpa using hc), if_neg (by simp)]
  · rw [if_neg (by simpa using hend), if_neg (by simp)]
  · by_cases hab : [a, b] = ['/', '/']
    · rw [if_pos (by simpa using hab), if_pos (by simpa using hab)]
      exact splitBefore_append_cons (by decide) base (c :: rest)
    · rw [if_neg (by simpa using hab), if_neg (by simpa using hab)]

theorem suffix_splitAuthority (t : Text) : (splitAuthority t).2 <:+ t := by
  rw [splitAuthority_eq]
  split
  · rw [splitBefore_eq]
    exact (List.dropWhile_suffix _).trans (List.drop_suffix 2 t)
  · exact List.suffix_refl t

/-- The path, the query and the fragment of what is left of an address. -/
def splitPath (t : Text) : Text × Option Text × Option Text :=
  let (path, rest) := splitBefore ['?', '#'] t
  let (query, rest) := match rest with
    | '?' :: rest => ((splitBefore ['#'] rest).map some id)
    | _ => (none, rest)
  let fragment := match rest with
    | '#' :: rest => some rest
    | _ => none
  (path, query, fragment)

/-- A text is split from front to back. -/
theorem split_eq (t : Text) :
    let authority := splitAuthority (splitScheme t).2
    let path := splitPath authority.2
    split t = ⟨(splitScheme t).1, authority.1, path.1, path.2.1, path.2.2⟩ := rfl

theorem splitPath_append (h : '?' ∉ base ∧ '#' ∉ base) (t : Text) :
    splitPath (base ++ t) = (base ++ (splitPath t).1, (splitPath t).2) := by
  have hmarks : ∀ c ∈ base, c ∉ ['?', '#'] := by
    intro c hc hmem
    simp only [List.mem_cons, List.not_mem_nil, or_false] at hmem
    rcases hmem with rfl | rfl
    · exact h.1 hc
    · exact h.2 hc
  unfold splitPath
  rw [splitBefore_append hmarks]

theorem splitPath_of_no_marks (h : '?' ∉ t ∧ '#' ∉ t) : splitPath t = (t, none, none) := by
  have happend := splitPath_append h []
  rw [List.append_nil] at happend
  rw [happend]
  simp [splitPath, splitBefore_eq]

/-- **What goes on with a path makes no difference to what stands before it.** -/
theorem split_append (htail : GoesOn tail) (hend : base.getLast? ≠ some '/')
    (hmarks : '?' ∉ base ∧ '#' ∉ base) :
    ∃ scheme authority written, split base = ⟨scheme, authority, written, none, none⟩ ∧
      split (base ++ tail) = ⟨scheme, authority, written ++ (splitPath tail).1,
        (splitPath tail).2.1, (splitPath tail).2.2⟩ := by
  let behind := (splitScheme base).2
  let left := (splitAuthority behind).2
  have hbehind : behind <:+ base := suffix_splitScheme base
  have hleft : left <:+ base := (suffix_splitAuthority behind).trans hbehind
  have hend' : behind.getLast? ≠ some '/' := by
    intro h
    obtain ⟨front, hfront⟩ := hbehind
    rw [← hfront, List.getLast?_append, h] at hend
    exact hend rfl
  have hmarks' : '?' ∉ left ∧ '#' ∉ left :=
    ⟨fun h => hmarks.1 (hleft.subset h), fun h => hmarks.2 (hleft.subset h)⟩
  refine ⟨(splitScheme base).1, (splitAuthority behind).1, left, ?_, ?_⟩
  · rw [split_eq]
    show Parts.mk _ _ (splitPath left).1 (splitPath left).2.1 (splitPath left).2.2 = _
    rw [splitPath_of_no_marks hmarks']
  · rw [split_eq, splitScheme_append htail]
    simp only
    rw [splitAuthority_append htail hend', splitPath_append hmarks']

theorem ofParts_of_ofText (h : ofText t = .ok u) : ofParts (split t) = .ok u := by
  unfold ofText at h
  split at h
  · cases h
  · split at h
    · cases h
    · exact h

theorem isAbsolute_iff : u.isAbsolute = true ↔ u.scheme ≠ [] ∧ u.host ≠ [] := by
  simp [isAbsolute]

/-- **What goes on with the path of an address.** If both are read, `u` has the path of `b` with the
new path behind it, dots being followed in both, unless they have neither scheme nor authority. -/
theorem ofText_append {b : Url} (htail : GoesOn tail) (hend : base.getLast? ≠ some '/')
    (hmarks : '?' ∉ base ∧ '#' ∉ base) (hb : ofText base = .ok b)
    (hu : ofText (base ++ tail) = .ok u) :
    u.isAbsolute = b.isAbsolute ∧
    u.query = (splitPath tail).2.1.map (escape keptInQuery) ∧
    u.fragment = (splitPath tail).2.2.map (escape keptInFragment) ∧
    ∃ written follow, (follow = tidyPath ∨ follow = id ∧ b.isAbsolute = false) ∧
      (b.isAbsolute = true → written = [] ∨ written.head? = some '/') ∧
      b.path = escape keptInPath (follow written) ∧
      u.path = escape keptInPath (follow (written ++ (splitPath tail).1)) := by
  obtain ⟨scheme, authority, written, hbase, htext⟩ := split_append htail hend hmarks
  have hb := ofParts_of_ofText hb
  have hu := ofParts_of_ofText hu
  rw [hbase, ofParts_eq_ok_iff] at hb
  rw [htext, ofParts_eq_ok_iff] at hu
  obtain ⟨a, ha, hclear, hpath, -, -, hscheme, heq⟩ := hb
  obtain ⟨a', ha', -, hpath', hquery', hfragment', hscheme', heq'⟩ := hu
  obtain rfl : a = a' := Except.ok.inj (ha.symm.trans ha')
  have hsame : (u.user, u.host, u.port) = (b.user, b.host, b.port) := heq'.symm.trans heq
  injection hsame with _ hsame
  injection hsame with hhost _
  have habsolute : u.isAbsolute = b.isAbsolute := by
    rw [isAbsolute, isAbsolute, hscheme, hscheme', hhost]
  have hgiven : b.isAbsolute = true → IsGiven a := by
    intro h
    rw [heq]
    exact .inr (.inl (isAbsolute_iff.mp h).2)
  refine ⟨habsolute, (escapePart?_eq_ok_iff.mp hquery').2, (escapePart?_eq_ok_iff.mp hfragment').2,
    written, ?_⟩
  by_cases hbare : IsBare scheme a
  · -- dots are not followed
    simp only [readPath, if_pos hbare] at hpath hpath'
    refine ⟨id, .inr ⟨rfl, ?_⟩, fun h => absurd (hgiven h) hbare.1,
      (escapePart_eq_ok_iff.mp hpath).2, (escapePart_eq_ok_iff.mp hpath').2⟩
    rw [← Bool.not_eq_true]
    exact fun h => hbare.1 (hgiven h)
  · simp only [readPath, if_neg hbare] at hpath hpath'
    exact ⟨tidyPath, .inl rfl, fun h => hclear.rooted (hgiven h),
      (escapePart_eq_ok_iff.mp hpath).2, (escapePart_eq_ok_iff.mp hpath').2⟩

/-! ## Addresses that are read again -/

theorem ofParts_of_ofGiven (h : ofGiven p = .ok u) : ofParts p = .ok u := by
  unfold ofGiven at h
  simp only [bind, Except.bind] at h
  iterate 5
    split at h
    · cases h
  exact h

/-- A query that is put into an address. -/
theorem query_of_withQuery {v : Url} (h : u.withQuery t = .ok v) :
    v.query = some (escape keptInQuery t) := by
  obtain ⟨a, -, -, -, hquery, -⟩ := ofParts_eq_ok_iff.mp (ofParts_of_ofGiven h)
  exact (escapePart?_eq_ok_iff.mp hquery).2

/-- An address without scheme or host becomes a path from the root. -/
theorem of_rooted {v : Url} (hpath : ∀ c ∈ u.path, keptInPath c = true) (h : u.rooted = .ok v) :
    v.path = '/' :: u.path.dropWhile (· = '/') ∧ v.query = u.query.map (escape keptInQuery) ∧
      v.fragment = none := by
  obtain ⟨a, ha, -, hwritten, hquery, hfragment, -⟩ := ofParts_eq_ok_iff.mp (ofParts_of_ofGiven h)
  obtain rfl : a = ([], [], none) := Except.ok.inj (ha.symm.trans rfl)
  have hbare : IsBare [] (([], [], none) : Text × Text × Option Int) := by decide
  simp only [readPath, if_pos hbare] at hwritten
  have hkept : ∀ c ∈ '/' :: u.path.dropWhile (· = '/'), keptInPath c = true := by
    intro c hc
    rcases List.mem_cons.mp hc with rfl | hc
    · rfl
    · exact hpath c ((List.dropWhile_suffix _).subset hc)
  refine ⟨?_, (escapePart?_eq_ok_iff.mp hquery).2, (escapePart?_eq_ok_iff.mp hfragment).2⟩
  rw [(escapePart_eq_ok_iff.mp hwritten).2, escape_of_all_kept hkept]

end ContractVerifier.Url
