import ContractVerifier.Proofs.Text.Ends
import ContractVerifier.Proofs.Url.Segments

set_option autoImplicit false

/-! # Segments in an address

What stands between two slashes of a text need not be a segment of the address that the text gives:
marks end the path, dots are followed, and escapes are taken for what they stand for. A text that
**is a segment** (`IsSegment`) is one (`sent_of_segments`), and no other text is
(`isSegment_of_path`).
-/

namespace ContractVerifier.Url

/-- A text stays between its slashes: it has no marks, and it is not followed as dots are. -/
structure IsFixed (t : Text) : Prop where
  slash : '/' ∉ t
  marks : '?' ∉ t ∧ '#' ∉ t
  dots : ¬ IsDots t

instance : DecidablePred IsFixed := fun t =>
  decidable_of_iff ('/' ∉ t ∧ ('?' ∉ t ∧ '#' ∉ t) ∧ ¬ IsDots t)
    ⟨fun h => ⟨h.1, h.2.1, h.2.2⟩, fun h => ⟨h.slash, h.marks, h.dots⟩⟩

/-- A text that stays between its slashes and stands for itself there. -/
structure IsSegment (t : Text) : Prop extends IsFixed t where
  nonempty : t ≠ []
  unescaped : ¬ HasEscape t

/-- The path behind that of an address. Without a scheme or a host it begins at the root. -/
def below (b : Url) (path : Text) : Text :=
  if b.isAbsolute then b.path ++ path else '/' :: (b.path ++ path).dropWhile (· = '/')

/-- An address as it is sent: without a scheme or a host, it is taken from the root. -/
def sent (t : Text) : Except UrlError Url := do
  let url ← ofText t
  if url.isAbsolute then .ok url else url.rooted

variable {names : List Text}

theorem GoesOn.ne_nil (h : GoesOn (behindSlashes names)) : names ≠ [] := by
  rintro rfl
  obtain ⟨c, rest, hnil, -⟩ := h
  cases hnil

theorem goesOn_behindSlashes {name : Text} (hne : name ≠ []) (h : '/' ∉ name) (names : List Text) :
    GoesOn (behindSlashes (name :: names)) := by
  obtain ⟨c, rest, rfl⟩ := List.exists_cons_of_ne_nil hne
  refine ⟨c, rest ++ behindSlashes names, by simp [behindSlashes], ?_⟩
  rintro rfl
  exact h List.mem_cons_self

theorem not_mem_behindSlashes {c : Char} (hc : c ≠ '/')
    (h : ∀ name ∈ names, c ∉ name) : c ∉ behindSlashes names := by
  intro hmem
  obtain ⟨name, hname, hcname⟩ := List.mem_flatMap.mp hmem
  rcases List.mem_cons.mp hcname with hslash | hcname
  · exact hc hslash
  · exact h name hname hcname

/-! ## Segments are found again -/

variable {base : Text} {b u v : Url}

/-- An address is taken from the root, unless it has a scheme and a host. -/
theorem sent_cases {t : Text} (h : sent t = .ok v) : ∃ u, ofText t = .ok u ∧
    (u.isAbsolute = true ∧ v = u ∨ u.isAbsolute = false ∧ u.rooted = .ok v) := by
  unfold sent at h
  cases hu : ofText t with
  | error e =>
      rw [hu] at h
      cases h
  | ok u =>
      rw [hu] at h
      refine ⟨u, rfl, ?_⟩
      simp only [bind, Except.bind] at h
      split at h
      · rename_i habsolute
        cases h
        exact .inl ⟨habsolute, rfl⟩
      · rename_i habsolute
        exact .inr ⟨Bool.eq_false_iff.mpr habsolute, h⟩

/-- Segments that are put behind an address are behind its path, unless following dots leaves
nothing of that. -/
theorem path_of_segments (hend : base.getLast? ≠ some '/') (hmarks : '?' ∉ base ∧ '#' ∉ base)
    (hb : ofText base = .ok b) (hgoes : GoesOn (behindSlashes names))
    (hnames : ∀ n ∈ names, IsFixed n) (hu : ofText (base ++ behindSlashes names) = .ok u) :
    u.isAbsolute = b.isAbsolute ∧ u.query = none ∧ u.fragment = none ∧
      (∀ c ∈ u.path, keptInPath c = true) ∧
      (u.path = b.path ++ behindSlashes (names.map (escape keptInPath)) ∨
        b.isAbsolute = false ∧ b.path = [] ∧
          '/' :: u.path = behindSlashes (names.map (escape keptInPath))) := by
  have htail : '?' ∉ behindSlashes names ∧ '#' ∉ behindSlashes names :=
    ⟨not_mem_behindSlashes (by decide) fun n hn => (hnames n hn).marks.1,
      not_mem_behindSlashes (by decide) fun n hn => (hnames n hn).marks.2⟩
  obtain ⟨habsolute, hquery, hfragment, written, follow, hfollow, hroot, hbpath, hupath⟩ :=
    ofText_append hgoes hend hmarks hb hu
  rw [splitPath_of_no_marks htail] at hquery hfragment hupath
  refine ⟨habsolute, hquery, hfragment, ?_, ?_⟩
  · rw [hupath]
    exact fun c hc => kept_of_mem_escape keepsEscapes_path hc
  · rw [← escape_behindSlashes, hupath, hbpath]
    rcases hfollow with rfl | ⟨rfl, -⟩
    · have hstack : stack (written ++ behindSlashes names) = names.reverse ++ stack written := by
        rw [stack, split_behindSlashes (fun n hn => (hnames n hn).slash), List.foldl_append,
          foldl_keepSegment_of_not_dots fun n hn => (hnames n hn).dots]
        rfl
      by_cases hnil : stack written = []
      · refine .inr ⟨?_, by rw [tidyPath_eq, hnil]; rfl, ?_⟩
        · rw [← Bool.not_eq_true]
          exact fun h => stack_ne_nil (hroot h) hnil
        · obtain ⟨name, rest, rfl⟩ := List.exists_cons_of_ne_nil hgoes.ne_nil
          rw [tidyPath_eq, hstack, hnil, List.append_nil, List.reverse_reverse,
            behindSlashes_cons, escape_cons_of_kept rfl]
      · refine .inl ?_
        rw [tidyPath_eq, tidyPath_eq, hstack, List.reverse_append, List.reverse_reverse,
          join_behindSlashes (by simpa using hnil), escape_append]
    · exact .inl (escape_append keptInPath written _)

/-- **Segments that are put behind an address** are where they should be when it is sent. -/
theorem sent_of_segments (hend : base.getLast? ≠ some '/') (hmarks : '?' ∉ base ∧ '#' ∉ base)
    (hb : ofText base = .ok b) (hgoes : GoesOn (behindSlashes names))
    (hnames : ∀ n ∈ names, IsFixed n) (hv : sent (base ++ behindSlashes names) = .ok v) :
    v.query = none ∧ v.fragment = none ∧
      v.path = b.below (behindSlashes (names.map (escape keptInPath))) := by
  obtain ⟨u, hu, hcases⟩ := sent_cases hv
  obtain ⟨habsolute, hquery, hfragment, hkept, hpath⟩ :=
    path_of_segments hend hmarks hb hgoes hnames hu
  rcases hcases with ⟨hu, rfl⟩ | ⟨hu, hrooted⟩
  · rw [habsolute] at hu
    refine ⟨hquery, hfragment, ?_⟩
    rw [below, if_pos hu]
    exact hpath.resolve_right fun h => absurd (h.1.symm.trans hu) (by decide)
  · rw [habsolute] at hu
    obtain ⟨hvpath, hvquery, hvfragment⟩ := of_rooted hkept hrooted
    refine ⟨by rw [hvquery, hquery]; rfl, hvfragment, ?_⟩
    rw [hvpath, below, if_neg (by simp [hu])]
    rcases hpath with hpath | ⟨-, hbnil, hpath⟩
    · rw [hpath]
    · rw [hbnil, List.nil_append, ← hpath]
      simp

/-! ## No other text is a segment -/

/-- In two readings of one list, what neither the front nor the back can reach is new. -/
theorem mem_of_append_eq {α : Type} {early new late left right : List α} {a : α}
    (h : early ++ (new ++ late) = left ++ a :: right) (hearly : early.length ≤ left.length)
    (hlate : late.length ≤ right.length) : a ∈ new := by
  have hlength := congrArg List.length h
  simp only [List.length_append, List.length_cons] at hlength
  have hat : (early ++ (new ++ late))[left.length]? = some a := by
    rw [h]
    simp
  rw [List.getElem?_append_right hearly, List.getElem?_append_left (by omega)] at hat
  exact List.mem_of_getElem? hat

/-- What the path of an address is in which a text stands between fixed segments: if there is no
query, either the text has no marks, or a fragment begins in it and the path ends before that. -/
theorem splitPath_of_no_query {front : List Text} {t : Text}
    (hfront : ∀ n ∈ front, IsFixed n) (hnames : ∀ n ∈ names, IsFixed n)
    (hquery : (splitPath (behindSlashes (front ++ t :: names))).2.1 = none) :
    ∃ begun behind,
      (splitPath (behindSlashes (front ++ t :: names))).1 =
        behindSlashes front ++ '/' :: (begun ++ behindSlashes behind) ∧
      (begun = t ∧ behind = names ∧ '?' ∉ t ∧ '#' ∉ t ∨
        begun.length < t.length ∧ behind = []) := by
  have hclear : '?' ∉ behindSlashes front ++ ['/'] ∧ '#' ∉ behindSlashes front ++ ['/'] := by
    have hq := not_mem_behindSlashes (c := '?') (by decide) fun n hn => (hfront n hn).marks.1
    have hh := not_mem_behindSlashes (c := '#') (by decide) fun n hn => (hfront n hn).marks.2
    constructor
    · simpa using hq
    · simpa using hh
  have htext : behindSlashes (front ++ t :: names) =
      (behindSlashes front ++ ['/']) ++ (t ++ behindSlashes names) := by
    rw [behindSlashes_append]
    simp [behindSlashes]
  rw [htext, splitPath_append hclear] at hquery ⊢
  simp only [List.append_assoc, List.singleton_append] at hquery ⊢
  -- the path ends at the first mark, if the text has one
  let isPlain := fun c : Char => !(['?', '#'] : List Char).contains c
  obtain ⟨begun, rest, hparts, -, hbegun, hmark⟩ := Text.exists_takeWhile_eq isPlain t
  have hplain : '?' ∉ begun ∧ '#' ∉ begun := by
    constructor
    all_goals exact fun hmem => absurd (hbegun _ hmem) (by decide)
  cases rest with
  | nil =>
      rw [List.append_nil] at hparts
      subst hparts
      have hnone : '?' ∉ t ++ behindSlashes names ∧ '#' ∉ t ++ behindSlashes names := by
        have hq := not_mem_behindSlashes (c := '?') (by decide) fun n hn => (hnames n hn).marks.1
        have hh := not_mem_behindSlashes (c := '#') (by decide) fun n hn => (hnames n hn).marks.2
        rw [List.mem_append, List.mem_append, not_or, not_or]
        exact ⟨⟨hplain.1, hq⟩, hplain.2, hh⟩
      rw [splitPath_of_no_marks hnone]
      exact ⟨t, names, rfl, .inl ⟨rfl, rfl, hplain⟩⟩
  | cons mark rest =>
      have hmark : mark = '?' ∨ mark = '#' := by
        simpa [isPlain, or_iff_not_imp_left] using hmark mark rest rfl
      rw [hparts, List.append_assoc, splitPath_append hplain] at hquery ⊢
      refine ⟨begun, [], ?_, .inr ⟨?_, rfl⟩⟩
      · rcases hmark with rfl | rfl
        · simp [splitPath, splitBefore_eq] at hquery
        · simp [splitPath, splitBefore_eq, behindSlashes]
      · rw [List.length_append, List.length_cons]
        omega

/-- What is left of segments and a text between them, last first: some of the segments of the text,
and some of the segments before it. -/
theorem stack_between (written begun : Text) {front behind : List Text}
    (hfront : ∀ n ∈ front, IsFixed n) (hbehind : ∀ n ∈ behind, IsFixed n) :
    ∃ new k, stack (written ++ (behindSlashes front ++ '/' :: (begun ++ behindSlashes behind))) =
        behind.reverse ++ (new ++ (front.reverse ++ stack written).drop k) ∧
      ∀ s ∈ new, s ∈ Text.split '/' begun ∧ ¬ IsDots s := by
  obtain ⟨new, k, hfold, hnew⟩ :=
    foldl_keepSegment_cases (Text.split '/' begun) (front.reverse ++ stack written)
  refine ⟨new, k, ?_, hnew⟩
  rw [← hfold, stack, ← List.append_assoc, Text.split_append,
    split_behindSlashes fun n hn => (hfront n hn).slash,
    split_behindSlashes fun n hn => (hbehind n hn).slash, List.foldl_append, List.foldl_append,
    List.foldl_append, foldl_keepSegment_of_not_dots fun n hn => (hfront n hn).dots,
    foldl_keepSegment_of_not_dots fun n hn => (hbehind n hn).dots, stack]

/-- Where one path stands behind another, its segments stand behind those of the other. -/
theorem segments_of_path_append {written rest : Text} {segments : List Text}
    (hslash : ∀ n ∈ segments, '/' ∉ n) (hbefore : stack written ≠ [])
    (hwhole : stack (written ++ rest) ≠ [])
    (hpath : escape keptInPath (tidyPath (written ++ rest)) =
      escape keptInPath (tidyPath written) ++ behindSlashes segments) :
    (stack (written ++ rest)).reverse.map (escape keptInPath) =
      (stack written).reverse.map (escape keptInPath) ++ segments := by
  rw [← split_tidyPath hwhole, ← split_tidyPath hbefore, ← split_behindSlashes hslash, hpath]

/-- **Only a segment is found again.** If a text stands between fixed segments behind an address
with a scheme and a host, and if the address that this gives has no query and in its path, between
the same segments, a segment that stands for the text, then the text is a segment. -/
theorem isSegment_of_path {front : List Text} {t segment : Text}
    (hend : base.getLast? ≠ some '/') (hmarks : '?' ∉ base ∧ '#' ∉ base) (hb : ofText base = .ok b)
    (habsolute : b.isAbsolute = true) (hgoes : GoesOn (behindSlashes (front ++ t :: names)))
    (hfront : ∀ n ∈ front, IsFixed n) (hnames : ∀ n ∈ names, IsFixed n)
    (hu : ofText (base ++ behindSlashes (front ++ t :: names)) = .ok u) (hquery : u.query = none)
    (hne : segment ≠ []) (hsingle : '/' ∉ segment) (hstands : unescape segment = t)
    (hpath : u.path = b.path ++ behindSlashes (front ++ segment :: names)) : IsSegment t := by
  obtain ⟨-, hquery', -, written, follow, hfollow, hroot, hbpath, hupath⟩ :=
    ofText_append hgoes hend hmarks hb hu
  obtain rfl : follow = tidyPath := hfollow.resolve_right fun h => by simp [habsolute] at h
  have hnoquery : (splitPath (behindSlashes (front ++ t :: names))).2.1 = none := by
    rw [hquery] at hquery'
    exact Option.map_eq_none_iff.mp hquery'.symm
  obtain ⟨begun, behind, hread, hbegun⟩ := splitPath_of_no_query hfront hnames hnoquery
  have hbehind : behind ⊆ names ∧ behind.length ≤ names.length := by
    rcases hbegun with ⟨-, rfl, -⟩ | ⟨-, rfl⟩
    · exact ⟨List.Subset.refl _, Nat.le_refl _⟩
    · exact ⟨List.nil_subset _, Nat.zero_le _⟩
  obtain ⟨new, k, hstack, hnew⟩ := stack_between written begun hfront
    fun n hn => hnames n (hbehind.1 hn)
  rw [hread] at hupath
  generalize hrest : behindSlashes front ++ '/' :: (begun ++ behindSlashes behind) = rest
    at hupath hstack
  have hsegments : (stack (written ++ rest)).reverse.map (escape keptInPath) =
      (stack written).reverse.map (escape keptInPath) ++ (front ++ segment :: names) := by
    have hslash : ∀ n ∈ front ++ segment :: names, '/' ∉ n := by
      intro n hn
      rcases List.mem_append.mp hn with hn | hn
      · exact (hfront n hn).slash
      · rcases List.mem_cons.mp hn with rfl | hn
        · exact hsingle
        · exact (hnames n hn).slash
    have hstart : (written ++ rest).head? = some '/' := by
      rcases hroot habsolute with rfl | h
      · rw [← hrest]
        cases front <;> rfl
      · rw [List.head?_append, h]
        rfl
    refine segments_of_path_append hslash (stack_ne_nil (hroot habsolute))
      (stack_ne_nil (.inr hstart)) ?_
    rw [← hupath, ← hbpath, hpath]
  have hlists : behind.reverse.map (escape keptInPath) ++ (new.map (escape keptInPath) ++
      ((front.reverse ++ stack written).drop k).map (escape keptInPath)) =
      names.reverse ++ segment ::
        (front.reverse ++ (stack written).map (escape keptInPath)) := by
    have hreversed := congrArg List.reverse hsegments
    rw [hstack] at hreversed
    simpa using hreversed
  have hmem : segment ∈ new.map (escape keptInPath) := by
    refine mem_of_append_eq hlists ?_ ?_
    · simpa using hbehind.2
    · simp
  obtain ⟨s, hs, rfl⟩ := List.mem_map.mp hmem
  obtain ⟨hsplit, hdots⟩ := hnew s hs
  -- the segment stands for a text that is not longer than it, and it is a part of that text
  have hshort := length_unescape s
  have hwithin := Text.infix_of_mem_split hsplit
  rw [unescape, bytes_escape keepsEscapes_path, ← unescape] at hstands
  rw [hstands] at hshort
  have hwithin' := hwithin.length_le
  rcases hbegun with ⟨rfl, -, hmark⟩ | ⟨hbegun, -⟩
  · have hlength : s.length = begun.length := by omega
    obtain rfl : s = begun := hwithin.eq_of_length hlength
    exact ⟨⟨Text.not_mem_of_mem_split hsplit, hmark, hdots⟩, fun h => hne (by rw [h]; rfl),
      fun h => Nat.lt_irrefl _ (hshort.2 h)⟩
  · omega

end ContractVerifier.Url
