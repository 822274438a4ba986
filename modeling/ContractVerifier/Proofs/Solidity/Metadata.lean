import ContractVerifier.Proofs.Flatten.Contained
import ContractVerifier.Proofs.Solidity.HeaderLines
import ContractVerifier.Solidity.Metadata

set_option autoImplicit false

/-! # What a source says of its contract

Name and version are found by scanning. Here stands where they are found, by place: `Declares t name`
says that a text begins with the declaration of a contract, and `Asks t versions` that it begins with a
pragma. `StandsFirst` picks the first place of a source where such a thing stands.

`metadata_stands_first` says that the scan finds just that, and that the name it finds can be a file's.
-/

namespace ContractVerifier

namespace Text

/-! ## White space is nothing else -/

/-- A character of one table is in no other that keeps apart from it. -/
theorem inTable_eq_false {a b : List (Nat × Nat)} {c : Char}
    (hapart : ∀ r ∈ a, ∀ s ∈ b, r.2 < s.1 ∨ s.2 < r.1) (h : inTable a c = true) :
    inTable b c = false := by
  obtain ⟨r, hr, hin⟩ := List.any_eq_true.mp h
  rw [inTable, List.any_eq_false]
  intro s hs hin'
  have hrs := hapart r hr s hs
  simp only [Bool.and_eq_true, decide_eq_true_eq] at hin hin'
  omega

/-- The ranges of letters and digits, and the underscore, in ASCII. -/
def asciiWords : List (Nat × Nat) := [(0x30, 0x39), (0x41, 0x5A), (0x5F, 0x5F), (0x61, 0x7A)]

theorem isWord_eq_false {c : Char} (hascii : inTable asciiWords c = false)
    (hbeyond : inTable wordsBeyondAscii c = false) : isWord c = false := by
  have hnot : ¬ (c.isAlphanum = true ∨ c = '_') := by
    intro h
    have hin : inTable asciiWords c = true := by
      rcases h with h | rfl
      · simp only [Char.isAlphanum, Char.isAlpha, Char.isUpper, Char.isLower, Char.isDigit,
          Bool.or_eq_true, Bool.and_eq_true, decide_eq_true_eq, UInt32.le_iff_toNat_le] at h
        have hvalue : c.toNat = c.val.toNat := rfl
        simp only [inTable, asciiWords, List.any_cons, List.any_nil, Bool.or_false,
          Bool.or_eq_true, Bool.and_eq_true, decide_eq_true_eq, hvalue]
        have h0 : '0'.val.toNat = 0x30 := rfl
        have h9 : '9'.val.toNat = 0x39 := rfl
        have hA : 'A'.val.toNat = 0x41 := rfl
        have hZ : 'Z'.val.toNat = 0x5A := rfl
        have ha : 'a'.val.toNat = 0x61 := rfl
        have hz : 'z'.val.toNat = 0x7A := rfl
        omega
      · decide
    rw [hascii] at hin
    cases hin
  rw [isWord, hbeyond, Bool.and_false, Bool.or_false]
  simpa using hnot

theorem isWord_of_isBlank {c : Char} (h : isBlank c = true) : isWord c = false := by
  apply isWord_eq_false
  · exact inTable_eq_false (a := blanks) (by decide +kernel) h
  · exact inTable_eq_false (a := blanks) (by decide +kernel) h

theorem isDigit_of_isBlank {c : Char} (h : isBlank c = true) : isDigit c = false :=
  inTable_eq_false (a := blanks) (by decide +kernel) h

end Text

namespace Solidity

/-! ## Places -/

/-- `found` stands at the first place of a source where anything of its sort stands. `Here` tells what
stands where a text begins. -/
def StandsFirst (Here : Text → Text → Prop) (source found : Text) : Prop :=
  ∃ before rest, source = before ++ rest ∧ Here rest found ∧
    ∀ front back other, source = front ++ back → Here back other → before.length ≤ front.length

/-- Nothing of its sort stands anywhere in a source. -/
def StandsNowhere (Here : Text → Text → Prop) (source : Text) : Prop :=
  ∀ front back other, source = front ++ back → ¬ Here back other

/-- If something stands anywhere, something stands first. -/
theorem standsFirst_or_nowhere (Here : Text → Text → Prop) (source : Text) :
    (∃ found, StandsFirst Here source found) ∨ StandsNowhere Here source := by
  by_cases h : ∃ n front back other, source = front ++ back ∧ Here back other ∧ front.length = n
  · classical
    obtain ⟨before, rest, found, hsource, hhere, hlength⟩ := Nat.find_spec h
    refine .inl ⟨found, before, rest, hsource, hhere, fun front back other hother hthere => ?_⟩
    rw [hlength]
    exact Nat.find_min' h ⟨front, back, other, hother, hthere, rfl⟩
  · refine .inr fun front back other hother hthere => h ?_
    exact ⟨front.length, front, back, other, hother, hthere, rfl⟩

/-- `read` finds something exactly where something stands. -/
def Finds {α : Type} (read : Text → Option α) (Here : Text → Text → Prop) : Prop :=
  ∀ t, (∃ v, read t = some v) ↔ ∃ found, Here t found

variable {α : Type} {read : Text → Option α} {Here : Text → Text → Prop} {source found : Text}

/-- What is passed over does not matter. -/
theorem firstAnywhere_append {before rest : Text}
    (hpassed : ∀ front back, before ++ rest = front ++ back → front.length < before.length →
      read back = none) (hread : ∃ v, read rest = some v) :
    firstAnywhere read (before ++ rest) = read rest := by
  induction before with
  | nil =>
      obtain ⟨v, hv⟩ := hread
      cases rest with
      | nil => rfl
      | cons c rest => rw [List.nil_append, firstAnywhere, hv]
  | cons c before ih =>
      have hnone : read (c :: (before ++ rest)) = none :=
        hpassed [] (c :: (before ++ rest)) rfl (Nat.succ_pos _)
      rw [List.cons_append, firstAnywhere, hnone]
      apply ih
      intro front back hsame hless
      refine hpassed (c :: front) back ?_ (Nat.succ_lt_succ hless)
      rw [List.cons_append, hsame, List.cons_append]

theorem Finds.firstAnywhere_eq (hfinds : Finds read Here) (h : StandsFirst Here source found) :
    ∃ rest, Here rest found ∧ firstAnywhere read source = read rest := by
  obtain ⟨before, rest, rfl, hhere, hfirst⟩ := h
  refine ⟨rest, hhere, firstAnywhere_append ?_ ((hfinds rest).mpr ⟨found, hhere⟩)⟩
  intro front back hsame hless
  by_contra hne
  obtain ⟨other, hother⟩ := (hfinds back).mp (Option.ne_none_iff_exists'.mp hne)
  have hle := hfirst front back other hsame hother
  omega

theorem Finds.firstAnywhere_eq_none (hfinds : Finds read Here) (h : StandsNowhere Here source) :
    firstAnywhere read source = none := by
  have hnone : ∀ front back, source = front ++ back → read back = none := by
    intro front back hsame
    by_contra hne
    obtain ⟨other, hother⟩ := (hfinds back).mp (Option.ne_none_iff_exists'.mp hne)
    exact h front back other hsame hother
  clear h
  induction source with
  | nil => exact hnone [] [] rfl
  | cons c t ih =>
      rw [firstAnywhere, hnone [] (c :: t) rfl]
      apply ih
      intro front back hsame
      exact hnone (c :: front) back (by rw [hsame, List.cons_append])

/-! ## Names -/

/-- A text begins with the declaration of a contract: `contract`, white space, and the name, which goes
on as long as word characters follow. -/
inductive Declares : Text → Text → Prop
  | mk {gap name rest : Text} (gap_ne_nil : gap ≠ []) (gap_blank : ∀ c ∈ gap, Text.isBlank c = true)
      (name_ne_nil : name ≠ []) (name_words : ∀ c ∈ name, Text.isWord c = true)
      (ends : ∀ c ∈ rest.head?, Text.isWord c = false) :
      Declares ("contract".toList ++ (gap ++ (name ++ rest))) name

theorem nameHere?_eq_some_iff {t name : Text} : nameHere? t = some name ↔ Declares t name := by
  constructor
  · intro h
    unfold nameHere? at h
    split at h
    · cases h
    · rename_i t₁ hafter
      obtain ⟨gap, t₂, rfl, hgap, hblank, -⟩ := Header.blanksAhead_spec t₁
      obtain ⟨run, rest, rfl, htake, hwords, hends⟩ := Header.exists_run Text.isWord t₂
      simp only [hgap, htake] at h
      split at h
      · cases h
      · rename_i hne
        rw [not_or] at hne
        obtain rfl := Option.some.inj h
        rw [Text.after?_eq_some_iff.mp hafter]
        exact .mk hne.1 hblank hne.2 hwords hends
  · rintro @⟨gap, name, rest, hgap, hblank, hname, hwords, hends⟩
    -- a word does not begin with white space, so the gap ends where the name begins
    have hstarts : ∀ c ∈ (name ++ rest).head?, Text.isBlank c = false := by
      intro c hc
      obtain ⟨d, name', rfl⟩ := List.exists_cons_of_ne_nil hname
      obtain rfl : d = c := by simpa using hc
      by_contra hblank'
      have hword := hwords d (List.mem_cons_self ..)
      rw [Text.isWord_of_isBlank (by simpa using hblank')] at hword
      cases hword
    rw [nameHere?, Header.after?_self]
    simp only [Header.blanksAhead_eq hblank hstarts, Header.takeWhile_run hwords hends, hgap, hname,
      or_self, if_false]

theorem finds_nameHere? : Finds nameHere? Declares := fun _ =>
  exists_congr fun _ => nameHere?_eq_some_iff

theorem contractName_of_first (h : StandsFirst Declares source found) :
    contractName source = found := by
  obtain ⟨rest, hdeclares, hfirst⟩ := finds_nameHere?.firstAnywhere_eq h
  rw [contractName, hfirst, nameHere?_eq_some_iff.mpr hdeclares, Option.getD_some]

theorem contractName_of_nowhere (h : StandsNowhere Declares source) :
    contractName source = defaultName := by
  rw [contractName, finds_nameHere?.firstAnywhere_eq_none h, Option.getD_none]

/-- A contract's name is a word. -/
theorem contractName_word (source : Text) :
    contractName source ≠ [] ∧ ∀ c ∈ contractName source, Text.isWord c = true := by
  rcases standsFirst_or_nowhere Declares source with ⟨found, h⟩ | h
  · rw [contractName_of_first h]
    obtain ⟨-, -, -, ⟨-, -, hname, hwords, -⟩, -⟩ := h
    exact ⟨hname, hwords⟩
  · rw [contractName_of_nowhere h]
    have hwords : defaultName.all Text.isWord := by decide
    exact ⟨by decide, List.all_eq_true.mp hwords⟩

/-- A word is its own part of a file name. -/
theorem safeName_of_word {name : Text} (hname : name ≠ [])
    (hwords : ∀ c ∈ name, Text.isWord c = true) : Flatten.safeName name = name := by
  rw [Flatten.safeName, if_neg hname]
  calc name.map (fun c => if Text.isWord c then c else '_')
      = name.map id := List.map_congr_left fun c hc => if_pos (hwords c hc)
    _ = name := List.map_id name

/-! ## Versions -/

/-- A text begins with a pragma that asks for versions: `pragma`, white space, `solidity`, and up to the
next semicolon what it asks for, of which the first character is white space and not the only one. -/
inductive Asks : Text → Text → Prop
  | mk {gap versions rest : Text} {c : Char} (gap_ne_nil : gap ≠ [])
      (gap_blank : ∀ c ∈ gap, Text.isBlank c = true) (blank : Text.isBlank c = true)
      (versions_ne_nil : versions ≠ []) (closed : ';' ∉ c :: versions) :
      Asks ("pragma".toList ++ (gap ++ ("solidity".toList ++ (c :: versions ++ ';' :: rest))))
        (c :: versions)

/-- White space is no part of a version. -/
theorem filter_blanks {gap : Text} (hgap : ∀ c ∈ gap, Text.isBlank c = true) :
    gap.filter isVersionChar = [] := by
  rw [List.filter_eq_nil_iff]
  intro c hc hversion
  have hdot : c ≠ '.' := by
    rintro rfl
    exact absurd (hgap _ hc) (by decide)
  rw [isVersionChar, Text.isDigit_of_isBlank (hgap c hc)] at hversion
  simp [hdot] at hversion

/-- A text begins with a pragma, read as far as its semicolon: what it asks for is white space and then
words that do not begin with any. Of both together there is more than one character. -/
inductive Worded : Text → Text → Text → Prop
  | mk {gap space words rest : Text} (gap_ne_nil : gap ≠ [])
      (gap_blank : ∀ c ∈ gap, Text.isBlank c = true) (space_ne_nil : space ≠ [])
      (space_blank : ∀ c ∈ space, Text.isBlank c = true)
      (starts : ∀ c ∈ words.head?, Text.isBlank c = false) (closed : ';' ∉ words)
      (more : (space ++ words).length ≠ 1) :
      Worded ("pragma".toList ++ (gap ++ ("solidity".toList ++ (space ++ (words ++ ';' :: rest)))))
        space words

variable {t asked space words versions : Text}

theorem Worded.space_blank (h : Worded t space words) : ∀ c ∈ space, Text.isBlank c = true := by
  cases h
  assumption

/-- What a pragma asks for is white space and words. -/
theorem Asks.worded (h : Asks t asked) : ∃ space words, asked = space ++ words ∧
    Worded t space words := by
  obtain @⟨gap, versions, rest, c, hgap, hblank, hc, hne, hclosed⟩ := h
  obtain ⟨space, words, hasked, -, hspace, hstarts⟩ := Header.exists_run Text.isBlank (c :: versions)
  -- the first character of what is asked for is white space
  have hspace_ne : space ≠ [] := by
    rintro rfl
    have hnot := hstarts c (by rw [← List.nil_append words, ← hasked]; rfl)
    rw [hc] at hnot
    cases hnot
  have hwords : ';' ∉ words := fun hmem => hclosed (hasked ▸ List.mem_append_right _ hmem)
  have hmore : (space ++ words).length ≠ 1 := by
    have hpos := List.length_pos_iff.mpr hne
    rw [← hasked, List.length_cons]
    omega
  refine ⟨space, words, hasked, ?_⟩
  rw [hasked, List.append_assoc]
  exact .mk hgap hblank hspace_ne hspace hstarts hwords hmore

theorem Worded.asks (h : Worded t space words) : Asks t (space ++ words) := by
  obtain @⟨gap, space, words, rest, hgap, hblank, hne, hspace, -, hclosed, hmore⟩ := h
  obtain ⟨c, space', rfl⟩ := List.exists_cons_of_ne_nil hne
  have hversions : space' ++ words ≠ [] := by
    intro hnil
    rw [List.cons_append, hnil] at hmore
    exact hmore rfl
  have hsemicolon : ';' ∉ c :: (space' ++ words) := by
    rw [← List.cons_append, List.mem_append, not_or]
    exact ⟨fun hmem => absurd (hspace _ hmem) (by decide), hclosed⟩
  rw [← List.append_assoc (c :: space')]
  exact .mk hgap hblank (hspace c (List.mem_cons_self ..)) hversions hsemicolon

/-- The words are read. If there are none, the last white space is. -/
theorem Worded.versionsHere?_eq (h : Worded t space words) :
    versionsHere? t = some (if words = [] then space.drop (space.length - 1) else words) := by
  obtain @⟨gap, space, words, rest, hgap, hblank, hne, hspace, hstarts, hclosed, hmore⟩ := h
  have hletter : Text.isBlank 's' = false := by decide
  have hsolidity : ∀ d ∈ ("solidity".toList ++ (space ++ (words ++ ';' :: rest))).head?,
      Text.isBlank d = false := by simpa using hletter
  have hwords : ∀ d ∈ (words ++ ';' :: rest).head?, Text.isBlank d = false := by
    cases words with
    | nil =>
        have hsemicolon : Text.isBlank ';' = false := by decide
        simpa using hsemicolon
    | cons d words => simpa using hstarts
  have hrun : ∀ d ∈ words, decide (d ≠ ';') = true := by
    intro d hd
    simpa using fun h : d = ';' => hclosed (h ▸ hd)
  have hend : ∀ d ∈ (';' :: rest).head?, decide (d ≠ ';') = false := by simp
  have hlonger : ¬ (words ++ ';' :: rest).length = words.length := by simp
  rw [versionsHere?, Header.after?_self]
  simp only [Header.blanksAhead_eq hblank hsolidity, Header.after?_self,
    Header.blanksAhead_eq hspace hwords, Header.takeWhile_run hrun hend, hgap, hne, hlonger,
    or_self, if_false]
  by_cases hnil : words = []
  · rw [hnil, List.append_nil] at hmore
    rw [if_pos hnil, if_pos hnil, if_neg hmore]
  · rw [if_neg hnil, if_neg hnil]

theorem worded_of_versionsHere? (h : versionsHere? t = some versions) :
    ∃ space words, Worded t space words := by
  unfold versionsHere? at h
  split at h
  · cases h
  · rename_i t₁ hpragma
    obtain ⟨gap, t₂, rfl, hgap, hblank, -⟩ := Header.blanksAhead_spec t₁
    simp only [hgap] at h
    split at h
    · cases h
    · rename_i t₃ hsolidity
      obtain ⟨space, t₄, rfl, hspace, hspace_blank, hstarts⟩ := Header.blanksAhead_spec t₃
      obtain ⟨words, rest, rfl, htake, hwords, hsemi⟩ := Header.exists_run (· ≠ ';') t₄
      simp only [hspace, htake] at h
      split at h
      · cases h
      · rename_i hnot
        obtain ⟨hne, hne', hlonger⟩ :
            gap ≠ [] ∧ space ≠ [] ∧ (words ++ rest).length ≠ words.length := by
          simpa only [not_or] using hnot
        -- the words end before the text does, so a semicolon ends them
        obtain ⟨d, rest, rfl⟩ : ∃ d rest', rest = d :: rest' := by
          refine List.exists_cons_of_ne_nil ?_
          rintro rfl
          exact hlonger (by rw [List.append_nil])
        obtain rfl : d = ';' := by simpa using hsemi d rfl
        have hstarts' : ∀ c ∈ words.head?, Text.isBlank c = false := by
          intro c hc
          apply hstarts
          rw [List.head?_append, hc]
          rfl
        have hclosed : ';' ∉ words := fun hmem => absurd (hwords _ hmem) (by simp)
        -- a single white space character is not read
        have hmore : (space ++ words).length ≠ 1 := by
          intro hone
          have hpos := List.length_pos_iff.mpr hne'
          rw [List.length_append] at hone
          have hnil : words = [] := List.length_eq_zero_iff.mp (by omega)
          rw [hnil, if_pos rfl, if_pos (by rw [hnil] at hone; simpa using hone)] at h
          cases h
        rw [Text.after?_eq_some_iff.mp hpragma, Text.after?_eq_some_iff.mp hsolidity]
        exact ⟨space, words, .mk hne hblank hne' hspace_blank hstarts' hclosed hmore⟩

/-- Of what a pragma asks for, white space at its beginning can be left out. -/
theorem versionsHere?_of_asks (h : Asks t asked) : ∃ versions, versionsHere? t = some versions ∧
    versions.filter isVersionChar = asked.filter isVersionChar := by
  obtain ⟨space, words, rfl, hworded⟩ := h.worded
  refine ⟨_, hworded.versionsHere?_eq, ?_⟩
  rw [List.filter_append, filter_blanks hworded.space_blank, List.nil_append]
  by_cases hnil : words = []
  · rw [if_pos hnil, hnil, List.filter_nil]
    exact filter_blanks fun d hd => hworded.space_blank d (List.mem_of_mem_drop hd)
  · rw [if_neg hnil]

theorem finds_versionsHere? : Finds versionsHere? Asks := by
  intro t
  constructor
  · rintro ⟨versions, h⟩
    obtain ⟨space, words, hworded⟩ := worded_of_versionsHere? h
    exact ⟨space ++ words, hworded.asks⟩
  · rintro ⟨asked, h⟩
    obtain ⟨versions, hversions, -⟩ := versionsHere?_of_asks h
    exact ⟨versions, hversions⟩

/-- The version that a source with these words in its first pragma is compiled with. -/
theorem compilerVersion_of_first (d : CompilerDefaults) (h : StandsFirst Asks source found) :
    compilerVersion d source = if found.filter isVersionChar = [] then d.defaultCompilerVersion
      else d.fullVersion (found.filter isVersionChar) := by
  obtain ⟨rest, hasks, hfirst⟩ := finds_versionsHere?.firstAnywhere_eq h
  obtain ⟨versions, hversions, hsame⟩ := versionsHere?_of_asks hasks
  unfold compilerVersion
  rw [hfirst, hversions]
  simp only [hsame]

theorem compilerVersion_of_nowhere (d : CompilerDefaults) (h : StandsNowhere Asks source) :
    compilerVersion d source = d.defaultCompilerVersion := by
  unfold compilerVersion
  rw [finds_versionsHere?.firstAnywhere_eq_none h]

/-! ## Both -/

/-- **The metadata of a source are what stands first in it**, for every source. The name is that of the
first declaration of a contract, or else `Contract`; the version is what is left of the first pragma
when only digits and points are kept, or else the default. One of both is always the case
(`standsFirst_or_nowhere`). The name is a word, so the source is staged in a file of just that name. -/
theorem metadata_stands_first (d : CompilerDefaults) (source : Text) :
    let found := metadata d source
    (∀ name, StandsFirst Declares source name → found.name = name) ∧
      (StandsNowhere Declares source → found.name = "Contract".toList) ∧
      (∀ asked, StandsFirst Asks source asked →
        let version := asked.filter fun c => c = '.' || Text.isDigit c
        found.compilerVersion = if version = [] then d.defaultCompilerVersion
          else 'v' :: (version ++ '+' :: d.commitSuffix)) ∧
      (StandsNowhere Asks source → found.compilerVersion = d.defaultCompilerVersion) ∧
      found.name ≠ [] ∧ Flatten.safeName found.name = found.name ∧
      ∀ (f : Flattener) scratch t text directory file staged,
        f.stage scratch t text found.name = .ok (directory, file, staged) →
          file.parent = directory ∧ file.name = found.name ++ ".sol".toList := by
  intro found
  obtain ⟨hname, hwords⟩ := contractName_word source
  have hsafe : Flatten.safeName found.name = found.name := safeName_of_word hname hwords
  refine ⟨fun name h => contractName_of_first h, contractName_of_nowhere,
    fun asked h => compilerVersion_of_first d h, compilerVersion_of_nowhere d, hname, hsafe, ?_⟩
  intro f scratch t text directory file staged hstage
  obtain ⟨-, -, -, -, rfl, -⟩ := Flattener.steps_of_stage hstage
  rw [hsafe]
  exact ⟨Flatten.parent_stagedFile _ _, Flatten.name_stagedFile _ _⟩

example : metadata {} "contract; subcontract\t Foo pragma solidity\n>=0.8.1, <0.9;".toList =
    ⟨"Foo".toList, "v0.8.10.9+commit.7dd6d404".toList⟩ := by decide

end Solidity

end ContractVerifier
