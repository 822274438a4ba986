import ContractVerifier.Proofs.Text.Occurrences
import ContractVerifier.Registry.Basic

set_option autoImplicit false

/-! # What substitution leaves

A registry is gone through once, entry after entry, on a text that changes on the way. Whatever the
entries are, the text changes by replacing statements with their sources or with nothing
(`Replaces`). But a statement that was dealt with can come back: in a source that is put in after it
was dealt with (`BroughtBack`), or where something is taken out or put in, if what stands before
that place and what stands behind it make up a statement. `statement_comes_back` shows how.

If statements stay apart (`StaysApart`), nothing is made up, and only those statements are left that
are brought back (`broughtBack_of_substitute`).
-/

namespace ContractVerifier.Registry

open Text

variable {r : Registry}

/-! ## Entries -/

theorem substituteEntry_eq {entry : Text × Text} (h : entry.1 ≠ []) (t : Text) :
    substituteEntry entry t = .ok (put entry.1 entry.2 t) := by
  rw [substituteEntry, put_eq_of_cut? h]
  cases cut? entry.1 t with
  | none => rfl
  | some parts => simp only [if_neg h]

/-- With statements that are not empty nothing can go wrong. -/
theorem foldlM_substituteEntry {entries : List (Text × Text)} (h : ∀ e ∈ entries, e.1 ≠ [])
    (t : Text) :
    entries.foldlM (fun t entry => substituteEntry entry t) t =
      .ok (entries.foldl (fun t entry => put entry.1 entry.2 t) t) := by
  induction entries generalizing t with
  | nil => rfl
  | cons entry entries ih =>
      rw [List.foldlM_cons, substituteEntry_eq (h entry List.mem_cons_self)]
      exact ih (fun e he => h e (List.mem_cons_of_mem entry he)) _

theorem mem_statements {e : Text × Text} (he : e ∈ r.entries) : e.1 ∈ r.statements :=
  List.mem_map_of_mem he

/-! ## Replacing statements -/

/-- In one place a statement is replaced by its source or by nothing. -/
inductive Replaces (r : Registry) : Text → Text → Prop
  | mk {s x : Text} (before behind : Text) (h : (s, x) ∈ r.entries ∨ s ∈ r.statements ∧ x = []) :
      Replaces r (before ++ s ++ behind) (before ++ x ++ behind)

open Relation (ReflTransGen)

/-- What stands before a text stays as it is. -/
theorem replaces_append_left {t u : Text} (front : Text) (h : ReflTransGen r.Replaces t u) :
    ReflTransGen r.Replaces (front ++ t) (front ++ u) := by
  refine h.lift (front ++ ·) fun a b hab => ?_
  cases hab with
  | mk before behind h => simpa using Replaces.mk (front ++ before) behind h

theorem replaces_put {s x : Text} (hne : s ≠ [])
    (h : (s, x) ∈ r.entries ∨ s ∈ r.statements ∧ x = []) (t : Text) :
    ReflTransGen r.Replaces t (put s x t) := by
  have hmem : s ∈ r.statements := h.elim mem_statements And.left
  induction hn : t.length using Nat.strong_induction_on generalizing t x with
  | _ n ih =>
    rcases put_cases hne x t with ⟨-, hput⟩ | ⟨a, b, ht, -, hput⟩
    · rw [hput]
    · have hlt : b.length < n := by
        have hpos : 0 < s.length := List.length_pos_iff.mpr hne
        rw [← hn, ht, List.length_append, List.length_append]
        omega
      have hrest := replaces_append_left (a ++ x) (ih b.length hlt (.inr ⟨hmem, rfl⟩) b rfl)
      rw [hput, ht]
      exact .head (.mk a b h) hrest

/-- However often and in whatever order entries are gone through, statements are replaced one after
another. -/
theorem replaces_foldl (hnonempty : ∀ s ∈ r.statements, s ≠ []) {entries : List (Text × Text)}
    (h : entries ⊆ r.entries) (t : Text) :
    ReflTransGen r.Replaces t (entries.foldl (fun t entry => put entry.1 entry.2 t) t) := by
  induction entries generalizing t with
  | nil => exact .refl
  | cons entry entries ih =>
      have he : entry ∈ r.entries := h List.mem_cons_self
      exact (replaces_put (hnonempty _ (mem_statements he)) (.inl he) t).trans
        (ih (fun e he => h (List.mem_cons_of_mem entry he)) _)

/-! ## How statements come back -/

/-- No registered statement is unfinished at the end of the text. -/
def Closed (r : Registry) (t : Text) : Prop := ∀ s ∈ r.statements, ¬ Unfinished s t

/-- No registered statement stands behind another one that is unfinished. -/
def Apart (r : Registry) (t : Text) : Prop :=
  ∀ before s behind, t = before ++ s ++ behind → s ∈ r.statements → r.Closed before

/-- The entries that **come up** when the registry is gone through: their statement is in the text,
or in the source of another entry that comes up. -/
inductive ComesUp (r : Registry) (t : Text) : Text × Text → Prop
  | text {e : Text × Text} (he : e ∈ r.entries) (h : e.1 <:+: t) : ComesUp r t e
  | source {e e' : Text × Text} (h : ComesUp r t e) (he' : e' ∈ r.entries) (hin : e'.1 <:+: e.2) :
      ComesUp r t e'

/-- Statements **stay apart**: in the text and in the sources that come up, what stands before a
statement or at the end of a source is no beginning of a statement. -/
structure StaysApart (r : Registry) (t : Text) : Prop where
  text : r.Apart t
  sources : ∀ e, r.ComesUp t e → r.Apart e.2 ∧ r.Closed e.2

/-- A statement is **brought back** if an entry comes up, its own one or a later one, whose source
mentions it. -/
inductive BroughtBack (r : Registry) (t s : Text) : Prop
  | mk {earlier after : List (Text × Text)} {e e' : Text × Text}
      (hr : r.entries = earlier ++ e :: after) (hup : r.ComesUp t e)
      (he' : e' ∈ earlier ++ [e]) (hs : e'.1 = s) (hin : s <:+: e.2)

variable {s x t u : Text}

theorem closed_append (ht : r.Closed t) (hu : r.Closed u) : r.Closed (t ++ u) :=
  fun s hs => not_unfinished_append (ht s hs) (hu s hs)

theorem Apart.of_append (h : r.Apart (t ++ u)) : r.Apart u := by
  intro before s behind hu hs s' hs' hunfinished
  refine h (t ++ before) s behind ?_ hs s' hs' (hunfinished.of_suffix (List.suffix_append t before))
  rw [hu]
  simp

theorem apart_append (ht : r.Apart t) (hclosed : r.Closed t) (hu : r.Apart u) :
    r.Apart (t ++ u) := by
  intro before s behind h hs
  rcases occurrence_cases (hclosed s hs) h with ⟨rest, ht'⟩ | ⟨gap, rfl, hu'⟩
  · exact ht before s rest ht' hs
  · exact closed_append hclosed (hu gap s behind hu' hs)

theorem apart_nil (hnonempty : ∀ s ∈ r.statements, s ≠ []) : r.Apart [] := by
  intro before s behind h hs
  have hlength := congrArg List.length h
  have hpos : 0 < s.length := List.length_pos_iff.mpr (hnonempty s hs)
  rw [List.length_append, List.length_append, List.length_nil] at hlength
  omega

theorem closed_nil : r.Closed [] := fun s _ => not_unfinished_nil s

/-- **One entry** in a text whose statements are apart. They stay apart, and every statement that is
in the new text was in the source or, being another one, in the old text. -/
theorem apart_put (hnonempty : ∀ s ∈ r.statements, s ≠ []) (hs : s ∈ r.statements)
    (hx : r.Apart x ∧ r.Closed x) (ht : r.Apart t) :
    r.Apart (put s x t) ∧
      ∀ s' ∈ r.statements, s' <:+: put s x t → s' <:+: x ∨ s' ≠ s ∧ s' <:+: t := by
  induction hn : t.length using Nat.strong_induction_on generalizing t x with
  | _ n ih =>
    have hne : s ≠ [] := hnonempty s hs
    rcases put_cases hne x t with ⟨hnot, hput⟩ | ⟨a, b, hcut, hnot, hput⟩
    · rw [hput]
      refine ⟨ht, fun s' hs' hin => .inr ⟨?_, hin⟩⟩
      rintro rfl
      exact hnot hin
    · have ha : r.Closed a := ht a s b hcut hs
      have hlt : b.length < n := by
        have hpos : 0 < s.length := List.length_pos_iff.mpr hne
        rw [← hn, hcut, List.length_append, List.length_append]
        omega
      obtain ⟨hrest, hin⟩ := ih b.length hlt ⟨apart_nil hnonempty, closed_nil⟩
        (Apart.of_append (t := a ++ s) (hcut ▸ ht)) rfl
      have hapart : r.Apart a := by
        intro before s' behind h hs'
        refine ht before s' (behind ++ s ++ b) ?_ hs'
        rw [hcut, h]
        simp
      rw [hput]
      constructor
      · rw [List.append_assoc]
        exact apart_append hapart ha (apart_append hx.1 hx.2 hrest)
      · -- an occurrence does not run over the end of `a` or of `x`, so it is in one of the three
        rintro s' hs' ⟨before, behind, hoccurs⟩
        rw [List.append_assoc a] at hoccurs
        rcases occurrence_cases (ha s' hs') hoccurs.symm with ⟨rest, h⟩ | ⟨gap, -, h⟩
        · have hina : s' <:+: a := ⟨before, rest, h.symm⟩
          refine .inr ⟨?_, hina.trans ⟨[], s ++ b, by rw [hcut]; simp⟩⟩
          rintro rfl
          exact hnot hina
        · rcases occurrence_cases (hx.2 s' hs') h with ⟨rest, h⟩ | ⟨gap', -, h⟩
          · exact .inl ⟨gap, rest, h.symm⟩
          · rcases hin s' hs' ⟨gap', behind, h.symm⟩ with hnil | ⟨hne', hinb⟩
            · exact absurd (List.infix_nil.mp hnil) (hnonempty s' hs')
            · exact .inr ⟨hne', hinb.trans ⟨a ++ s, [], by rw [hcut]; simp⟩⟩

/-! ## Checking that nothing comes back -/

instance (s k : Text) : Decidable (Unfinished s k) :=
  decidable_of_iff (∃ n ∈ List.range s.length, n ≠ 0 ∧ s.take n <:+ k) <| by
    constructor
    · rintro ⟨n, hn, hpos, hsuffix⟩
      rw [List.mem_range] at hn
      refine ⟨s.take n, s.drop n, ?_, ?_, (List.take_append_drop n s).symm, hsuffix⟩
      · intro hnil
        have hlength := congrArg List.length hnil
        rw [List.length_take, List.length_nil] at hlength
        omega
      · rwa [Ne, List.drop_eq_nil_iff, not_le]
    · rintro ⟨begun, rest, hbegun, hrest, rfl, hsuffix⟩
      have hpos : 0 < rest.length := List.length_pos_iff.mpr hrest
      refine ⟨begun.length, ?_, fun h => hbegun (List.length_eq_zero_iff.mp h), ?_⟩
      · rw [List.mem_range, List.length_append]
        omega
      · rwa [List.take_left]

instance (r : Registry) (t : Text) : Decidable (r.Closed t) :=
  inferInstanceAs (Decidable (∀ s ∈ r.statements, ¬ Unfinished s t))

instance (r : Registry) (t : Text) : Decidable (r.Apart t) :=
  decidable_of_iff (∀ n ≤ t.length, ∀ s ∈ r.statements, s <+: t.drop n → r.Closed (t.take n)) <| by
    constructor
    · intro h before s behind ht hs
      have hdrop : t.drop before.length = s ++ behind := by
        rw [ht, List.append_assoc, List.drop_left]
      have htake : t.take before.length = before := by
        rw [ht, List.append_assoc, List.take_left]
      have hlength : before.length ≤ t.length := by
        rw [ht, List.length_append, List.length_append]
        omega
      rw [← htake]
      exact h _ hlength s hs ⟨behind, hdrop.symm⟩
    · rintro h n - s hs ⟨behind, hdrop⟩
      refine h (t.take n) s behind ?_ hs
      rw [List.append_assoc, hdrop, List.take_append_drop]

theorem ComesUp.mem {e : Text × Text} (h : r.ComesUp t e) : e ∈ r.entries := by
  cases h with
  | text he => exact he
  | source _ he => exact he

/-- It is enough to look at all sources, those that do not come up included. -/
theorem StaysApart.of_all (ht : r.Apart t)
    (hsources : ∀ e ∈ r.entries, r.Apart e.2 ∧ r.Closed e.2) : r.StaysApart t where
  text := ht
  sources e he := hsources e he.mem

/-- If no source mentions the statement of its own entry or of an earlier one, then nothing is
brought back. -/
theorem not_broughtBack (hself : ∀ e ∈ r.entries, ¬ e.1 <:+: e.2)
    (hlater : r.entries.Pairwise fun e' e => ¬ e'.1 <:+: e.2) : ¬ r.BroughtBack t s := by
  rintro ⟨hr, hup, he', rfl, hin⟩
  rcases List.mem_append.mp he' with hearlier | hlast
  · rw [hr, List.pairwise_append] at hlater
    exact hlater.2.2 _ hearlier _ List.mem_cons_self hin
  · rw [List.mem_singleton] at hlast
    rw [hlast] at hin
    exact hself _ hup.mem hin

/-! ## Going through a registry -/

/-- What holds of a text that the entries `done` made of `t`: its statements are apart, those of
`done` that are in it were brought back, and the entries of those that are in it come up in `t`. -/
structure Reached (r : Registry) (t : Text) (done : List (Text × Text)) (u : Text) : Prop where
  apart : r.Apart u
  left : ∀ e ∈ done, e.1 <:+: u → r.BroughtBack t e.1
  comesUp : ∀ e ∈ r.entries, e.1 <:+: u → r.ComesUp t e

theorem StaysApart.reached (h : r.StaysApart t) : r.Reached t [] t where
  apart := h.text
  left _ he := absurd he List.not_mem_nil
  comesUp _ he hin := .text he hin

/-- The next entry. -/
theorem Reached.step (hnonempty : ∀ s ∈ r.statements, s ≠ []) (hstays : r.StaysApart t)
    {earlier after : List (Text × Text)} {e : Text × Text} (hr : r.entries = earlier ++ e :: after)
    (h : r.Reached t earlier u) : r.Reached t (earlier ++ [e]) (put e.1 e.2 u) := by
  have he : e ∈ r.entries := by
    rw [hr]
    simp
  by_cases hin : e.1 <:+: u
  · have hup : r.ComesUp t e := h.comesUp e he hin
    obtain ⟨hapart, hfrom⟩ :=
      apart_put hnonempty (mem_statements he) (hstays.sources e hup) h.apart
    refine ⟨hapart, fun e' he' hin' => ?_, fun e' he' hin' => ?_⟩
    · have hmem : e' ∈ r.entries := by
        rw [hr]
        simp only [List.mem_append, List.mem_cons, List.not_mem_nil, or_false] at he' ⊢
        exact he'.imp_right .inl
      rcases hfrom e'.1 (mem_statements hmem) hin' with hsource | ⟨hne, hold⟩
      · exact .mk hr hup he' rfl hsource
      · rcases List.mem_append.mp he' with hearlier | hlast
        · exact h.left e' hearlier hold
        · rw [List.mem_singleton] at hlast
          exact absurd (congrArg Prod.fst hlast) hne
    · rcases hfrom e'.1 (mem_statements he') hin' with hsource | ⟨-, hold⟩
      · exact .source hup he' hsource
      · exact h.comesUp e' he' hold
  · rw [put_of_not_isInfix hin]
    refine ⟨h.apart, fun e' he' hin' => ?_, h.comesUp⟩
    rcases List.mem_append.mp he' with hearlier | hlast
    · exact h.left e' hearlier hin'
    · rw [List.mem_singleton] at hlast
      rw [hlast] at hin'
      exact absurd hin' hin

/-- All entries that are left. -/
theorem Reached.run (hnonempty : ∀ s ∈ r.statements, s ≠ []) (hstays : r.StaysApart t)
    {done entries : List (Text × Text)} (hr : r.entries = done ++ entries)
    (h : r.Reached t done u) :
    r.Reached t r.entries (entries.foldl (fun t entry => put entry.1 entry.2 t) u) := by
  induction entries generalizing done u with
  | nil =>
      rw [hr, List.append_nil]
      exact h
  | cons e entries ih =>
      refine ih ?_ (h.step hnonempty hstays hr)
      rw [hr]
      simp

/-- **Substitution leaves what is brought back, and nothing else, where statements stay apart.** For
every registry with statements that are not empty and every text it has a result, and the result
comes from the text by replacing statements, one after another, each with its source or with
nothing. If statements stay apart, every registered statement that is in the result was brought back
by the source of its own entry or of a later one. -/
theorem broughtBack_of_substitute (hnonempty : ∀ s ∈ r.statements, s ≠ []) (t : Text) :
    ∃ result, r.substitute t = .ok result ∧ ReflTransGen r.Replaces t result ∧
      (r.StaysApart t → ∀ s ∈ r.statements, s <:+: result → r.BroughtBack t s) := by
  have hentries : ∀ e ∈ r.entries, e.1 ≠ [] := fun e he => hnonempty e.1 (mem_statements he)
  refine ⟨_, foldlM_substituteEntry hentries t, replaces_foldl hnonempty (List.Subset.refl _) t, ?_⟩
  intro hstays s hs
  obtain ⟨e, he, rfl⟩ := List.mem_map.mp hs
  exact (hstays.reached.run hnonempty hstays (List.nil_append _).symm).left e he

/-- A registry whose first source mentions the statement of its second one. -/
def downwards : Registry :=
  ⟨['r'], ['1'],
    [("import 'A';".toList, "import 'B';\ncontract A {}".toList),
     ("import 'B';".toList, "contract B {}".toList)]⟩

/-- Both statements go, the second one also where the first source brought it. -/
theorem substitute_downwards : ∃ result,
    downwards.substitute "import 'A';\nimport 'B';\n".toList = .ok result ∧
      ∀ s ∈ downwards.statements, ¬ s <:+: result := by
  have hstays : downwards.StaysApart "import 'A';\nimport 'B';\n".toList :=
    .of_all (by decide +kernel) (by decide +kernel)
  obtain ⟨result, hresult, -, hleft⟩ := broughtBack_of_substitute (r := downwards)
    (by decide +kernel) "import 'A';\nimport 'B';\n".toList
  refine ⟨result, hresult, fun s hs hin => ?_⟩
  exact not_broughtBack (by decide +kernel) (by decide +kernel) (hleft hstays s hs hin)

/-- A statement of the text can be in the result all the same: a later source brings it back, its
own source mentions it, or what stood around a dropped one makes it up. -/
theorem statement_comes_back :
    let registry (entries : List (String × String)) : Registry :=
      ⟨['r'], ['1'], entries.map fun e => (e.1.toList, e.2.toList)⟩
    let comesBack (entries : List (String × String)) (text result : String) : Prop :=
      "import 'A';".toList ∈ (registry entries).statements ∧ "import 'A';".toList <:+: text.toList ∧
        (registry entries).substitute text.toList = .ok result.toList ∧
          "import 'A';".toList <:+: result.toList
    comesBack [("import 'A';", "contract A {}"), ("import 'B';", "import 'A';\ncontract B {}")]
        "import 'A';\nimport 'B';\n" "contract A {}\nimport 'A';\ncontract B {}\n" ∧
      comesBack [("import 'A';", "// import 'A';\ncontract A {}")]
        "import 'A';\n" "// import 'A';\ncontract A {}\n" ∧
      comesBack [("import 'A';", "contract A {}")]
        "import 'A';\nimpimport 'A';ort 'A';\n" "contract A {}\nimport 'A';\n" := by
  intro registry comesBack
  refine ⟨⟨?_, ?_, ?_, ?_⟩, ⟨?_, ?_, ?_, ?_⟩, ?_, ?_, ?_, ?_⟩
  all_goals first | decide +kernel | rfl

end ContractVerifier.Registry
