import ContractVerifier.Proofs.Files.Places
import ContractVerifier.Proofs.Flatten.Walk

set_option autoImplicit false

/-! # What every run of the walk does, whether it succeeds or not

What every visit of an import keeps, going through a text keeps (`walkPieces_keeps`). It follows
that a run reads nothing but what the files before it import (`mem_reads_inline`), and that it does
not come to the end of its depth if that is as much as there are files (`inline_room`): each file
inlined is one that the walk had not come to before. Runs on two trees are the same where imports
lead to the same files with the same texts (`walkGraph_congr`).
-/

namespace ContractVerifier.Flatten

open Solidity

variable {t : Tree} {roots : Roots}

/-! ## All visits -/

/-- What every visit keeps, going through the pieces keeps, and its fault is that of a visit. -/
theorem walkPieces_keeps {visit : Import → Progress → Except Fault (Option Text) × Progress}
    {ps : List (Piece Import)} {done : List Text} {p : Progress} (Keeps : Progress → Prop)
    (hvisit : ∀ i ∈ ps.filterMap Piece.value?, ∀ p, Keeps p → Keeps (visit i p).2)
    (h : Keeps p) :
    Keeps (walkPieces visit ps done p).2 ∧
      ∀ e, (walkPieces visit ps done p).1 = .error e →
        ∃ i ∈ ps.filterMap Piece.value?, ∃ p', Keeps p' ∧ (visit i p').1 = .error e := by
  induction ps generalizing done p with
  | nil =>
      refine ⟨h, ?_⟩
      intro e he
      cases he
  | cons piece ps ih =>
      cases piece with
      | plain t' => exact ih hvisit h
      | found raw i =>
          have hi : Keeps (visit i p).2 := hvisit i (List.mem_cons_self ..) p h
          rw [walkPieces]
          split
          · rename_i e p₁ hr
            rw [hr] at hi
            refine ⟨hi, ?_⟩
            intro e' he'
            cases he'
            exact ⟨i, List.mem_cons_self .., p, h, by rw [hr]⟩
          · rename_i r p₁ hr
            rw [hr] at hi
            have hrest : ∀ j ∈ ps.filterMap Piece.value?, ∀ p, Keeps p → Keeps (visit j p).2 :=
              fun j hj => hvisit j (List.mem_cons_of_mem i hj)
            refine ⟨(ih hrest hi).1, ?_⟩
            intro e he
            obtain ⟨j, hj, p', hp', hfault⟩ := (ih hrest hi).2 e he
            exact ⟨j, List.mem_cons_of_mem i hj, p', hp', hfault⟩

/-! ## What is read -/

/-- **A run reads nothing but what it is led to**: what the files behind `here` import. -/
theorem mem_reads_inline {depth : Nat} {here l : Location} {text : Text} {p : Progress}
    (htext : t.readText (.ofLocation here) = .ok text)
    (hl : l ∈ (inline t roots depth here text p).2.reads) :
    l ∈ p.reads ∨ Relation.TransGen (Imports t roots) here l := by
  induction depth generalizing here text p l with
  | zero => exact .inl hl
  | succ depth ih =>
      rw [inline] at hl
      refine (walkPieces_keeps
        (fun p' => ∀ l ∈ p'.reads, l ∈ p.reads ∨ Relation.TransGen (Imports t roots) here l)
        ?_ (fun l hl => .inl hl)).1 l hl
      intro i hi p' hp' l hl
      have himports : ∀ {b}, leadsTo t roots here i.path = .ok (some b) → Imports t roots here b :=
        fun hlead => ⟨text, i, htext, hi, hlead⟩
      -- what is read from the file at `b` on is behind `here` as well
      have hbehind : ∀ {b text' out p''}, leadsTo t roots here i.path = .ok (some b) →
          t.readText (.ofLocation b) = .ok text' →
          inline t roots depth b text' ((p'.note b).read t b).2 = (out, p'') → l ∈ p''.reads →
          l ∈ p.reads ∨ Relation.TransGen (Imports t roots) here l := by
        intro b text' out p'' hlead htext' hinline hl
        have hp'' : (inline t roots depth b text' ((p'.note b).read t b).2).2 = p'' :=
          congrArg Prod.snd hinline
        rw [← hp''] at hl
        rcases ih htext' hl with hl | hbl
        · rcases List.mem_append.mp hl with hl | hl
          · exact hp' l hl
          · rw [List.mem_singleton] at hl
            exact .inr (hl ▸ .single (himports hlead))
        · exact .inr (.head (himports hlead) hbl)
      generalize hv : visitImport t roots (inline t roots depth) here i p' = v at hl
      have hvisit : Visit t roots (inline t roots depth) here i p' v :=
        hv ▸ visit_visitImport _ here i p'
      cases hvisit with
      | fault => exact hp' l hl
      | stays => exact hp' l hl
      | known => exact hp' l hl
      | unread hlead =>
          rcases List.mem_append.mp hl with hl | hl
          · exact hp' l hl
          · rw [List.mem_singleton] at hl
            exact .inr (hl ▸ .single (himports hlead))
      | broken hlead _ htext' hinline => exact hbehind hlead htext' hinline hl
      | entered hlead _ htext' hinline => exact hbehind hlead htext' hinline hl

/-- The walk reads the entry, and what it is led to from there. -/
theorem mem_reads_walkGraph {depth : Nat} {entry importRoot : Path} {l : Location}
    (hl : l ∈ (walkGraph depth t entry importRoot).2.reads) :
    ∃ e, t.resolve entry = .ok e ∧
      (l = e ∨ ∃ r, t.resolve importRoot = .ok r ∧
        Relation.TransGen (Imports t ⟨r, e.dropLast⟩) e l) := by
  have hinlined : ∀ {e r text out p}, t.resolve entry = .ok e → t.resolve importRoot = .ok r →
      t.readText (.ofLocation e) = .ok text →
      inline t ⟨r, e.dropLast⟩ (depth + 1) e text ⟨[e], [e], []⟩ = (out, p) → l ∈ p.reads →
      ∃ e, t.resolve entry = .ok e ∧
        (l = e ∨ ∃ r, t.resolve importRoot = .ok r ∧
          Relation.TransGen (Imports t ⟨r, e.dropLast⟩) e l) := by
    intro e r text out p he hr htext hinline hl
    have hp : (inline t ⟨r, e.dropLast⟩ (depth + 1) e text ⟨[e], [e], []⟩).2 = p :=
      congrArg Prod.snd hinline
    rw [← hp] at hl
    rcases mem_reads_inline htext hl with hl | hl
    · exact ⟨e, he, .inl (List.mem_singleton.mp hl)⟩
    · exact ⟨e, he, .inr ⟨r, hr, hl⟩⟩
  have hending := ending_walkGraph depth t entry importRoot
  generalize walkGraph depth t entry importRoot = w at hl hending
  cases hending with
  | unresolved => cases hl
  | unread he => exact ⟨_, he, .inl (List.mem_singleton.mp hl)⟩
  | rootless he => exact ⟨_, he, .inl (List.mem_singleton.mp hl)⟩
  | broken he htext hr hinline => exact hinlined he hr htext hinline hl
  | inlined he htext hr hinline => exact hinlined he hr htext hinline hl

/-! ## The depth -/

/-- There is room for the walk: the files it came to are all from `places`, and the depth that
is left is more than the number of those it did not come to. -/
structure Room (places : Finset Location) (depth : Nat) (p : Progress) : Prop where
  nodup : p.handled.Nodup
  subset : ∀ l ∈ p.handled, l ∈ places
  card_lt : places.card < depth + p.handled.length

namespace Room

variable {places : Finset Location} {depth : Nat} {p : Progress}

theorem succ (h : Room places depth p) : Room places (depth + 1) p :=
  ⟨h.nodup, h.subset, by have := h.card_lt; omega⟩

/-- The files come to are no more than there are places. -/
theorem depth_pos (h : Room places depth p) : 0 < depth := by
  have hcard : p.handled.length ≤ places.card := by
    rw [← List.toFinset_card_of_nodup h.nodup]
    apply Finset.card_le_card
    intro l hl
    exact h.subset l (List.mem_toFinset.mp hl)
  have := h.card_lt
  omega

/-- Coming to a new file uses up one of the depth. -/
theorem arrive (t : Tree) {b : Location} (h : Room places (depth + 1) p) (hnew : b ∉ p.handled)
    (hb : b ∈ places) : Room places depth ((p.note b).read t b).2 := by
  refine ⟨?_, ?_, ?_⟩
  · exact List.nodup_append.mpr ⟨h.nodup, List.nodup_singleton b, by
      intro a ha c hc
      rw [List.mem_singleton] at hc
      rintro rfl
      exact hnew (hc ▸ ha)⟩
  · intro l hl
    rcases List.mem_append.mp hl with hl | hl
    · exact h.subset l hl
    · rw [List.mem_singleton] at hl
      exact hl ▸ hb
  · have := h.card_lt
    simp only [Progress.read, Progress.note, List.length_append, List.length_singleton]
    omega

theorem finish {s : Section} (h : Room places depth p) : Room places depth (p.finish s) :=
  ⟨h.nodup, h.subset, h.card_lt⟩

end Room

theorem leadsTo_ne_deepImports (here : Location) (path : Text) :
    leadsTo t roots here path ≠ .error .deepImports := by
  rw [leadsTo]
  split
  · intro h
    cases h
  · split
    · intro h
      cases h
    · intro h
      cases h

theorem readText_ne_deepImports (path : Path) : t.readText path ≠ .error .deepImports := by
  rw [Tree.readText]
  split
  · intro h
    cases h
  · split
    · intro h
      cases h
    · intro h
      cases h

/-- With room for it, the walk does not come to the end of the depth, and room is left. -/
theorem inline_room {places : Finset Location}
    (hplaces : ∀ a path b, leadsTo t roots a path = .ok (some b) → b ∈ places) {depth : Nat}
    {here : Location} {text : Text} {p : Progress} (h : Room places depth p) :
    Room places depth (inline t roots depth here text p).2 ∧
      (inline t roots depth here text p).1 ≠ .error .deepImports := by
  induction depth generalizing here text p with
  | zero => exact absurd h.depth_pos (lt_irrefl 0)
  | succ depth ih =>
      -- a file that is entered is new, so it takes one of the places and one of the depth
      have hvisit : ∀ i p, Room places (depth + 1) p →
          Room places (depth + 1) (visitImport t roots (inline t roots depth) here i p).2 ∧
            (visitImport t roots (inline t roots depth) here i p).1 ≠ .error .deepImports := by
        intro i p h
        generalize hv : visitImport t roots (inline t roots depth) here i p = v
        have hvisit : Visit t roots (inline t roots depth) here i p v :=
          hv ▸ visit_visitImport _ here i p
        cases hvisit with
        | fault hlead =>
            refine ⟨h, ?_⟩
            rintro ⟨⟩
            exact leadsTo_ne_deepImports here i.path hlead
        | stays => exact ⟨h, by simp⟩
        | known => exact ⟨h, by simp⟩
        | unread hlead hb htext =>
            refine ⟨(h.arrive t hb (hplaces _ _ _ hlead)).succ, ?_⟩
            rintro ⟨⟩
            exact readText_ne_deepImports _ htext
        | @broken b text e p' hlead hb _ hinline =>
            have hin := @ih b text _ (h.arrive t hb (hplaces _ _ _ hlead))
            rw [hinline] at hin
            refine ⟨hin.1.succ, ?_⟩
            rintro ⟨⟩
            exact hin.2 rfl
        | @entered b text body p' hlead hb _ hinline =>
            have hin := @ih b text _ (h.arrive t hb (hplaces _ _ _ hlead))
            rw [hinline] at hin
            exact ⟨hin.1.succ.finish, by simp⟩
      rw [inline]
      have hkeeps := @walkPieces_keeps _ (pieces Import.recognise text) [] p
        (Room places (depth + 1)) (fun i _ p hp => (hvisit i p hp).1) h
      refine ⟨hkeeps.1, ?_⟩
      intro he
      obtain ⟨i, -, p', hp', hi⟩ := hkeeps.2 .deepImports he
      exact (hvisit i p' hp').2 hi

/-- What is a file is found. -/
theorem exists_find_of_isFile {path : Path} (h : t.isFile path = .ok true) :
    ∃ l bytes, t.find path = .ok (l, .file bytes) := by
  rw [Tree.isFile] at h
  split at h
  · rename_i l bytes hfind
    exact ⟨l, bytes, hfind⟩
  · cases h
  · cases h
  · cases h

theorem isFile_of_leadsTo {here b : Location} {path : Text}
    (h : leadsTo t roots here path = .ok (some b)) :
    t.resolve (candidate roots here path) = .ok b ∧ t.isFile (.ofLocation b) = .ok true ∧
      roots.allow b = true := by
  rw [leadsTo] at h
  split at h
  · cases h
  · rename_i target htarget
    split at h
    · cases h
    · rename_i isFile hfile
      rw [Except.ok.injEq, Option.ite_none_right_eq_some] at h
      obtain ⟨hboth, hb⟩ := h
      obtain rfl := Option.some.inj hb
      obtain ⟨rfl, hallow⟩ := Bool.and_eq_true_iff.mp hboth
      exact ⟨htarget, hfile, hallow⟩

theorem mem_places_of_leadsTo {here b : Location} {path : Text}
    (h : leadsTo t roots here path = .ok (some b)) : b ∈ t.places 2047 := by
  obtain ⟨hresolve, hfile, -⟩ := isFile_of_leadsTo h
  obtain ⟨l, bytes, hfind⟩ := exists_find_of_isFile hfile
  exact Tree.mem_places_of_find (Tree.proper_of_resolve hresolve) hfind

theorem exists_find_of_readText {path : Path} {text : Text} (h : t.readText path = .ok text) :
    ∃ l bytes, t.find path = .ok (l, .file bytes) := by
  rw [Tree.readText, Tree.readBytes] at h
  split at h
  · cases h
  · rename_i hbytes
    split at hbytes
    · rename_i l bytes hfind
      exact ⟨l, bytes, hfind⟩
    · cases hbytes
    · cases hbytes

/-! ## Runs that are the same -/

theorem walkPieces_congr {visit₁ visit₂ : Import → Progress → Except Fault (Option Text) × Progress}
    {ps : List (Piece Import)} {done : List Text} {p : Progress}
    (hvisit : ∀ i ∈ ps.filterMap Piece.value?, ∀ p, visit₁ i p = visit₂ i p) :
    walkPieces visit₁ ps done p = walkPieces visit₂ ps done p := by
  induction ps generalizing done p with
  | nil => rfl
  | cons piece ps ih =>
      cases piece with
      | plain t' => exact ih hvisit
      | found raw i =>
          have hrest : ∀ j ∈ ps.filterMap Piece.value?, ∀ p, visit₁ j p = visit₂ j p :=
            fun j hj => hvisit j (List.mem_cons_of_mem i hj)
          rw [walkPieces, walkPieces, hvisit i (List.mem_cons_self ..) p]
          obtain ⟨_ | r, p'⟩ := visit₂ i p
          · rfl
          · exact ih hrest

theorem visitImport_congr {t₁ t₂ : Tree} {here : Location} {i : Import} {p : Progress}
    {inline₁ inline₂ : Location → Text → Progress → Except Fault Text × Progress}
    (hlead : leadsTo t₁ roots here i.path = leadsTo t₂ roots here i.path)
    (hread : ∀ b, leadsTo t₁ roots here i.path = .ok (some b) →
      t₁.readText (.ofLocation b) = t₂.readText (.ofLocation b))
    (hinline : ∀ b text p, leadsTo t₁ roots here i.path = .ok (some b) →
      t₁.readText (.ofLocation b) = .ok text → inline₁ b text p = inline₂ b text p) :
    visitImport t₁ roots inline₁ here i p = visitImport t₂ roots inline₂ here i p := by
  rw [visitImport, visitImport, ← hlead]
  cases hb : leadsTo t₁ roots here i.path with
  | error e => rfl
  | ok target =>
      cases target with
      | none => rfl
      | some b =>
          have hreads : (p.note b).read t₁ b = (p.note b).read t₂ b := by
            rw [Progress.read, Progress.read, hread b hb]
          simp only [← hreads]
          by_cases hknown : b ∈ p.handled
          · simp only [if_pos hknown]
          simp only [if_neg hknown]
          cases htext : t₁.readText (.ofLocation b) with
          | error e =>
              have hfst : (p.note b).read t₁ b = (.error e, ((p.note b).read t₁ b).2) :=
                Prod.ext htext rfl
              rw [hfst]
          | ok text =>
              have hfst : (p.note b).read t₁ b = (.ok text, ((p.note b).read t₁ b).2) :=
                Prod.ext htext rfl
              rw [hfst]
              simp only [hinline b text _ hb htext]

/-- **The rest of the tree does not matter**: where imports lead to the same files with the same
texts, runs are the same. -/
theorem inline_congr {t₁ t₂ : Tree} {depth : Nat} {here : Location} {text : Text} {p : Progress}
    (hlead : ∀ a text, Reaches t₁ roots here a → t₁.readText (.ofLocation a) = .ok text →
      ∀ i ∈ imports text, leadsTo t₁ roots a i.path = leadsTo t₂ roots a i.path)
    (hread : ∀ a b, Reaches t₁ roots here a → Imports t₁ roots a b →
      t₁.readText (.ofLocation b) = t₂.readText (.ofLocation b))
    (htext : t₁.readText (.ofLocation here) = .ok text) :
    inline t₁ roots depth here text p = inline t₂ roots depth here text p := by
  induction depth generalizing here text p with
  | zero => rfl
  | succ depth ih =>
      rw [inline, inline]
      apply walkPieces_congr
      intro i hi p
      have himports : ∀ b, leadsTo t₁ roots here i.path = .ok (some b) →
          Imports t₁ roots here b := fun b hb => ⟨text, i, htext, hi, hb⟩
      apply visitImport_congr
      · exact hlead here text .refl htext i hi
      · intro b hb
        exact hread here b .refl (himports b hb)
      · intro b text' p hb htext'
        apply ih
        · exact fun a text'' ha => hlead a text'' (.head (himports b hb) ha)
        · exact fun a c ha => hread a c (.head (himports b hb) ha)
        · exact htext'

theorem walkGraph_congr {depth : Nat} {t₁ t₂ : Tree} {entry importRoot : Path}
    (hentry : t₁.resolve entry = t₂.resolve entry)
    (hroot : t₁.resolve importRoot = t₂.resolve importRoot)
    (hread : ∀ e, t₁.resolve entry = .ok e →
      t₁.readText (.ofLocation e) = t₂.readText (.ofLocation e))
    (hinline : ∀ e r text p, t₁.resolve entry = .ok e → t₁.resolve importRoot = .ok r →
      t₁.readText (.ofLocation e) = .ok text →
      inline t₁ ⟨r, e.dropLast⟩ (depth + 1) e text p =
        inline t₂ ⟨r, e.dropLast⟩ (depth + 1) e text p) :
    walkGraph depth t₁ entry importRoot = walkGraph depth t₂ entry importRoot := by
  rw [walkGraph, walkGraph, ← hentry, ← hroot]
  cases he : t₁.resolve entry with
  | error x => rfl
  | ok e =>
      have hreads : Progress.start.read t₁ e = Progress.start.read t₂ e := by
        rw [Progress.read, Progress.read, hread e he]
      simp only [← hreads]
      cases htext : t₁.readText (.ofLocation e) with
      | error x =>
          have hfst : Progress.start.read t₁ e = (.error x, (Progress.start.read t₁ e).2) :=
            Prod.ext htext rfl
          rw [hfst]
      | ok text =>
          have hfst : Progress.start.read t₁ e = (.ok text, (Progress.start.read t₁ e).2) :=
            Prod.ext htext rfl
          rw [hfst]
          cases hr : t₁.resolve importRoot with
          | error x => rfl
          | ok r => simp only [hinline e r text _ he hr htext]

end ContractVerifier.Flatten
