import ContractVerifier.Proofs.Files.Settled
import ContractVerifier.Registry.Reader
import Mathlib.Data.Finset.Card

set_option autoImplicit false

/-! # Trees with the same directories and links

Two trees that differ in their files alone (`SameSkeleton`) resolve every path to the same
location (`SameSkeleton.resolve_eq`): the links of both are followed alike, and a walk that comes
to a place where the trees differ has come to a file or to nothing in each of them (`Astray`), so
that it does not end in a loop of links. Where the trees agree at a settled location, they agree
on what is found there.
-/

namespace ContractVerifier.Tree

variable {t t₁ t₂ : Tree}

/-- The trees have the same directories and the same links. -/
structure SameSkeleton (t₁ t₂ : Tree) : Prop where
  directory_iff : ∀ l, t₁.node? l = some .directory ↔ t₂.node? l = some .directory
  link?_eq : ∀ l, t₁.link? l = t₂.link? l

theorem SameSkeleton.symm (h : SameSkeleton t₁ t₂) : SameSkeleton t₂ t₁ :=
  ⟨fun l => (h.directory_iff l).symm, fun l => (h.link?_eq l).symm⟩

theorem SameSkeleton.settled {l : Location} (h : SameSkeleton t₁ t₂) (hl : t₁.Settled l) :
    t₂.Settled l :=
  ⟨hl.proper, fun k hk => (h.link?_eq k).symm.trans (hl.link?_eq_none k hk)⟩

/-! ## The depth of links -/

/-- The depth is enough: there are at most so many links that are not being followed. -/
def Enough (t : Tree) (seen : Seen) (depth : Nat) : Prop :=
  ∃ links : Finset Location, (∀ l, t.link? l ≠ none → l ∈ links) ∧
    (links.filter fun l => seen.lookup l ≠ some none).card ≤ depth

theorem enough_start (t : Tree) : Enough t [] (t.entries.length + 1) := by
  refine ⟨(t.entries.map Prod.fst).toFinset, ?_, ?_⟩
  · intro l hl
    rw [List.mem_toFinset]
    have hne : l ≠ [] := by
      rintro rfl
      exact hl rfl
    cases hnode : t.node? l with
    | none => exact absurd (by rw [link?, hnode]) hl
    | some node => exact mem_entries_of_node? hne hnode
  · calc ((t.entries.map Prod.fst).toFinset.filter _).card
        ≤ (t.entries.map Prod.fst).toFinset.card := Finset.card_filter_le ..
      _ ≤ (t.entries.map Prod.fst).length := List.toFinset_card_le _
      _ ≤ t.entries.length + 1 := by rw [List.length_map]; omega

/-- Links that are being followed take nothing of the depth. -/
theorem Enough.mono {seen seen' : Seen} {depth : Nat} (h : Enough t seen depth)
    (hkeep : ∀ k, seen.lookup k = some none → seen'.lookup k = some none) :
    Enough t seen' depth := by
  obtain ⟨links, hlinks, hcard⟩ := h
  refine ⟨links, hlinks, le_trans (Finset.card_le_card ?_) hcard⟩
  exact Finset.monotone_filter_right links fun l _ hl hnone => hl (hkeep l hnone)

/-- A link that was not met yet uses up one of the depth. -/
theorem Enough.push {seen : Seen} {depth : Nat} {next : Location} (h : Enough t seen depth)
    (hlink : t.link? next ≠ none) (hnew : seen.lookup next = none) :
    ∃ d, depth = d + 1 ∧ Enough t ((next, none) :: seen) d := by
  obtain ⟨links, hlinks, hcard⟩ := h
  have hmem : next ∈ links.filter fun l => seen.lookup l ≠ some none := by
    rw [Finset.mem_filter, hnew]
    exact ⟨hlinks next hlink, by simp⟩
  have hsub : (links.filter fun l => List.lookup l ((next, none) :: seen) ≠ some none) ⊆
      (links.filter fun l => seen.lookup l ≠ some none).erase next := by
    intro l hl
    rw [Finset.mem_filter, List.lookup_cons] at hl
    rw [Finset.mem_erase, Finset.mem_filter]
    split at hl
    · exact absurd rfl hl.2
    · rename_i hne
      exact ⟨by simpa using hne, hl⟩
  have hle := Finset.card_le_card hsub
  rw [Finset.card_erase_of_mem hmem] at hle
  have hpos := Finset.card_pos.mpr ⟨next, hmem⟩
  exact ⟨depth - 1, by omega, links, hlinks, by omega⟩

/-! ## Following links one name at a time -/

/-- One step along the name of an entry. -/
theorem follow_name {depth : Nat} {here : Location} {name : Text} {rest : List Text} {seen : Seen}
    (hname : IsName name) :
    follow t depth here (name :: rest) seen =
      match t.link? (here ++ [name]) with
      | none => follow t depth (here ++ [name]) rest seen
      | some target =>
        match seen.lookup (here ++ [name]) with
        | some (some l) => follow t depth l rest seen
        | some none => ⟨append (here ++ [name]) rest, false, seen⟩
        | none =>
          match depth with
          | 0 => ⟨append (here ++ [name]) rest, false, seen⟩
          | depth + 1 =>
            let reached := follow t depth (if target.head? = some '/' then [] else here)
              (Text.split '/' target) ((here ++ [name], none) :: seen)
            if reached.complete then
              follow t (depth + 1) reached.names rest
                ((here ++ [name], some reached.names) :: reached.seen)
            else ⟨append reached.names rest, false, reached.seen⟩ := by
  rw [follow, if_neg hname.not_blank]
  exact if_neg hname.not_up

/-- What is known of a link that is being followed does not change when a new one is met. -/
theorem lookup_cons_of_new {seen seen' : Seen} {k next : Location} {led : Option Location}
    (hk : seen.lookup k = some none) (hnew : seen.lookup next = none) :
    List.lookup k ((next, led) :: seen') = seen'.lookup k := by
  have hne : k ≠ next := by
    rintro rfl
    rw [hk] at hnew
    cases hnew
  rw [List.lookup_cons, beq_false_of_ne hne]

/-- A link that is being followed still is when the links behind it were followed. -/
theorem lookup_seen_follow {depth : Nat} {here : Location} {rest : List Text} {seen : Seen}
    {k : Location} (h : seen.lookup k = some none) :
    (follow t depth here rest seen).seen.lookup k = some none := by
  fun_induction follow t depth here rest seen with
  | case1 => exact h
  | case2 _ _ _ _ _ _ ih => exact ih h
  | case3 _ _ _ _ _ ih => exact ih h
  | case4 _ _ _ _ _ _ _ _ _ ih => exact ih h
  | case5 _ _ _ _ _ _ _ _ _ _ _ _ ih => exact ih h
  | case6 => exact h
  | case7 => exact h
  | case8 _ _ _ _ _ _ _ _ _ hnew _ _ _ _ ih _ ih' =>
      have hkeep := ih ((lookup_cons_of_new h hnew).trans h)
      exact ih' ((lookup_cons_of_new h hnew).trans hkeep)
  | case9 _ _ _ _ _ _ _ _ _ hnew _ _ _ _ ih => exact ih ((lookup_cons_of_new h hnew).trans h)

/-- The depth does not matter as long as it is enough. -/
theorem follow_congr {depth₁ : Nat} {here : Location} {rest : List Text} {seen : Seen}
    (hlink : ∀ l, t₁.link? l = t₂.link? l) (h₁ : Enough t₁ seen depth₁) :
    ∀ depth₂, Enough t₂ seen depth₂ →
      follow t₁ depth₁ here rest seen = follow t₂ depth₂ here rest seen := by
  fun_induction follow t₁ depth₁ here rest seen with
  | case1 =>
      intro depth₂ _
      rw [follow]
  | case2 _ _ _ _ _ hblank ih =>
      intro depth₂ h₂
      rw [ih h₁ depth₂ h₂]
      conv_rhs => rw [follow, if_pos hblank]
  | case3 _ _ _ _ hblank ih =>
      intro depth₂ h₂
      rw [ih h₁ depth₂ h₂]
      conv_rhs => rw [follow, if_neg hblank, if_pos rfl]
  | case4 _ _ _ _ _ hblank hup next hnone ih =>
      intro depth₂ h₂
      rw [ih h₁ depth₂ h₂, follow_name (isName_of_not hblank hup), ← hlink, hnone]
  | case5 _ _ _ _ _ hblank hup next _ htarget _ hlookup ih =>
      -- a link that was followed before
      intro depth₂ h₂
      rw [ih h₁ depth₂ h₂, follow_name (isName_of_not hblank hup), ← hlink, htarget, hlookup]
  | case6 _ _ _ _ _ hblank hup next _ htarget hlookup =>
      -- a link that is being followed
      intro depth₂ h₂
      rw [follow_name (isName_of_not hblank hup), ← hlink, htarget, hlookup]
  | case7 _ _ _ _ _ _ next _ htarget hnew =>
      -- a new link where no depth is left, so that the depth was not enough
      obtain ⟨d, hd, -⟩ := h₁.push (by rw [htarget]; simp) hnew
      cases hd
  | case8 here seen _ _ hblank hup next target htarget hnew d _ reached hcomplete ih _ ih' =>
      -- a new link that can be followed to the end
      intro depth₂ h₂
      have htarget₂ : t₂.link? next = some target := (hlink next).symm.trans htarget
      obtain ⟨d₁, hd₁, hinner₁⟩ := h₁.push (by rw [htarget]; simp) hnew
      obtain ⟨d₂, rfl, hinner₂⟩ := h₂.push (by rw [htarget₂]; simp) hnew
      obtain rfl : d = d₁ := Nat.succ.inj hd₁
      have hreached : follow t₂ d₂ (if target.head? = some '/' then [] else here)
          (Text.split '/' target) ((next, none) :: seen) = reached := (ih hinner₁ d₂ hinner₂).symm
      have hkeep : ∀ k, seen.lookup k = some none →
          List.lookup k ((next, some reached.names) :: reached.seen) = some none := by
        intro k hk
        rw [lookup_cons_of_new hk hnew]
        exact lookup_seen_follow ((lookup_cons_of_new hk hnew).trans hk)
      rw [ih' (h₁.mono hkeep) (d₂ + 1) (h₂.mono hkeep), follow_name (isName_of_not hblank hup),
        htarget₂, hnew]
      simp only [next] at hreached
      simp only [hreached, if_pos hcomplete, next]
  | case9 here seen _ _ hblank hup next target htarget hnew d _ reached hcomplete ih =>
      -- a new link that cannot
      intro depth₂ h₂
      have htarget₂ : t₂.link? next = some target := (hlink next).symm.trans htarget
      obtain ⟨d₁, hd₁, hinner₁⟩ := h₁.push (by rw [htarget]; simp) hnew
      obtain ⟨d₂, rfl, hinner₂⟩ := h₂.push (by rw [htarget₂]; simp) hnew
      obtain rfl : d = d₁ := Nat.succ.inj hd₁
      have hreached : follow t₂ d₂ (if target.head? = some '/' then [] else here)
          (Text.split '/' target) ((next, none) :: seen) = reached := (ih hinner₁ d₂ hinner₂).symm
      rw [follow_name (isName_of_not hblank hup), htarget₂, hnew]
      simp only [next] at hreached
      simp only [hreached, if_neg hcomplete]

/-! ## Walking -/

theorem link?_eq_some_iff {l : Location} {target : Text} :
    t.link? l = some target ↔ t.node? l = some (.link target) := by
  unfold link?
  split
  · rename_i target' h
    simp [h]
  · rename_i h
    constructor
    · intro hnone
      cases hnone
    · intro hlink
      exact absurd hlink (h target)

/-- There is a file at the location, or nothing. -/
def Ends (t : Tree) (l : Location) : Prop :=
  t.node? l = none ∨ ∃ bytes, t.node? l = some (.file bytes)

/-- Where trees with the same directories and links differ, neither goes on. -/
theorem SameSkeleton.ends (h : SameSkeleton t₁ t₂) {l : Location}
    (hne : t₁.node? l ≠ t₂.node? l) : t₁.Ends l := by
  cases h₁ : t₁.node? l with
  | none => exact .inl h₁
  | some node =>
      cases node with
      | file bytes => exact .inr ⟨bytes, h₁⟩
      | directory => exact absurd (h₁.trans ((h.directory_iff l).mp h₁).symm) hne
      | link target =>
          have h₂ : t₂.link? l = some target := (h.link?_eq l).symm.trans (link?_eq_some_iff.mpr h₁)
          exact absurd (h₁.trans (link?_eq_some_iff.mp h₂).symm) hne

/-- What becomes of a walk that comes to a place where the trees differ. -/
inductive Astray (t₁ t₂ : Tree) : Except FileError Location → Prop
  | notFound : Astray t₁ t₂ (.error .notFound)
  | notDirectory : Astray t₁ t₂ (.error .notDirectory)
  | arrived {l : Location} (h : t₁.node? l ≠ t₂.node? l) : Astray t₁ t₂ (.ok l)

/-- The answers are the same, or both walks went astray. -/
def Agree (t₁ t₂ : Tree) (r₁ r₂ : Except FileError Location) : Prop :=
  r₁ = r₂ ∨ Astray t₁ t₂ r₁ ∧ Astray t₁ t₂ r₂

section

variable {last : Bool} {links : Nat} {here : Location} {name : Text} {rest : List Text}

/-- A walk to a place where the trees differ goes astray there, in both of them. -/
theorem astray_of_ends (hhere : t.node? here = some .directory) (hname : IsName name)
    (hlength : ¬ maxName < (Utf8.encode name).length) (hends : t.Ends (here ++ [name]))
    (hne : t₁.node? (here ++ [name]) ≠ t₂.node? (here ++ [name])) :
    Astray t₁ t₂ (t.walk last links here (name :: rest)) := by
  rw [walk_name hhere hname, if_neg hlength]
  rcases hends with hnone | ⟨bytes, hfile⟩
  · simp only [hnone]
    exact .notFound
  · simp only [hfile]
    cases rest with
    | nil =>
        rw [walk]
        exact .arrived hne
    | cons name' rest =>
        rw [walk_of_not_directory (by rw [hfile]; simp)]
        exact .notDirectory

/-- The walks agree behind a name if they do where the trees are the same. -/
theorem SameSkeleton.agree_name (h : SameSkeleton t₁ t₂) (hhere : t₁.node? here = some .directory)
    (hname : IsName name) (hshort : ¬ maxName < (Utf8.encode name).length)
    (hsame : t₂.node? here = some .directory →
      t₂.node? (here ++ [name]) = t₁.node? (here ++ [name]) →
        Agree t₁ t₂ (t₁.walk last links here (name :: rest))
          (t₂.walk last links here (name :: rest))) :
    Agree t₁ t₂ (t₁.walk last links here (name :: rest))
      (t₂.walk last links here (name :: rest)) := by
  have hhere₂ : t₂.node? here = some .directory := (h.directory_iff here).mp hhere
  by_cases hnode : t₁.node? (here ++ [name]) = t₂.node? (here ++ [name])
  · exact hsame hhere₂ hnode.symm
  · have hends₂ : t₂.Ends (here ++ [name]) := h.symm.ends (Ne.symm hnode)
    exact .inr ⟨astray_of_ends hhere hname hshort (h.ends hnode) hnode,
      astray_of_ends hhere₂ hname hshort hends₂ hnode⟩

end

/-- **A walk takes the same way in both trees**, until it comes to a place where they differ. -/
theorem SameSkeleton.walk_agree (h : SameSkeleton t₁ t₂) (last : Bool) (links : Nat)
    (here : Location) (names : List Text) :
    Agree t₁ t₂ (t₁.walk last links here names) (t₂.walk last links here names) := by
  -- the cases are those of the first tree; where the second one differs, `agree_name` is the end
  induction links, here, names using walk_induction t₁ last with
  | done =>
      left
      rw [walk, walk]
  | stuck _ here _ _ hhere =>
      left
      have hhere₂ : t₂.node? here ≠ some .directory := mt (h.directory_iff here).mpr hhere
      rw [walk_of_not_directory hhere, walk_of_not_directory hhere₂]
  | blank _ here _ _ hhere hblank ih =>
      rw [walk_of_blank hhere hblank, walk_of_blank ((h.directory_iff here).mp hhere) hblank]
      exact ih
  | up _ here _ hhere ih =>
      rw [walk_up hhere, walk_up ((h.directory_iff here).mp hhere)]
      exact ih
  | tooLong _ here _ _ hhere hname hlong =>
      left
      rw [walk_of_tooLong hhere hname hlong,
        walk_of_tooLong ((h.directory_iff here).mp hhere) hname hlong]
  | missing _ _ _ _ hhere hname hshort hnode =>
      refine h.agree_name hhere hname hshort fun hhere₂ hsame => .inl ?_
      rw [walk_of_missing hhere hname hshort hnode,
        walk_of_missing hhere₂ hname hshort (hsame.trans hnode)]
  | kept _ _ _ _ _ hhere hname hshort hnode hkept =>
      refine h.agree_name hhere hname hshort fun hhere₂ hsame => .inl ?_
      rw [walk_of_kept hhere hname hshort hnode hkept,
        walk_of_kept hhere₂ hname hshort (hsame.trans hnode) hkept]
  | looped _ _ _ _ hhere hname hshort hnode hfollowed =>
      refine h.agree_name hhere hname hshort fun hhere₂ hsame => .inl ?_
      rw [walk_of_looped hhere hname hshort hnode hfollowed,
        walk_of_looped hhere₂ hname hshort (hsame.trans hnode) hfollowed]
  | link _ _ _ _ _ hhere hname hshort hnode hfollowed ih =>
      refine h.agree_name hhere hname hshort fun hhere₂ hsame => ?_
      rw [walk_of_link hhere hname hshort hnode hfollowed,
        walk_of_link hhere₂ hname hshort (hsame.trans hnode) hfollowed]
      exact ih
  | entry _ _ _ _ _ hhere hname hshort hnode hlink ih =>
      refine h.agree_name hhere hname hshort fun hhere₂ hsame => ?_
      rw [walk_of_entry hhere hname hshort hnode hlink,
        walk_of_entry hhere₂ hname hshort (hsame.trans hnode) hlink]
      exact ih

/-! ## Finding -/

/-- What is found behind a path whose walk goes astray. -/
inductive Missed (t₁ t₂ : Tree) (p : Path) : Except FileFault (Location × Node) → Prop
  | notFound : Missed t₁ t₂ p (.error (.refused .notFound p.text))
  | notDirectory : Missed t₁ t₂ p (.error (.refused .notDirectory p.text))
  | arrived {l : Location} {bytes : List UInt8} (h : t₁.node? l ≠ t₂.node? l) :
      Missed t₁ t₂ p (.ok (l, .file bytes))

theorem missed_of_astray {p : Path} {r : Except FileError Location}
    (hends : ∀ l, t₁.node? l ≠ t₂.node? l → t.Ends l) :
    Astray t₁ t₂ r →
      Missed t₁ t₂ p
        (match r with
        | .error e => .error (.refused e p.text)
        | .ok l =>
          match t.node? l with
          | some node => .ok (l, node)
          | none => .error (.refused .notFound p.text)) := by
  intro hr
  cases hr with
  | notFound => exact .notFound
  | notDirectory => exact .notDirectory
  | @arrived l hne =>
      rcases hends l hne with hnone | ⟨bytes, hfile⟩
      · simp only [hnone]
        exact .notFound
      · simp only [hfile]
        exact .arrived hne

theorem SameSkeleton.find_eq_or_missed (h : SameSkeleton t₁ t₂) (p : Path) :
    t₁.find p = t₂.find p ∨ Missed t₁ t₂ p (t₁.find p) ∧ Missed t₁ t₂ p (t₂.find p) := by
  by_cases hzero : p.text.contains '\x00'
  · left
    rw [find, find, if_pos hzero, if_pos hzero]
  by_cases hlong : maxPath < (Utf8.encode p.text).length
  · left
    rw [find, find, if_neg hzero, if_neg hzero, if_pos hlong, if_pos hlong]
  rw [find, find, if_neg hzero, if_neg hzero, if_neg hlong, if_neg hlong]
  have hends₁ : ∀ l, t₁.node? l ≠ t₂.node? l → t₁.Ends l := fun l hne => h.ends hne
  have hends₂ : ∀ l, t₁.node? l ≠ t₂.node? l → t₂.Ends l := fun l hne => h.symm.ends hne.symm
  rcases h.walk_agree true maxLinks [] p.names with hsame | ⟨hastray₁, hastray₂⟩
  · rw [hsame]
    cases hwalk : t₂.walk true maxLinks [] p.names with
    | error e => exact .inl rfl
    | ok l =>
        by_cases hnode : t₁.node? l = t₂.node? l
        · left
          simp only [hnode]
        · right
          exact ⟨missed_of_astray hends₁ (.arrived hnode), missed_of_astray hends₂ (.arrived hnode)⟩
  · right
    exact ⟨missed_of_astray hends₁ hastray₁, missed_of_astray hends₂ hastray₂⟩

/-- **Paths resolve to the same locations.** -/
theorem SameSkeleton.resolve_eq (h : SameSkeleton t₁ t₂) (p : Path) :
    t₁.resolve p = t₂.resolve p := by
  have hfollow : follow t₁ (t₁.entries.length + 1) [] p.names [] =
      follow t₂ (t₂.entries.length + 1) [] p.names [] :=
    follow_congr h.link?_eq (enough_start t₁) _ (enough_start t₂)
  rw [resolve, resolve, hfollow]
  by_cases hzero : p.text.contains '\x00'
  · rw [if_pos hzero, if_pos hzero]
  rw [if_neg hzero, if_neg hzero]
  rcases h.find_eq_or_missed
      (.ofLocation (tidy (follow t₂ (t₂.entries.length + 1) [] p.names []).names)) with
    hsame | ⟨hmissed₁, hmissed₂⟩
  · simp only [hsame]
  · simp only
    generalize t₁.find _ = r₁ at hmissed₁
    generalize t₂.find _ = r₂ at hmissed₂
    cases hmissed₁ <;> cases hmissed₂ <;> rfl

/-! ## Reading -/

variable {l : Location}

/-- Whether something is a file is known of both trees or of none. -/
theorem SameSkeleton.isFile_eq_error_iff (h : SameSkeleton t₁ t₂) {p : Path} {e : FileFault} :
    t₁.isFile p = .error e ↔ t₂.isFile p = .error e := by
  rcases h.find_eq_or_missed p with hsame | ⟨hmissed₁, hmissed₂⟩
  · rw [isFile, isFile, hsame]
  · rw [isFile, isFile]
    generalize t₁.find _ = r₁ at hmissed₁
    generalize t₂.find _ = r₂ at hmissed₂
    cases hmissed₁ <;> cases hmissed₂ <;> simp

/-- A location is **missing**: nothing stands there, or a file stands on the way to it. -/
inductive Missing (l : Location) : FileFault → Prop
  | notFound : Missing l (.refused .notFound l.text)
  | notDirectory : Missing l (.refused .notDirectory l.text)

theorem missing_of_missed {t : Tree} (hl : t.Settled l) (hnode : t₁.node? l = t₂.node? l)
    (h : Missed t₁ t₂ (.ofLocation l) (t.find (.ofLocation l))) :
    ∃ e, Missing l e ∧ t.find (.ofLocation l) = .error e := by
  generalize hr : t.find (.ofLocation l) = r at h
  cases h with
  | notFound => exact ⟨_, .notFound, rfl⟩
  | notDirectory => exact ⟨_, .notDirectory, rfl⟩
  | arrived hne =>
      obtain rfl := find_of_settled hl hr
      exact absurd hnode hne

/-- Where the trees agree at a settled location, they agree on what is found there, or it is
missing in both. -/
theorem SameSkeleton.find_eq_or_missing (h : SameSkeleton t₁ t₂) (hl : t₁.Settled l)
    (hnode : t₁.node? l = t₂.node? l) :
    t₁.find (.ofLocation l) = t₂.find (.ofLocation l) ∨
      (∃ e, Missing l e ∧ t₁.find (.ofLocation l) = .error e) ∧
        ∃ e, Missing l e ∧ t₂.find (.ofLocation l) = .error e := by
  rcases h.find_eq_or_missed (.ofLocation l) with hsame | ⟨hmissed₁, hmissed₂⟩
  · exact .inl hsame
  · exact .inr ⟨missing_of_missed hl hnode hmissed₁,
      missing_of_missed (h.settled hl) hnode hmissed₂⟩

theorem Missing.isFile_eq {e : FileFault} (he : Missing l e)
    (h : t.find (.ofLocation l) = .error e) : t.isFile (.ofLocation l) = .ok false := by
  rw [isFile, h]
  cases he <;> rfl

theorem SameSkeleton.isFile_eq (h : SameSkeleton t₁ t₂) (hl : t₁.Settled l)
    (hnode : t₁.node? l = t₂.node? l) :
    t₁.isFile (.ofLocation l) = t₂.isFile (.ofLocation l) := by
  rcases h.find_eq_or_missing hl hnode with hsame | ⟨⟨e₁, he₁, h₁⟩, e₂, he₂, h₂⟩
  · rw [isFile, isFile, hsame]
  · rw [he₁.isFile_eq h₁, he₂.isFile_eq h₂]

theorem readText_of_find_eq {p : Path} (h : t₁.find p = t₂.find p) :
    t₁.readText p = t₂.readText p := by
  rw [readText, readText, readBytes, readBytes, h]

theorem readText_of_find_eq_error {p : Path} {e : FileFault} (h : t.find p = .error e) :
    t.readText p = .error (.file e) := by
  rw [readText, readBytes, h]

/-- The text of a file at a settled location where the trees agree. -/
theorem SameSkeleton.readText_eq (h : SameSkeleton t₁ t₂) (hl : t₁.Settled l)
    (hnode : t₁.node? l = t₂.node? l) (hfile : t₁.isFile (.ofLocation l) = .ok true) :
    t₁.readText (.ofLocation l) = t₂.readText (.ofLocation l) := by
  rcases h.find_eq_or_missing hl hnode with hsame | ⟨⟨e₁, he₁, h₁⟩, -⟩
  · exact readText_of_find_eq hsame
  · rw [he₁.isFile_eq h₁] at hfile
    cases hfile

/-- Reading at a settled location where the trees agree: the same, unless nothing can be read
in either. -/
theorem SameSkeleton.readText_eq_or_missing (h : SameSkeleton t₁ t₂) (hl : t₁.Settled l)
    (hnode : t₁.node? l = t₂.node? l) :
    t₁.readText (.ofLocation l) = t₂.readText (.ofLocation l) ∨
      (∃ e, Missing l e ∧ t₁.readText (.ofLocation l) = .error (.file e)) ∧
        ∃ e, Missing l e ∧ t₂.readText (.ofLocation l) = .error (.file e) := by
  rcases h.find_eq_or_missing hl hnode with hsame | ⟨⟨e₁, he₁, h₁⟩, e₂, he₂, h₂⟩
  · exact .inl (readText_of_find_eq hsame)
  · exact .inr ⟨⟨e₁, he₁, readText_of_find_eq_error h₁⟩, e₂, he₂, readText_of_find_eq_error h₂⟩

/-! ## Writing a file -/

theorem node?_set {k : Location} {node : Node} (hl : l ≠ []) :
    (t.set l node).node? k = if k = l then some node else t.node? k := by
  have hfilter : k ≠ l → List.lookup k (t.entries.filter fun e => e.1 ≠ l) = t.entries.lookup k := by
    intro hk
    induction t.entries with
    | nil => rfl
    | cons e entries ih =>
        by_cases he : e.1 = l
        · rw [List.filter_cons_of_neg (by simp [he]), ih, List.lookup_cons,
            beq_false_of_ne (fun h => hk (h.trans he))]
        · rw [List.filter_cons_of_pos (by simp [he]), List.lookup_cons, List.lookup_cons, ih]
  unfold node? set
  by_cases hk : k = l
  · subst hk
    rw [if_neg hl, if_pos rfl, List.lookup_cons_self]
  · rw [if_neg hk, List.lookup_cons, beq_false_of_ne hk, hfilter hk]

/-- What stands at a location where something was set. -/
theorem node?_set_self {node : Node} (hl : l ≠ []) : (t.set l node).node? l = some node := by
  rw [node?_set hl, if_pos rfl]

theorem node?_set_of_ne {k : Location} {node : Node} (hl : l ≠ []) (hk : k ≠ l) :
    (t.set l node).node? k = t.node? k := by
  rw [node?_set hl, if_neg hk]

/-- Writing a file where there is none, or over a file, keeps all directories and links. -/
theorem sameSkeleton_set {bytes : List UInt8} (hl : l ≠ []) (h : t.Ends l) :
    SameSkeleton (t.set l (.file bytes)) t := by
  have hset : (t.set l (.file bytes)).node? l = some (.file bytes) := node?_set_self hl
  refine ⟨?_, ?_⟩
  · intro k
    by_cases hk : k = l
    · subst hk
      rw [hset]
      rcases h with h | ⟨_, h⟩
      · simp [h]
      · simp [h]
    · rw [node?_set_of_ne hl hk]
  · intro k
    by_cases hk : k = l
    · subst hk
      rw [link?, link?, hset]
      rcases h with h | ⟨_, h⟩
      · rw [h]
      · rw [h]
    · rw [link?, link?, node?_set_of_ne hl hk]

end ContractVerifier.Tree
