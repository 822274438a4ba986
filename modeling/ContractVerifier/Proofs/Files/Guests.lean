import ContractVerifier.Proofs.Files.Written

set_option autoImplicit false

/-! # Trees with guests

A tree **hosts** what another has not if all its own entries are those of the other one, and the
rest stands in one directory, under names that the other does not use (`Hosts`). Paths that lead
somewhere lead to the same place with guests (`Hosts.find_eq`), and a path whose links can be
followed stands for the same location (`Hosts.resolve_eq`).

A new entry goes into the directory that its path names, whatever else is there (`vacancy_eq`).
-/

namespace ContractVerifier

namespace Tree

variable {t t' : Tree} {l base : Location} {p : Path}

/-- Nothing is anywhere below a place where nothing is. -/
theorem Rooted.node?_eq_none_of_below (h : t.Rooted) (hl : t.node? l = none) {k : Location}
    (hk : l <+: k) : t.node? k = none := by
  obtain ⟨names, rfl⟩ := hk
  induction names using List.reverseRecOn with
  | nil => simpa using hl
  | append_singleton names name ih =>
      rw [← List.append_assoc]
      exact h.node?_eq_none ih name

/-! ## Removing -/

theorem node?_removeAll {k : Location} (hl : l ≠ []) :
    (t.removeAll l).node? k = if l <+: k then none else t.node? k := by
  have hlookup : List.lookup k (t.entries.filter fun e => !l.isPrefixOf e.1) =
      if l <+: k then none else t.entries.lookup k := by
    induction t.entries with
    | nil => simp
    | cons e entries ih =>
        by_cases he : l <+: e.1
        · have hdrop : ¬ (!l.isPrefixOf e.1) = true := by
            rw [List.isPrefixOf_iff_prefix.mpr he]
            decide
          rw [List.filter_cons, if_neg hdrop, ih, List.lookup_cons]
          by_cases hk : k = e.1
          · rw [if_pos (hk ▸ he), if_pos (hk ▸ he)]
          · rw [beq_false_of_ne hk]
        · have hkeep : (!l.isPrefixOf e.1) = true := by
            rw [Bool.not_eq_true', ← Bool.not_eq_true, List.isPrefixOf_iff_prefix]
            exact he
          rw [List.filter_cons, if_pos hkeep, List.lookup_cons, List.lookup_cons, ih]
          by_cases hk : k = e.1
          · have hnot : ¬ l <+: k := hk ▸ he
            rw [beq_iff_eq.mpr hk]
            exact (if_neg hnot).symm
          · rw [beq_false_of_ne hk]
  unfold node? removeAll
  by_cases hk : k = []
  · have hnot : ¬ l <+: k := by
      rw [hk, List.prefix_nil]
      exact hl
    rw [if_neg hnot, if_pos hk, if_pos hk]
  · rw [if_neg hk, if_neg hk, hlookup]

/-! ## Places for new entries -/

/-- Going on from where the first names arrive, with the links that are left. -/
theorem Arrives.walk_append {here mid : Location} {a b : List Text} {m links : Nat}
    (h : Arrives t here a mid m) (hlinks : m ≤ links) :
    t.walk true links here (a ++ b) = t.walk true (links - m) mid b := by
  induction h generalizing links with
  | done => rfl
  | blank directory hname next ih =>
      rw [List.cons_append, walk_of_blank directory hname, ih hlinks]
  | up directory next ih => rw [List.cons_append, walk_up directory, ih hlinks]
  | entry directory hname short there plain next ih =>
      rw [List.cons_append, walk_name directory hname, if_neg short]
      split
      · rename_i hnone
        exact absurd hnone there
      · rename_i target hnode
        rw [link?_eq_some_iff.mpr hnode] at plain
        cases plain
      · exact ih hlinks
  | @link here l name target rest n directory hname short leads next ih =>
      obtain ⟨links, rfl⟩ : ∃ links', links = links' + 1 := ⟨links - 1, by omega⟩
      rw [List.cons_append, walk_name directory hname, if_neg short]
      simp only [link?_eq_some_iff.mp leads]
      rw [if_neg (by simp), Nat.add_sub_add_right, ← ih (Nat.le_of_succ_le_succ hlinks),
        List.append_assoc]
      rfl

section Place

variable {parent : Location} {n : Nat}

/-- A new entry goes into the directory that the names before the last lead to. -/
theorem vacancy_eq (h : Arrives t [] p.names.dropLast parent n) (hn : n ≤ maxLinks)
    (hparent : t.node? parent = some .directory) (hname : IsName p.name) :
    t.vacancy p =
      if p.text.contains '\x00' then .error .zeroCharacter
      else if maxPath < (Utf8.encode p.text).length then .error (.refused .nameTooLong p.text)
      else if maxName < (Utf8.encode p.name).length then .error (.refused .nameTooLong p.text)
      else if (t.node? (parent ++ [p.name])).isSome then .error (.refused .alreadyThere p.text)
      else .ok (parent ++ [p.name]) := by
  have hup : ¬ (p.name = [] ∨ p.name = ['.', '.']) := not_or.mpr ⟨hname.1, hname.2.2⟩
  rw [vacancy, h.walk_eq hn]
  simp only
  rw [if_neg (not_not.mpr hparent), if_neg hup]

/-- Where nothing is, nothing is found. -/
theorem find_eq_of_free (h : Arrives t [] p.names.dropLast parent n) (hn : n ≤ maxLinks)
    (hparent : t.node? parent = some .directory) (hname : IsName p.name)
    (hfree : t.node? (parent ++ [p.name]) = none) :
    t.find p =
      if p.text.contains '\x00' then .error .zeroCharacter
      else if maxPath < (Utf8.encode p.text).length then .error (.refused .nameTooLong p.text)
      else if maxName < (Utf8.encode p.name).length then .error (.refused .nameTooLong p.text)
      else .error (.refused .notFound p.text) := by
  have hwalk : t.walk true maxLinks [] p.names =
      if maxName < (Utf8.encode p.name).length then .error .nameTooLong else .error .notFound := by
    rw [Path.names_eq hname.1, h.walk_append hn, walk_name hparent hname, hfree]
  rw [find, hwalk]
  split_ifs <;> rfl

end Place

/-- A path leads to its vacant place once a directory is there, whatever else is new. -/
theorem find_of_vacancy (hname : p.name ≠ ['.']) (h : t.vacancy p = .ok l)
    (hmore : ∀ k, t.node? k ≠ none → t'.node? k = t.node? k)
    (hl : t'.node? l = some .directory) : t'.find p = .ok (l, .directory) := by
  obtain ⟨hzero, hlong, -, parent, rfl, hparent, hne, hup, hshort, n, hn, harrives⟩ :=
    vacancy_eq_ok h
  have harrives' : Arrives t' [] p.names.dropLast parent n := by
    refine harrives.of_more (fun k hk => ?_) fun k hk => ⟨?_, ?_⟩
    · rw [hmore k (by simp [hk]), hk]
    · rwa [hmore k hk]
    · rw [link?, link?, hmore k hk]
  have hparent' : t'.node? parent = some .directory := by
    rw [hmore parent (by simp [hparent]), hparent]
  have hstep : Arrives t' parent [p.name] (parent ++ [p.name]) 0 := by
    refine .entry hparent' ⟨hne, hname, hup⟩ hshort ?_ ?_ .done
    · rw [hl]
      simp
    · rw [link?, hl]
  have hwhole : Arrives t' [] p.names (parent ++ [p.name]) n := by
    rw [Path.names_eq hne]
    exact harrives'.append hstep
  exact find_eq_ok_iff.mpr ⟨hzero, hlong, hl, n, hn, hwhole⟩

/-! ## Trees that do not differ -/

/-- A walk asks only what stands where. -/
theorem walk_congr (h : ∀ k, t'.node? k = t.node? k) (last : Bool) (links : Nat) (here : Location)
    (names : List Text) : t'.walk last links here names = t.walk last links here names := by
  induction links, here, names using walk_induction t last with
  | done => rw [walk, walk]
  | stuck _ here _ _ hhere =>
      rw [walk_of_not_directory hhere, walk_of_not_directory (by rwa [h])]
  | blank _ here _ _ hhere hblank ih =>
      rw [walk_of_blank hhere hblank, walk_of_blank ((h here).trans hhere) hblank, ih]
  | up _ here _ hhere ih => rw [walk_up hhere, walk_up ((h here).trans hhere), ih]
  | tooLong _ here _ _ hhere hname hlong =>
      rw [walk_of_tooLong hhere hname hlong, walk_of_tooLong ((h here).trans hhere) hname hlong]
  | missing _ here _ _ hhere hname hshort hnode =>
      rw [walk_of_missing hhere hname hshort hnode,
        walk_of_missing ((h here).trans hhere) hname hshort ((h _).trans hnode)]
  | kept _ here _ _ _ hhere hname hshort hnode hkept =>
      rw [walk_of_kept hhere hname hshort hnode hkept,
        walk_of_kept ((h here).trans hhere) hname hshort ((h _).trans hnode) hkept]
  | looped here _ _ _ hhere hname hshort hnode hfollowed =>
      rw [walk_of_looped hhere hname hshort hnode hfollowed,
        walk_of_looped ((h here).trans hhere) hname hshort ((h _).trans hnode) hfollowed]
  | link _ here _ _ _ hhere hname hshort hnode hfollowed ih =>
      rw [walk_of_link hhere hname hshort hnode hfollowed,
        walk_of_link ((h here).trans hhere) hname hshort ((h _).trans hnode) hfollowed, ih]
  | entry _ here _ _ _ hhere hname hshort hnode hlink ih =>
      rw [walk_of_entry hhere hname hshort hnode hlink,
        walk_of_entry ((h here).trans hhere) hname hshort ((h _).trans hnode) hlink, ih]

theorem vacancy_congr (h : ∀ k, t'.node? k = t.node? k) (p : Path) :
    t'.vacancy p = t.vacancy p := by
  simp only [vacancy, walk_congr h, h]

theorem find_congr (h : ∀ k, t'.node? k = t.node? k) (p : Path) : t'.find p = t.find p := by
  simp only [find, walk_congr h, h]

/-! ## Guests -/

/-- The tree `t'` is `t` with guests: what it has besides stands in the directory at `base`, at or
below names where `t` has nothing, and links to nowhere. -/
structure Hosts (t t' : Tree) (base : Location) : Prop where
  guest : ∀ k, t'.node? k ≠ t.node? k → ∃ name, base ++ [name] <+: k ∧
    ∀ j, base ++ [name] <+: j → t.node? j = none
  link?_eq : ∀ k, t'.link? k = t.link? k

namespace Hosts

variable (h : Hosts t t' base)

include h

/-- What is there stays as it is. -/
theorem node?_eq (hl : t.node? l ≠ none) : t'.node? l = t.node? l := by
  by_contra hne
  obtain ⟨name, hbelow, hnone⟩ := h.guest l hne
  exact hl (hnone l hbelow)

theorem arrives {here : Location} {names : List Text} {n : Nat}
    (harrives : Arrives t here names l n) : Arrives t' here names l n := by
  refine harrives.of_more (fun k hk => ?_) fun k hk => ⟨?_, (h.link?_eq k).symm⟩
  · rw [h.node?_eq (by simp [hk]), hk]
  · rwa [h.node?_eq hk]

/-- What is found is found with guests. -/
theorem find_eq {node : Node} (hfind : t.find p = .ok (l, node)) : t'.find p = .ok (l, node) := by
  obtain ⟨hzero, hlong, hnode, n, hn, harrives⟩ := find_eq_ok_iff.mp hfind
  refine find_eq_ok_iff.mpr ⟨hzero, hlong, ?_, n, hn, h.arrives harrives⟩
  rw [h.node?_eq (by simp [hnode]), hnode]

theorem settled (hl : t.Settled l) : t'.Settled l :=
  ⟨hl.proper, fun k hk => (h.link?_eq k).trans (hl.link?_eq_none k hk)⟩

/-- A path whose links can be followed to the end stands for the same location. -/
theorem resolve_eq (hcomplete : (follow t (t.entries.length + 1) [] p.names []).complete = true) :
    t'.resolve p = t.resolve p := by
  have hfollow : follow t' (t'.entries.length + 1) [] p.names [] =
      follow t (t.entries.length + 1) [] p.names [] :=
    follow_congr h.link?_eq (enough_start t') _ (enough_start t)
  have hsettled := (follow_settled (settled_nil t) (seenSettled_nil t) hcomplete).1
  rw [resolve, resolve, hfollow]
  simp only [tidy_of_proper hsettled.proper]
  -- neither tree runs into a loop of links there
  split_ifs
  · rfl
  · split
    · rename_i path hloop
      exact absurd hloop (find_ne_linkLoop (h.settled hsettled))
    · split
      · rename_i path hloop
        exact absurd hloop (find_ne_linkLoop hsettled)
      · rfl

/-- Away from the guests there is what there was. -/
theorem find_eq_of_settled (hl : t.Settled l)
    (haway : ∀ name, base ++ [name] <+: l → t.node? (base ++ [name]) ≠ none) :
    t'.find (.ofLocation l) = t.find (.ofLocation l) := by
  have hsame : ∀ k, k <+: l → t'.node? k = t.node? k := by
    intro k hk
    by_contra hne
    obtain ⟨name, hbelow, hnone⟩ := h.guest k hne
    exact haway name (hbelow.trans hk) (hnone _ (List.prefix_refl _))
  -- no name on the way is a link, so both walks stay on the way to `l`
  have hwalk : ∀ (names : List Text) (here : Location) (links : Nat), here ++ names = l →
      t'.walk true links here names = t.walk true links here names := by
    intro names
    induction names with
    | nil =>
        intro here links _
        rw [walk, walk]
    | cons name names ih =>
        intro here links hnames
        have hrest : here ++ [name] ++ names = l := by simp [← hnames]
        have hhere : t'.node? here = t.node? here := hsame here ⟨_, hnames⟩
        have hnext : t'.node? (here ++ [name]) = t.node? (here ++ [name]) := hsame _ ⟨_, hrest⟩
        have hname : IsName name := hl.proper name (by simp [← hnames])
        have hlink : t.link? (here ++ [name]) = none := hl.link?_eq_none _ ⟨_, hrest⟩
        by_cases hdirectory : t.node? here = some .directory
        · rw [walk_name (hhere.trans hdirectory) hname, walk_name hdirectory hname, hnext]
          split
          · rfl
          · split
            · rfl
            · rename_i target hnode
              rw [link?_eq_some_iff.mpr hnode] at hlink
              cases hlink
            · exact ih _ links hrest
        · rw [walk_of_not_directory (by rwa [hhere]), walk_of_not_directory hdirectory]
  rw [find, find]
  simp only [Path.ofLocation, hwalk l [] maxLinks rfl]
  cases hk : t.walk true maxLinks [] l with
  | error e => rfl
  | ok k =>
      have hlinks : ∀ j, j <+: [] ++ l → t.link? j = none := hl.link?_eq_none
      have hkl : k = l := walk_of_settled hl.proper hlinks hk
      have hnode : t'.node? k = t.node? k := hsame k (hkl ▸ List.prefix_refl l)
      simp only [hnode]
      rfl

end Hosts

end Tree

end ContractVerifier
