import ContractVerifier.Proofs.Files.Guests
import ContractVerifier.Proofs.Text.Splitting

set_option autoImplicit false

/-! # Directories that are made on the way

Making a directory with those above it leaves one that is found (`Makes.exists_find`), and nothing is
made again where a directory is found (`makeDirectories_of_find`). If the path does not go up, all
that is new lies on the way to the directory (`Makes.new_above`), and so nothing is new below it
(`node?_below_of_makeDirectories`).

What was made before the system refused stays, but a second attempt gets no further: it is refused
too and makes nothing (`makeDirectories_again`).
-/

namespace ContractVerifier

/-! ## One name up -/

/-- The text of the path above is the beginning of the path's text, or a dot. -/
theorem Path.text_parent (p : Path) : p.parent.text = ['.'] ∨ p.parent.text <+: p.text := by
  rcases List.eq_nil_or_concat' p.names with hnil | ⟨names, last, hnames⟩
  · right
    have hsame : p.parent = p := by
      rw [parent, hnil]
      exact congrArg (mk p.anchor) hnil.symm
    rw [hsame]
  by_cases hrest : names = []
  · -- the names are gone
    rw [hrest, List.nil_append] at hnames
    rw [parent, text, text, hnames]
    cases p.anchor
    · exact .inl rfl
    · exact .inr ⟨last, by simp [Text.join, List.intercalate]⟩
    · exact .inr ⟨last, by simp [Text.join, List.intercalate]⟩
  · right
    have hjoin : Text.join ['/'] p.names = Text.join ['/'] names ++ '/' :: last := by
      rw [hnames, Text.join_append hrest (by simp), Text.join_singleton]
    have hempty : p.names.isEmpty = false := by simp [hnames]
    have hempty' : names.isEmpty = false := by simpa using hrest
    have hparent : p.parent = ⟨p.anchor, names⟩ := by
      rw [parent, hnames, List.dropLast_concat]
    rw [hparent, text, text]
    simp only [hjoin, hempty, hempty']
    cases p.anchor
    · exact ⟨'/' :: last, rfl⟩
    · exact ⟨'/' :: last, rfl⟩
    · exact ⟨'/' :: last, rfl⟩

namespace Tree

variable {t t' : Tree} {l base : Location} {p : Path} {node : Node} {up : Nat}

/-- The path above can be used if the path can. -/
theorem parent_text_fits (hzero : p.text.contains '\x00' = false)
    (hlong : ¬ maxPath < (Utf8.encode p.text).length) :
    p.parent.text.contains '\x00' = false ∧ ¬ maxPath < (Utf8.encode p.parent.text).length := by
  rcases p.text_parent with hdot | ⟨rest, hrest⟩
  · rw [hdot]
    decide
  · have hlength : (Utf8.encode p.text).length =
        (Utf8.encode p.parent.text).length + (Utf8.encode rest).length := by
      rw [← hrest, Utf8.encode, List.flatMap_append, List.length_append]
      rfl
    constructor
    · rw [← Bool.not_eq_true, List.contains_iff_mem] at hzero ⊢
      intro hmem
      exact hzero (hrest ▸ List.mem_append_left rest hmem)
    · omega

theorem Arrives.node?_of_cons {here : Location} {name : Text} {rest : List Text} {n : Nat}
    (h : Arrives t here (name :: rest) l n) : t.node? here = some .directory := by
  cases h <;> assumption

theorem Arrives.node?_of_name {here : Location} {name : Text} {rest : List Text} {n : Nat}
    (h : Arrives t here (name :: rest) l n) (hname : IsName name) :
    t.node? (here ++ [name]) ≠ none := by
  generalize hnames : name :: rest = names at h
  cases h with
  | done => cases hnames
  | blank _ hblank =>
      obtain ⟨rfl, -⟩ := List.cons.inj hnames
      exact absurd hblank hname.not_blank
  | up =>
      obtain ⟨rfl, -⟩ := List.cons.inj hnames
      exact absurd rfl hname.not_up
  | entry _ _ _ there =>
      obtain ⟨rfl, -⟩ := List.cons.inj hnames
      exact there
  | link _ _ _ leads =>
      obtain ⟨rfl, -⟩ := List.cons.inj hnames
      rw [link?_eq_some_iff.mp leads]
      simp

theorem isDirectory_iff : t.isDirectory p = .ok true ↔ ∃ l, t.find p = .ok (l, .directory) := by
  rw [isDirectory]
  constructor
  · intro h
    split at h
    · rename_i l hfind
      exact ⟨l, hfind⟩
    · cases h
    · cases h
    · cases h
  · rintro ⟨l, hfind⟩
    rw [hfind]

/-- Above what is found there is a directory. -/
theorem exists_find_parent (hnames : p.names ≠ []) (h : t.find p = .ok (l, node)) :
    ∃ l', t.find p.parent = .ok (l', .directory) := by
  obtain ⟨hzero, hlong, -, n, hn, harrives⟩ := find_eq_ok_iff.mp h
  obtain ⟨hzero', hlong'⟩ := parent_text_fits hzero hlong
  have hsplit : p.names = p.names.dropLast ++ [p.names.getLast hnames] :=
    (List.dropLast_append_getLast hnames).symm
  obtain ⟨mid, m, k, hmid, hlast, rfl⟩ := harrives.of_append hsplit
  exact ⟨mid, find_eq_ok_iff.mpr ⟨hzero', hlong', hlast.node?_of_cons, m, by omega, hmid⟩⟩

/-- And above a vacant place. -/
theorem exists_find_parent_of_vacancy (h : t.vacancy p = .ok l) :
    ∃ parent, l = parent ++ [p.name] ∧ t.find p.parent = .ok (parent, .directory) := by
  obtain ⟨hzero, hlong, -, parent, hl, hparent, -, -, -, n, hn, harrives⟩ := vacancy_eq_ok h
  obtain ⟨hzero', hlong'⟩ := parent_text_fits hzero hlong
  exact ⟨parent, hl, find_eq_ok_iff.mpr ⟨hzero', hlong', hparent, n, hn, harrives⟩⟩

/-- Where something is found, no place is vacant. -/
theorem vacancy_of_find (hname : p.name ≠ ['.']) (h : t.find p = .ok (l, node)) :
    t.vacancy p = .error (.refused .alreadyThere p.text) := by
  obtain ⟨hzero, hlong, -, n, hn, harrives⟩ := find_eq_ok_iff.mp h
  rw [vacancy, hzero, if_neg (by simp), if_neg hlong]
  rcases List.eq_nil_or_concat' p.names with hnil | ⟨names, last, hnames⟩
  · have hempty : p.name = [] := by rw [Path.name, hnil]; rfl
    have hroot : t.walk true maxLinks [] p.names.dropLast = .ok [] := by
      rw [hnil, List.dropLast_nil, walk]
    simp only [hroot]
    have hdirectory : t.node? [] = some .directory := rfl
    rw [if_neg (not_not.mpr hdirectory), if_pos (.inl hempty)]
  obtain ⟨mid, m, k, hmid, hlast, rfl⟩ := harrives.of_append hnames
  have hlastName : p.name = last := by rw [Path.name, hnames, List.getLast?_concat]; rfl
  have hwalk : t.walk true maxLinks [] p.names.dropLast = .ok mid := by
    rw [hnames, List.dropLast_concat]
    exact hmid.walk_eq (by omega)
  simp only [hwalk]
  rw [if_neg (not_not.mpr hlast.node?_of_cons)]
  rw [hlastName] at hname ⊢
  cases hlast with
  | blank _ hblank => rw [if_pos (.inl (hblank.resolve_right hname))]
  | up => rw [if_pos (.inr rfl)]
  | entry _ hisName short there =>
      rw [if_neg (not_or.mpr ⟨hisName.1, hisName.2.2⟩), if_neg short,
        if_pos (Option.isSome_iff_ne_none.mpr there)]
  | link _ hisName short leads =>
      rw [if_neg (not_or.mpr ⟨hisName.1, hisName.2.2⟩), if_neg short,
        if_pos (by rw [link?_eq_some_iff.mp leads]; rfl)]

/-! ## One directory -/

/-- A directory that was made is found in its place. -/
theorem find_of_makeDirectory (hname : p.name ≠ ['.']) (h : t.makeDirectory p = .ok t') :
    ∃ l, t.vacancy p = .ok l ∧ t' = t.set l .directory ∧ t'.find p = .ok (l, .directory) := by
  rw [makeDirectory] at h
  cases hvacancy : t.vacancy p with
  | error e =>
      rw [hvacancy] at h
      cases h
  | ok l =>
      rw [hvacancy] at h
      obtain rfl := Except.ok.inj h
      obtain ⟨-, -, hfree, parent, hl, -⟩ := vacancy_eq_ok hvacancy
      have hne : l ≠ [] := by simp [hl]
      refine ⟨l, rfl, rfl, find_of_vacancy hname hvacancy (fun k hk => ?_) (node?_set_self hne)⟩
      rw [node?_set_of_ne hne]
      rintro rfl
      exact hk hfree

theorem makeDirectory_of_find (hname : p.name ≠ ['.']) (h : t.find p = .ok (l, node)) :
    t.makeDirectory p = .error (.refused .alreadyThere p.text) := by
  rw [makeDirectory, vacancy_of_find hname h]
  rfl

/-- A refusal is accepted where a directory is. -/
theorem acceptExisting_eq_ok {fault : FileFault} (h : t.acceptExisting p fault = .ok t') :
    t' = t ∧ t.isDirectory p = .ok true := by
  unfold acceptExisting at h
  split at h
  · split at h
    · rename_i hdirectory
      exact ⟨(Except.ok.inj h).symm, hdirectory⟩
    · cases h
    · cases h
  · cases h

/-- If it is not, the tree is left as it was. -/
theorem acceptExisting_eq_error {fault fault' : FileFault}
    (h : t.acceptExisting p fault = .error (fault', t')) : t' = t := by
  unfold acceptExisting at h
  split at h
  · split at h
    · cases h
    · exact (congrArg Prod.snd (Except.error.inj h)).symm
    · exact (congrArg Prod.snd (Except.error.inj h)).symm
  · exact (congrArg Prod.snd (Except.error.inj h)).symm

theorem exists_acceptExisting_eq_error {fault : FileFault} (h : t.isDirectory p ≠ .ok true) :
    ∃ fault', t.acceptExisting p fault = .error (fault', t) := by
  unfold acceptExisting
  split
  · split
    · rename_i hdirectory
      exact absurd hdirectory h
    · exact ⟨_, rfl⟩
    · exact ⟨_, rfl⟩
  · exact ⟨_, rfl⟩

/-! ## All on the way -/

/-- How directories are made: the last one alone or after those above it, unless it was there or is
found when those above it are made. -/
inductive Makes (t : Tree) : Path → Tree → Prop
  | made {p : Path} {t' : Tree} (h : t.makeDirectory p = .ok t') : Makes t p t'
  | there {p : Path} (h : t.isDirectory p = .ok true) : Makes t p t
  | above {p : Path} {t₁ t' : Tree} (hnames : p.names ≠ []) (parents : Makes t p.parent t₁)
      (h : t₁.makeDirectory p = .ok t') : Makes t p t'
  | found {p : Path} {t₁ : Tree} {text : Text} (hnames : p.names ≠ [])
      (missing : t.makeDirectory p = .error (.refused .notFound text))
      (parents : Makes t p.parent t₁)
      (refused : ∀ text, t₁.makeDirectory p ≠ .error (.refused .notFound text))
      (h : t₁.isDirectory p = .ok true) : Makes t p t₁

theorem makes_of_makeDirectoriesUp (h : t.makeDirectoriesUp p up = .ok t') : Makes t p t' := by
  induction up generalizing p t' with
  | zero =>
      rw [makeDirectoriesUp] at h
      split at h
      · rename_i hmade
        exact .made (Except.ok.inj h ▸ hmade)
      · obtain ⟨rfl, hthere⟩ := acceptExisting_eq_ok h
        exact .there hthere
  | succ up ih =>
      rw [makeDirectoriesUp] at h
      split at h
      · rename_i hmade
        exact .made (Except.ok.inj h ▸ hmade)
      · rename_i text hmissing
        split at h
        · cases h
        rename_i hnames
        split at h
        · cases h
        rename_i t₁ hparents
        split at h
        · rename_i hmade
          exact .above hnames (ih hparents) (Except.ok.inj h ▸ hmade)
        · cases h
        · rename_i fault hne hrefused
          obtain ⟨rfl, hfound⟩ := acceptExisting_eq_ok h
          refine .found hnames hmissing (ih hparents) (fun path hpath => ?_) hfound
          exact hne path (Except.error.inj (hrefused.symm.trans hpath))
      · obtain ⟨rfl, hthere⟩ := acceptExisting_eq_ok h
        exact .there hthere

/-- The directory is found once it is made. -/
theorem Makes.exists_find (h : Makes t p t') (hname : p.name ≠ ['.']) :
    ∃ l, t'.find p = .ok (l, .directory) := by
  cases h with
  | made hmade =>
      obtain ⟨l, -, -, hfind⟩ := find_of_makeDirectory hname hmade
      exact ⟨l, hfind⟩
  | there hthere => exact isDirectory_iff.mp hthere
  | above _ _ hmade =>
      obtain ⟨l, -, -, hfind⟩ := find_of_makeDirectory hname hmade
      exact ⟨l, hfind⟩
  | found _ _ _ _ hfound => exact isDirectory_iff.mp hfound

/-- **Nothing is made where a directory is found.** -/
theorem makeDirectoriesUp_of_find (hname : p.name ≠ ['.']) (h : t.find p = .ok (l, .directory)) :
    t.makeDirectoriesUp p up = .ok t := by
  have haccept : t.acceptExisting p (.refused .alreadyThere p.text) = .ok t := by
    rw [acceptExisting, isDirectory_iff.mpr ⟨l, h⟩]
  cases up with
  | zero =>
      rw [makeDirectoriesUp, makeDirectory_of_find hname h]
      exact haccept
  | succ up =>
      rw [makeDirectoriesUp, makeDirectory_of_find hname h]
      exact haccept

theorem makeDirectories_of_find (hname : p.name ≠ ['.']) (h : t.find p = .ok (l, .directory)) :
    t.makeDirectories p = .ok t :=
  makeDirectoriesUp_of_find hname h

/-- Setting one place changes no other one. -/
theorem eq_of_node?_set_ne {k : Location} (hl : l ≠ []) (h : (t.set l node).node? k ≠ t.node? k) :
    k = l := by
  by_contra hne
  exact h (node?_set_of_ne hl hne)

/-- If all that is new stands on the way to a place, what is in that place is as before. -/
theorem node?_in_of_new_above (h : ∀ l, t'.node? l ≠ t.node? l → l <+: base) (name : Text) :
    t'.node? (base ++ [name]) = t.node? (base ++ [name]) := by
  by_contra hne
  have hlong := (h _ hne).length_le
  simp at hlong

/-- Nothing is found in a directory that is new, if all that is new stands on the way to it. -/
theorem find_in_new_ne (ht : t.Rooted) (hp : Proper p.names) (hnames : p.names ≠ [])
    (hparent : t'.find p.parent = .ok (base, .directory)) (hfree : t.node? base = none)
    (h : ∀ l, t'.node? l ≠ t.node? l → l <+: base) : t'.find p ≠ .ok (l, node) := by
  intro hfind
  obtain ⟨-, -, -, n, -, harrives⟩ := find_eq_ok_iff.mp hfind
  obtain ⟨-, -, -, m, -, habove⟩ := find_eq_ok_iff.mp hparent
  have hsplit : p.names = p.parent.names ++ [p.names.getLast hnames] :=
    (List.dropLast_append_getLast hnames).symm
  obtain ⟨mid, m', k, hmid, hlast, -⟩ := harrives.of_append hsplit
  obtain ⟨rfl, -⟩ := hmid.unique habove
  have hname : IsName (p.names.getLast hnames) := hp _ (List.getLast_mem hnames)
  have hnone : t'.node? (base ++ [p.names.getLast hnames]) = none := by
    rw [node?_in_of_new_above h, ht.node?_eq_none hfree]
  exact hlast.node?_of_name hname hnone

/-- If the path does not go up and the directory was not there, all that is new stands on the way
to it. -/
theorem Makes.new_above (ht : t.Rooted) (h : Makes t p t') (hp : Proper p.names)
    (hfind : t'.find p = .ok (base, .directory)) :
    t' = t ∨ t.node? base = none ∧ ∀ l, t'.node? l ≠ t.node? l → l <+: base := by
  have hdot : ∀ {p : Path}, Proper p.names → p.name ≠ ['.'] := fun hp =>
    Path.name_ne_of_not_mem (by simp) fun hmem => (hp _ hmem).2.1 rfl
  induction h generalizing base with
  | @made p t' hmade =>
      obtain ⟨l, hvacancy, rfl, hfind'⟩ := find_of_makeDirectory (hdot hp) hmade
      obtain ⟨rfl, -⟩ := Prod.mk.inj (Except.ok.inj (hfind.symm.trans hfind'))
      obtain ⟨-, -, hfree, parent, hl, -⟩ := vacancy_eq_ok hvacancy
      refine .inr ⟨hfree, fun k hk => ?_⟩
      obtain rfl := eq_of_node?_set_ne (by simp [hl]) hk
      exact List.prefix_refl _
  | there => exact .inl rfl
  | @above p t₁ t' hnames parents hmade ih =>
      obtain ⟨l, hvacancy, rfl, hfind'⟩ := find_of_makeDirectory (hdot hp) hmade
      obtain ⟨rfl, -⟩ := Prod.mk.inj (Except.ok.inj (hfind.symm.trans hfind'))
      obtain ⟨-, -, hfree, -⟩ := vacancy_eq_ok hvacancy
      obtain ⟨parent, rfl, hparent⟩ := exists_find_parent_of_vacancy hvacancy
      -- what is new above is on the way to the directory above, and so on the way to this one
      have habove : ∀ k, t₁.node? k ≠ t.node? k → k <+: parent := by
        intro k hk
        rcases ih hp.dropLast hparent with rfl | ⟨-, hchanged⟩
        · exact absurd rfl hk
        · exact hchanged k hk
      refine .inr ⟨(node?_in_of_new_above habove p.name).symm.trans hfree, fun k hk => ?_⟩
      by_cases hkl : k = parent ++ [p.name]
      · exact hkl ▸ List.prefix_refl _
      · rw [node?_set_of_ne (by simp) hkl] at hk
        exact (habove k hk).trans (List.prefix_append _ _)
  | @found p t₁ text hnames missing parents refused _ ih =>
      obtain ⟨parent, hparent⟩ := exists_find_parent hnames hfind
      rcases ih hp.dropLast hparent with rfl | ⟨hfree, hchanged⟩
      · exact absurd missing (refused text)
      · exact absurd hfind (find_in_new_ne ht hp hnames hparent hfree hchanged)

/-- **Below the directory that was made everything is as before**, if it was there or its path does
not go up. -/
theorem node?_below_of_makeDirectories (ht : t.Rooted) (hp : ['.'] ∉ p.names)
    (hup : t.isDirectory p = .ok true ∨ Proper p.names) (h : t.makeDirectories p = .ok t')
    (hfind : t'.find p = .ok (base, .directory)) {l : Location} (hl : base <+: l)
    (hne : l ≠ base) : t'.node? l = t.node? l := by
  have hname : p.name ≠ ['.'] := Path.name_ne_of_not_mem (by simp) hp
  rcases hup with hthere | hp
  · obtain ⟨l', hl'⟩ := isDirectory_iff.mp hthere
    rw [Except.ok.inj (h.symm.trans (makeDirectories_of_find hname hl'))]
  · rcases (makes_of_makeDirectoriesUp h).new_above ht hp hfind with rfl | ⟨-, hchanged⟩
    · rfl
    · by_contra hdiffers
      have hlength := (hchanged l hdiffers).length_le
      exact hne (hl.eq_of_length_le hlength).symm

/-- Where the directories above a path cannot be made, its own cannot be made either. -/
theorem exists_makeDirectoriesUp_eq_error {fault : FileFault} (hp : ['.'] ∉ p.names)
    (hnames : p.names ≠ []) (h : t.makeDirectoriesUp p.parent up = .error (fault, t)) :
    ∃ fault', t.makeDirectoriesUp p (up + 1) = .error (fault', t) := by
  have hparent : p.parent.name ≠ ['.'] :=
    Path.name_ne_of_not_mem (by simp) fun hmem => hp (List.dropLast_subset _ hmem)
  have hnone : ∀ l, t.find p.parent ≠ .ok (l, .directory) := by
    intro l hfind
    cases h.symm.trans (makeDirectoriesUp_of_find hparent hfind)
  rw [makeDirectoriesUp]
  split
  · rename_i hmade
    obtain ⟨l, hvacancy, -⟩ := find_of_makeDirectory (Path.name_ne_of_not_mem (by simp) hp) hmade
    obtain ⟨parent, -, hfind⟩ := exists_find_parent_of_vacancy hvacancy
    exact absurd hfind (hnone parent)
  · rw [if_neg hnames, h]
    exact ⟨fault, rfl⟩
  · refine exists_acceptExisting_eq_error fun hdirectory => ?_
    obtain ⟨l, hfind⟩ := isDirectory_iff.mp hdirectory
    obtain ⟨parent, hparent⟩ := exists_find_parent hnames hfind
    exact hnone parent hparent

/-- **A second attempt is refused too**, and nothing is made in it. -/
theorem makeDirectoriesUp_again {fault : FileFault} (hp : ['.'] ∉ p.names)
    (h : t.makeDirectoriesUp p up = .error (fault, t')) :
    ∃ fault', t'.makeDirectoriesUp p up = .error (fault', t') := by
  induction up generalizing p fault with
  | zero =>
      have hsame := h
      rw [makeDirectoriesUp] at h
      split at h
      · cases h
      · obtain rfl := acceptExisting_eq_error h
        exact ⟨fault, hsame⟩
  | succ up ih =>
      have hsame := h
      rw [makeDirectoriesUp] at h
      split at h
      · cases h
      · split at h
        · obtain rfl := congrArg Prod.snd (Except.error.inj h)
          exact ⟨fault, hsame⟩
        rename_i hnames
        have hp' : ['.'] ∉ p.parent.names := fun hmem => hp (List.dropLast_subset _ hmem)
        have hname' : p.parent.name ≠ ['.'] := Path.name_ne_of_not_mem (by simp) hp'
        split at h
        · -- one of the directories above cannot be made, now as before
          rename_i refusal hparents
          obtain rfl := Except.error.inj h
          obtain ⟨fault', hagain⟩ := ih hp' hparents
          exact exists_makeDirectoriesUp_eq_error hp hnames hagain
        · -- they are all there, and the last one cannot be made
          rename_i t₁ hparents
          obtain ⟨l, hfind⟩ := (makes_of_makeDirectoriesUp hparents).exists_find hname'
          have hstays : t₁.makeDirectoriesUp p.parent up = .ok t₁ :=
            makeDirectoriesUp_of_find hname' hfind
          split at h
          · cases h
          · rename_i text hmissing
            obtain rfl := congrArg Prod.snd (Except.error.inj h)
            refine ⟨.refused .notFound text, ?_⟩
            rw [makeDirectoriesUp, hmissing]
            simp only [if_neg hnames, hstays, hmissing]
          · rename_i refusal hne hrefused
            obtain rfl := acceptExisting_eq_error h
            rw [makeDirectoriesUp]
            split
            · rename_i hmade
              cases hrefused.symm.trans hmade
            · rename_i text hmissing
              exact absurd (Except.error.inj (hrefused.symm.trans hmissing)) (hne text)
            · rename_i hrefused'
              obtain rfl := Except.error.inj (hrefused.symm.trans hrefused')
              exact ⟨fault, h⟩
      · obtain rfl := acceptExisting_eq_error h
        exact ⟨fault, hsame⟩

theorem makeDirectories_again {fault : FileFault} (hp : ['.'] ∉ p.names)
    (h : t.makeDirectories p = .error (fault, t')) :
    ∃ fault', t'.makeDirectories p = .error (fault', t') :=
  makeDirectoriesUp_again hp h

end Tree

end ContractVerifier
