import ContractVerifier.Proofs.Files.Agreement
import ContractVerifier.Proofs.Files.Places

set_option autoImplicit false

/-! # What is found is what a path stands for

There are two ways to follow a path: `find` goes through a link by putting the link's names in its
place, and counts the links; `resolve` follows the link's names first and remembers where links led.
A walk that arrives (`Arrives`) takes each link apart from what is behind it, and a link does not
lead through itself, because that would take more links than it takes. So `resolve` arrives at the
same location: `resolve_of_find`.
-/

namespace ContractVerifier.Tree

variable {t t₁ t₂ : Tree}

/-- Where the names of a link in the directory `here` start. -/
def linkStart (target : Text) (here : Location) : Location :=
  if target.head? = some '/' then [] else here

/-- Going along names from a directory arrives at a location, through so many links. -/
inductive Arrives (t : Tree) : Location → List Text → Location → Nat → Prop
  | done {here : Location} : Arrives t here [] here 0
  | blank {here l : Location} {name : Text} {rest : List Text} {n : Nat}
      (directory : t.node? here = some .directory) (hname : name = [] ∨ name = ['.'])
      (next : Arrives t here rest l n) : Arrives t here (name :: rest) l n
  | up {here l : Location} {rest : List Text} {n : Nat}
      (directory : t.node? here = some .directory) (next : Arrives t here.dropLast rest l n) :
      Arrives t here (['.', '.'] :: rest) l n
  | entry {here l : Location} {name : Text} {rest : List Text} {n : Nat}
      (directory : t.node? here = some .directory) (hname : IsName name)
      (short : ¬ maxName < (Utf8.encode name).length)
      (there : t.node? (here ++ [name]) ≠ none) (plain : t.link? (here ++ [name]) = none)
      (next : Arrives t (here ++ [name]) rest l n) : Arrives t here (name :: rest) l n
  | link {here l : Location} {name target : Text} {rest : List Text} {n : Nat}
      (directory : t.node? here = some .directory) (hname : IsName name)
      (short : ¬ maxName < (Utf8.encode name).length)
      (leads : t.link? (here ++ [name]) = some target)
      (next : Arrives t (linkStart target here) (Text.split '/' target ++ rest) l n) :
      Arrives t here (name :: rest) l (n + 1)

/-! ## Walks that arrive -/

theorem exists_arrives_of_walk {links : Nat} {here l : Location} {names : List Text}
    (h : t.walk true links here names = .ok l) : ∃ n ≤ links, Arrives t here names l n := by
  induction links, here, names using walk_induction t true with
  | done =>
      rw [walk] at h
      cases h
      exact ⟨0, Nat.zero_le _, .done⟩
  | stuck _ _ _ _ hhere =>
      rw [walk_of_not_directory hhere] at h
      cases h
  | blank _ _ _ _ hhere hblank ih =>
      rw [walk_of_blank hhere hblank] at h
      obtain ⟨n, hn, harrives⟩ := ih h
      exact ⟨n, hn, .blank hhere hblank harrives⟩
  | up _ _ _ hhere ih =>
      rw [walk_up hhere] at h
      obtain ⟨n, hn, harrives⟩ := ih h
      exact ⟨n, hn, .up hhere harrives⟩
  | tooLong _ _ _ _ hhere hname hlong =>
      rw [walk_of_tooLong hhere hname hlong] at h
      cases h
  | missing _ _ _ _ hhere hname hshort hnode =>
      rw [walk_of_missing hhere hname hshort hnode] at h
      cases h
  | kept _ _ _ _ _ _ _ _ _ hkept => exact absurd rfl hkept.2
  | looped _ _ _ _ hhere hname hshort hnode hfollowed =>
      rw [walk_of_looped hhere hname hshort hnode hfollowed] at h
      cases h
  | link links here name rest target hhere hname hshort hnode hfollowed ih =>
      rw [walk_of_link hhere hname hshort hnode hfollowed] at h
      obtain ⟨n, hn, harrives⟩ := ih h
      exact ⟨n + 1, Nat.succ_le_succ hn, .link hhere hname hshort
        (link?_eq_some_iff.mpr hnode) harrives⟩
  | entry _ here name _ node hhere hname hshort hnode hlink ih =>
      rw [walk_of_entry hhere hname hshort hnode hlink] at h
      obtain ⟨n, hn, harrives⟩ := ih h
      have hplain : t.link? (here ++ [name]) = none := by
        cases hl : t.link? (here ++ [name]) with
        | none => rfl
        | some target =>
            have hnode' := hnode.symm.trans (link?_eq_some_iff.mp hl)
            exact absurd (Option.some.inj hnode') (hlink target)
      exact ⟨n, hn, .entry hhere hname hshort (by simp [hnode]) hplain harrives⟩

namespace Arrives

variable {here l l' mid : Location} {names a b : List Text} {n n' m k : Nat}

theorem walk_eq {links : Nat} (h : Arrives t here names l n) (hlinks : n ≤ links) :
    t.walk true links here names = .ok l := by
  induction h generalizing links with
  | done => rw [walk]
  | blank directory hname next ih => rw [walk_of_blank directory hname, ih hlinks]
  | up directory next ih => rw [walk_up directory, ih hlinks]
  | entry directory hname short there plain next ih =>
      rw [walk_name directory hname, if_neg short]
      split
      · rename_i hnone
        exact absurd hnone there
      · rename_i target hnode
        rw [link?_eq_some_iff.mpr hnode] at plain
        cases plain
      · exact ih hlinks
  | link directory hname short leads next ih =>
      obtain ⟨links, rfl⟩ : ∃ links', links = links' + 1 := ⟨links - 1, by omega⟩
      rw [walk_name directory hname, if_neg short]
      simp only [link?_eq_some_iff.mp leads]
      rw [if_neg (by simp)]
      exact ih (Nat.le_of_succ_le_succ hlinks)

/-- Where going along names arrives is determined, and so is the number of links. -/
theorem unique (h : Arrives t here names l n) (h' : Arrives t here names l' n') :
    l' = l ∧ n' = n := by
  induction h generalizing l' n' with
  | done =>
      cases h'
      exact ⟨rfl, rfl⟩
  | blank directory hname next ih =>
      cases h' with
      | blank _ _ next' => exact ih next'
      | up => simp at hname
      | entry _ hname' => exact absurd hname hname'.not_blank
      | link _ hname' => exact absurd hname hname'.not_blank
  | up directory next ih =>
      cases h' with
      | blank _ hname' => simp at hname'
      | up _ next' => exact ih next'
      | entry _ hname' => exact absurd rfl hname'.not_up
      | link _ hname' => exact absurd rfl hname'.not_up
  | entry directory hname short there plain next ih =>
      cases h' with
      | blank _ hname' => exact absurd hname' hname.not_blank
      | up => exact absurd rfl hname.not_up
      | entry _ _ _ _ _ next' => exact ih next'
      | link _ _ _ leads' =>
          rw [plain] at leads'
          cases leads'
  | link directory hname short leads next ih =>
      cases h' with
      | blank _ hname' => exact absurd hname' hname.not_blank
      | up => exact absurd rfl hname.not_up
      | entry _ _ _ _ plain' =>
          rw [plain'] at leads
          cases leads
      | link _ _ _ leads' next' =>
          obtain rfl := Option.some.inj (leads.symm.trans leads')
          obtain ⟨hl, hn⟩ := ih next'
          exact ⟨hl, congrArg (· + 1) hn⟩

/-- One name of an entry that is no link leads to that entry. -/
theorem eq_of_name {name : Text} (h : Arrives t here [name] l n) (hname : IsName name)
    (plain : t.link? (here ++ [name]) = none) : l = here ++ [name] := by
  cases h with
  | blank _ hblank => exact absurd hblank hname.not_blank
  | up => exact absurd rfl hname.not_up
  | entry _ _ _ _ _ next =>
      cases next with
      | done => rfl
  | link _ _ _ leads =>
      rw [plain] at leads
      cases leads

/-- Going on from where the first names arrive. -/
theorem append (h : Arrives t here a mid m) (h' : Arrives t mid b l k) :
    Arrives t here (a ++ b) l (m + k) := by
  induction h with
  | done =>
      rw [Nat.zero_add]
      exact h'
  | blank directory hname next ih => exact .blank directory hname (ih h')
  | up directory next ih => exact .up directory (ih h')
  | entry directory hname short there plain next ih =>
      exact .entry directory hname short there plain (ih h')
  | link directory hname short leads next ih =>
      have hrest := ih h'
      rw [List.append_assoc] at hrest
      have hlink := Arrives.link directory hname short leads hrest
      rwa [Nat.add_right_comm] at hlink

/-- The first names arrive somewhere, and the others go on from there. -/
theorem of_append (h : Arrives t here names l n) (hnames : names = a ++ b) :
    ∃ mid m k, Arrives t here a mid m ∧ Arrives t mid b l k ∧ n = m + k := by
  induction h generalizing a with
  | @done here =>
      obtain ⟨rfl, rfl⟩ := List.append_eq_nil_iff.mp hnames.symm
      exact ⟨here, 0, 0, .done, .done, rfl⟩
  | @blank here l name rest n directory hname next ih =>
      rcases List.cons_eq_append_iff.mp hnames with ⟨rfl, rfl⟩ | ⟨a, rfl, hrest⟩
      · exact ⟨here, 0, n, .done, .blank directory hname next, (Nat.zero_add n).symm⟩
      · obtain ⟨mid, m, k, hm, hk, hn⟩ := ih hrest
        exact ⟨mid, m, k, .blank directory hname hm, hk, hn⟩
  | @up here l rest n directory next ih =>
      rcases List.cons_eq_append_iff.mp hnames with ⟨rfl, rfl⟩ | ⟨a, rfl, hrest⟩
      · exact ⟨here, 0, n, .done, .up directory next, (Nat.zero_add n).symm⟩
      · obtain ⟨mid, m, k, hm, hk, hn⟩ := ih hrest
        exact ⟨mid, m, k, .up directory hm, hk, hn⟩
  | @entry here l name rest n directory hname short there plain next ih =>
      rcases List.cons_eq_append_iff.mp hnames with ⟨rfl, rfl⟩ | ⟨a, rfl, hrest⟩
      · exact ⟨here, 0, n, .done, .entry directory hname short there plain next,
          (Nat.zero_add n).symm⟩
      · obtain ⟨mid, m, k, hm, hk, hn⟩ := ih hrest
        exact ⟨mid, m, k, .entry directory hname short there plain hm, hk, hn⟩
  | @link here l name target rest n directory hname short leads next ih =>
      rcases List.cons_eq_append_iff.mp hnames with ⟨rfl, rfl⟩ | ⟨a, rfl, rfl⟩
      · exact ⟨here, 0, n + 1, .done, .link directory hname short leads next,
          (Nat.zero_add _).symm⟩
      · obtain ⟨mid, m, k, hm, hk, hn⟩ := ih (List.append_assoc _ _ _).symm
        exact ⟨mid, m + 1, k, .link directory hname short leads hm, hk, by omega⟩

end Arrives

/-! ## Following links -/

/-- What is known of links is right: a link that was followed leads where it is said to lead. -/
def Right (t : Tree) (seen : Seen) : Prop :=
  ∀ k l, seen.lookup k = some (some l) →
    ∃ target n, t.link? k = some target ∧
      Arrives t (linkStart target k.dropLast) (Text.split '/' target) l n

/-- The links that are being followed take at least so many links. -/
def AtLeast (t : Tree) (n : Nat) (seen : Seen) : Prop :=
  ∀ k target l m, seen.lookup k = some none → t.link? k = some target →
    Arrives t (linkStart target k.dropLast) (Text.split '/' target) l m → n ≤ m

theorem Right.cons {seen : Seen} {k : Location} {led : Option Location} (h : Right t seen)
    (hled : ∀ l, led = some l → ∃ target n, t.link? k = some target ∧
      Arrives t (linkStart target k.dropLast) (Text.split '/' target) l n) :
    Right t ((k, led) :: seen) := by
  intro j l hj
  rw [List.lookup_cons] at hj
  split at hj
  · rename_i heq
    rw [beq_iff_eq.mp heq]
    exact hled l (Option.some.inj hj)
  · exact h j l hj

theorem AtLeast.mono {n m : Nat} {seen seen' : Seen} (h : AtLeast t n seen) (hm : m ≤ n)
    (hkeep : ∀ k, seen'.lookup k = some none → seen.lookup k = some none) : AtLeast t m seen' :=
  fun k target l j hk hlink harrives => hm.trans (h k target l j (hkeep k hk) hlink harrives)

/-- A link that takes `n` links can be followed if those that are being followed take as many. -/
theorem AtLeast.push {n m : Nat} {seen : Seen} {here mid : Location} {name target : Text}
    (h : AtLeast t n seen) (hm : m ≤ n) (leads : t.link? (here ++ [name]) = some target)
    (harrives : Arrives t (linkStart target here) (Text.split '/' target) mid m) :
    AtLeast t m ((here ++ [name], none) :: seen) := by
  intro k target' l j hk hlink harrives'
  rw [List.lookup_cons] at hk
  split at hk
  · rename_i heq
    rw [beq_iff_eq.mp heq] at hlink harrives'
    obtain rfl := Option.some.inj (leads.symm.trans hlink)
    rw [List.dropLast_concat] at harrives'
    exact Nat.le_of_eq (harrives.unique harrives').2.symm
  · exact hm.trans (h k target' l j hk hlink harrives')

/-- Once a new link was followed, the links that are being followed are those that were before. -/
theorem lookup_followed_iff {seen seen' : Seen} {next mid k : Location}
    (hnew : seen.lookup next = none)
    (hsame : seen'.lookup k = some none ↔ List.lookup k ((next, none) :: seen) = some none) :
    List.lookup k ((next, some mid) :: seen') = some none ↔ seen.lookup k = some none := by
  rw [List.lookup_cons] at hsame ⊢
  split
  · rename_i heq
    rw [beq_iff_eq.mp heq, hnew]
    simp
  · rename_i hne
    rwa [hne] at hsame

/-- Where names arrive, following them arrives too. What is known of links stays right, and those
that are being followed are those that were before. -/
theorem follow_of_arrives {here l : Location} {names : List Text} {n : Nat}
    (h : Arrives t here names l n) {depth : Nat} {seen : Seen} (hdepth : Enough t seen depth)
    (hright : Right t seen) (hleast : AtLeast t n seen) :
    ∃ seen', follow t depth here names seen = ⟨l, true, seen'⟩ ∧ Right t seen' ∧
      ∀ k, seen'.lookup k = some none ↔ seen.lookup k = some none := by
  -- a link and what is behind it take fewer links than both together
  induction n using Nat.strong_induction_on generalizing here l names depth seen with
  | _ n ih =>
    induction h generalizing depth seen with
    | done => exact ⟨seen, by rw [follow], hright, fun k => Iff.rfl⟩
    | blank directory hname next ih' =>
        rw [follow, if_pos hname]
        exact ih' ih hdepth hright hleast
    | up directory next ih' =>
        rw [follow, if_neg (by decide), if_pos rfl]
        exact ih' ih hdepth hright hleast
    | entry directory hname short there plain next ih' =>
        rw [follow_name hname, plain]
        exact ih' ih hdepth hright hleast
    | @link here l name target rest n directory hname short leads next _ =>
        obtain ⟨mid, m, k, hm, hk, rfl⟩ := next.of_append rfl
        rw [follow_name hname, leads]
        cases hlookup : seen.lookup (here ++ [name]) with
        | some led =>
            cases led with
            | some l' =>
                -- followed before, so it led to where it leads
                obtain ⟨target', n', leads', harrives⟩ := hright _ l' hlookup
                obtain rfl := Option.some.inj (leads.symm.trans leads')
                rw [List.dropLast_concat] at harrives
                obtain ⟨rfl, -⟩ := hm.unique harrives
                exact ih k (by omega) hk hdepth hright (hleast.mono (by omega) fun _ => id)
            | none =>
                -- being followed, so it takes as many links as both together
                have hle := hleast _ target mid m hlookup leads (by rwa [List.dropLast_concat])
                omega
        | none =>
            obtain ⟨d, rfl, hinner⟩ := hdepth.push (by rw [leads]; simp) hlookup
            obtain ⟨seen₁, hfollow, hright₁, hsame₁⟩ := ih m (by omega) hm hinner
              (hright.cons (by simp)) (hleast.push (by omega) leads hm)
            have hnew : ∀ k', List.lookup k' ((here ++ [name], some mid) :: seen₁) = some none ↔
                seen.lookup k' = some none :=
              fun k' => lookup_followed_iff hlookup (hsame₁ k')
            obtain ⟨seen₂, hrest, hright₂, hsame₂⟩ := ih k (by omega) hk
              (hdepth.mono fun k' hk' => (hnew k').mpr hk')
              (hright₁.cons fun l' hl' => ⟨target, m, leads, by
                rw [List.dropLast_concat, ← Option.some.inj hl']
                exact hm⟩)
              (hleast.mono (by omega) fun k' hk' => (hnew k').mp hk')
            refine ⟨seen₂, ?_, hright₂, fun k' => (hsame₂ k').trans (hnew k')⟩
            unfold linkStart at hfollow
            simp only [hfollow, if_true]
            exact hrest

/-- Names that meet no link are walked without running into a loop of links. -/
theorem walk_ne_linkLoop {last : Bool} {links : Nat} {here : Location} {names : List Text}
    (hnames : Proper names) (hlinks : ∀ k, k <+: here ++ names → t.link? k = none) :
    t.walk last links here names ≠ .error .linkLoop := by
  induction names generalizing here with
  | nil =>
      rw [walk]
      simp
  | cons name names ih =>
      have happend : here ++ name :: names = here ++ [name] ++ names := by simp
      have hlink : t.link? (here ++ [name]) = none := hlinks _ (happend ▸ List.prefix_append _ _)
      rw [happend] at hlinks
      rcases walk_of_no_link (hnames name List.mem_cons_self) hlink with hgoes | ⟨e, he, hstops⟩
      · rw [hgoes]
        exact ih (fun n hn => hnames n (List.mem_cons_of_mem _ hn)) hlinks
      · rw [hstops]
        simpa using he

/-! ## Finding and resolving -/

theorem find_ne_linkLoop {l : Location} {path : Text} (h : t.Settled l) :
    t.find (.ofLocation l) ≠ .error (.refused .linkLoop path) := by
  intro hfind
  rw [find] at hfind
  split at hfind
  · cases hfind
  · split at hfind
    · cases hfind
    · split at hfind
      · rename_i e hwalk
        obtain ⟨rfl, -⟩ := FileFault.refused.inj (Except.error.inj hfind)
        have hlinks : ∀ k, k <+: [] ++ l → t.link? k = none := h.link?_eq_none
        exact walk_ne_linkLoop h.proper hlinks hwalk
      · split at hfind <;> cases hfind

theorem find_eq_ok_iff {p : Path} {l : Location} {node : Node} :
    t.find p = .ok (l, node) ↔ p.text.contains '\x00' = false ∧
      ¬ maxPath < (Utf8.encode p.text).length ∧ t.node? l = some node ∧
        ∃ n ≤ maxLinks, Arrives t [] p.names l n := by
  rw [find]
  constructor
  · intro h
    split at h
    · cases h
    · rename_i hzero
      split at h
      · cases h
      · rename_i hlong
        split at h
        · cases h
        · rename_i l' hwalk
          split at h
          · rename_i node' hnode
            obtain ⟨rfl, rfl⟩ := Prod.mk.inj (Except.ok.inj h)
            exact ⟨by simpa using hzero, hlong, hnode, exists_arrives_of_walk hwalk⟩
          · cases h
  · rintro ⟨hzero, hlong, hnode, n, hn, harrives⟩
    rw [hzero, if_neg (by simp), if_neg hlong, harrives.walk_eq hn]
    simp only [hnode]

/-- **What is found is what the path stands for**, and no link stands on the way to it. -/
theorem resolve_of_find {p : Path} {l : Location} {node : Node} (h : t.find p = .ok (l, node)) :
    t.resolve p = .ok l ∧ t.Settled l := by
  obtain ⟨hzero, -, -, n, -, harrives⟩ := find_eq_ok_iff.mp h
  have hright : Right t [] := by
    intro k l' hk
    cases hk
  have hleast : AtLeast t n [] := by
    intro k target l' m hk
    cases hk
  obtain ⟨seen', hfollow, -, -⟩ := follow_of_arrives harrives (enough_start t) hright hleast
  have hsettled : t.Settled l := by
    have hcomplete : (follow t (t.entries.length + 1) [] p.names []).complete = true := by
      rw [hfollow]
    have hfollowed := (follow_settled (settled_nil t) (seenSettled_nil t) hcomplete).1
    rwa [hfollow] at hfollowed
  refine ⟨?_, hsettled⟩
  rw [resolve, hzero, if_neg (by simp), hfollow]
  simp only [tidy_of_proper hsettled.proper]
  split
  · rename_i path hloop
    exact absurd hloop (find_ne_linkLoop hsettled)
  · rfl

end ContractVerifier.Tree
