import ContractVerifier.Files.Resolve

set_option autoImplicit false

/-! # Resolving replaces links

A location is **settled** in a tree if no link stands on the way to it or at it. Following the
links of a path to its end gives a settled location (`resolvesFully_of_complete`), and what stands
at a settled location is found there and nowhere else (`find_of_settled`).

A path that runs into a link leading back to itself is not followed to its end. A `..` behind such
a link can still bring it to a location that is there, and that location need not be settled.
-/

namespace ContractVerifier.Tree

variable {t : Tree}

/-! ## Names -/

/-- The name of an entry: any text but the empty one, `.` and `..`. -/
def IsName (name : Text) : Prop := name ≠ [] ∧ name ≠ ['.'] ∧ name ≠ ['.', '.']

theorem isName_of_not {name : Text} (hblank : ¬ (name = [] ∨ name = ['.']))
    (hup : ¬ name = ['.', '.']) : IsName name := by
  rw [not_or] at hblank
  exact ⟨hblank.1, hblank.2, hup⟩

theorem IsName.not_blank {name : Text} (h : IsName name) : ¬ (name = [] ∨ name = ['.']) :=
  not_or.mpr ⟨h.1, h.2.1⟩

theorem IsName.not_up {name : Text} (h : IsName name) : ¬ name = ['.', '.'] := h.2.2

/-- A location whose every part is the name of an entry. -/
def Proper (l : Location) : Prop := ∀ name ∈ l, IsName name

theorem proper_nil : Proper [] := by
  intro name h
  cases h

theorem Proper.dropLast {l : Location} (h : Proper l) : Proper l.dropLast :=
  fun name hname => h name (List.dropLast_subset l hname)

theorem Proper.snoc {l : Location} {name : Text} (h : Proper l) (hname : IsName name) :
    Proper (l ++ [name]) := by
  intro n hn
  rcases List.mem_append.mp hn with hn | hn
  · exact h n hn
  · rw [List.mem_singleton] at hn
    exact hn ▸ hname

/-- What `tidy` gives is proper. -/
theorem proper_tidy (names : List Text) : Proper (tidy names) := by
  suffices h : ∀ done, Proper done → Proper (names.foldl (fun done name =>
      if name = [] ∨ name = ['.'] then done
      else if name = ['.', '.'] then done.dropLast
      else done ++ [name]) done) from h [] proper_nil
  induction names with
  | nil => exact fun _ h => h
  | cons name names ih =>
      intro done h
      rw [List.foldl_cons]
      apply ih
      split
      · exact h
      · rename_i hblank
        split
        · exact h.dropLast
        · rename_i hup
          exact h.snoc (isName_of_not hblank hup)

/-- A proper location is tidy as it is. -/
theorem tidy_of_proper {l : Location} (h : Proper l) : tidy l = l := by
  suffices hfold : ∀ done, l.foldl (fun done name =>
      if name = [] ∨ name = ['.'] then done
      else if name = ['.', '.'] then done.dropLast
      else done ++ [name]) done = done ++ l from hfold []
  induction l with
  | nil => simp
  | cons name names ih =>
      intro done
      have hname : IsName name := h name (List.mem_cons_self ..)
      rw [List.foldl_cons, if_neg hname.not_blank, if_neg hname.not_up,
        ih (fun n hn => h n (List.mem_cons_of_mem _ hn))]
      simp

theorem mem_entries_of_node? {l : Location} {node : Node} (hl : l ≠ [])
    (h : t.node? l = some node) : l ∈ t.entries.map Prod.fst := by
  rw [node?, if_neg hl, List.lookup_eq_some_iff] at h
  obtain ⟨before, after, heq, -⟩ := h
  rw [heq]
  simp

/-! ## Walking one name at a time -/

section Walk

variable {last : Bool} {links : Nat} {here : Location} {name : Text} {rest : List Text}

theorem walk_of_not_directory (hhere : t.node? here ≠ some .directory) :
    t.walk last links here (name :: rest) = .error .notDirectory := by
  rw [walk, if_pos hhere]

theorem walk_of_blank (hhere : t.node? here = some .directory) (hname : name = [] ∨ name = ['.']) :
    t.walk last links here (name :: rest) = t.walk last links here rest := by
  rw [walk, if_neg (fun h => h hhere), if_pos hname]

theorem walk_up (hhere : t.node? here = some .directory) :
    t.walk last links here (['.', '.'] :: rest) = t.walk last links here.dropLast rest := by
  rw [walk, if_neg (fun h => h hhere), if_neg (by decide), if_pos rfl]

/-- One step of a walk along the name of an entry. -/
theorem walk_name (hhere : t.node? here = some .directory) (hname : IsName name) :
    t.walk last links here (name :: rest) =
      if maxName < (Utf8.encode name).length then .error .nameTooLong
      else
        match t.node? (here ++ [name]) with
        | none => .error .notFound
        | some (.link target) =>
          if rest = [] ∧ ¬ last then .ok (here ++ [name])
          else
            match links with
            | 0 => .error .linkLoop
            | links + 1 =>
              t.walk last links (if target.head? = some '/' then [] else here)
                (Text.split '/' target ++ rest)
        | some _ => t.walk last links (here ++ [name]) rest := by
  rw [walk, if_neg (fun h => h hhere), if_neg hname.not_blank]
  exact if_neg hname.not_up

section Name

variable {target : Text} {node : Node} (hhere : t.node? here = some .directory)
  (hname : IsName name)

include hhere hname

theorem walk_of_tooLong (hlong : maxName < (Utf8.encode name).length) :
    t.walk last links here (name :: rest) = .error .nameTooLong := by
  rw [walk_name hhere hname, if_pos hlong]

variable (hshort : ¬ maxName < (Utf8.encode name).length)

include hshort

theorem walk_of_missing (hnode : t.node? (here ++ [name]) = none) :
    t.walk last links here (name :: rest) = .error .notFound := by
  rw [walk_name hhere hname, if_neg hshort, hnode]

/-- A link in the last place is where the walk ends, unless it is to be followed. -/
theorem walk_of_kept (hnode : t.node? (here ++ [name]) = some (.link target))
    (hkept : rest = [] ∧ ¬ last) :
    t.walk last links here (name :: rest) = .ok (here ++ [name]) := by
  rw [walk_name hhere hname, if_neg hshort, hnode]
  exact if_pos hkept

theorem walk_of_looped (hnode : t.node? (here ++ [name]) = some (.link target))
    (hfollowed : ¬ (rest = [] ∧ ¬ last)) :
    t.walk last 0 here (name :: rest) = .error .linkLoop := by
  rw [walk_name hhere hname, if_neg hshort, hnode]
  exact if_neg hfollowed

theorem walk_of_link (hnode : t.node? (here ++ [name]) = some (.link target))
    (hfollowed : ¬ (rest = [] ∧ ¬ last)) :
    t.walk last (links + 1) here (name :: rest) =
      t.walk last links (if target.head? = some '/' then [] else here)
        (Text.split '/' target ++ rest) := by
  rw [walk_name hhere hname, if_neg hshort, hnode]
  exact if_neg hfollowed

theorem walk_of_entry (hnode : t.node? (here ++ [name]) = some node)
    (hlink : ∀ target, node ≠ .link target) :
    t.walk last links here (name :: rest) = t.walk last links (here ++ [name]) rest := by
  rw [walk_name hhere hname, if_neg hshort, hnode]
  cases node with
  | link target => exact absurd rfl (hlink target)
  | file => rfl
  | directory => rfl

end Name

/-- Induction along a walk. The cases are the ways a step can go. -/
theorem walk_induction (t : Tree) (last : Bool) {motive : Nat → Location → List Text → Prop}
    (done : ∀ links here, motive links here [])
    (stuck : ∀ links here name rest, t.node? here ≠ some .directory →
      motive links here (name :: rest))
    (blank : ∀ links here name rest, t.node? here = some .directory →
      name = [] ∨ name = ['.'] → motive links here rest → motive links here (name :: rest))
    (up : ∀ links here rest, t.node? here = some .directory →
      motive links here.dropLast rest → motive links here (['.', '.'] :: rest))
    (tooLong : ∀ links here name rest, t.node? here = some .directory → IsName name →
      maxName < (Utf8.encode name).length → motive links here (name :: rest))
    (missing : ∀ links here name rest, t.node? here = some .directory → IsName name →
      ¬ maxName < (Utf8.encode name).length → t.node? (here ++ [name]) = none →
        motive links here (name :: rest))
    (kept : ∀ links here name rest target, t.node? here = some .directory → IsName name →
      ¬ maxName < (Utf8.encode name).length → t.node? (here ++ [name]) = some (.link target) →
        rest = [] ∧ ¬ last → motive links here (name :: rest))
    (looped : ∀ here name rest target, t.node? here = some .directory → IsName name →
      ¬ maxName < (Utf8.encode name).length → t.node? (here ++ [name]) = some (.link target) →
        ¬ (rest = [] ∧ ¬ last) → motive 0 here (name :: rest))
    (link : ∀ links here name rest target, t.node? here = some .directory → IsName name →
      ¬ maxName < (Utf8.encode name).length → t.node? (here ++ [name]) = some (.link target) →
        ¬ (rest = [] ∧ ¬ last) →
          motive links (if target.head? = some '/' then [] else here)
            (Text.split '/' target ++ rest) → motive (links + 1) here (name :: rest))
    (entry : ∀ links here name rest node, t.node? here = some .directory → IsName name →
      ¬ maxName < (Utf8.encode name).length → t.node? (here ++ [name]) = some node →
        (∀ target, node ≠ .link target) → motive links (here ++ [name]) rest →
          motive links here (name :: rest))
    (links : Nat) (here : Location) (names : List Text) : motive links here names := by
  induction links, here, names using walk.induct t last with
  | case1 links here => exact done links here
  | case2 links here name rest hhere => exact stuck links here name rest hhere
  | case3 links here name rest hhere hblank ih =>
      exact blank links here name rest (Classical.not_not.mp hhere) hblank ih
  | case4 links here rest hhere _ ih => exact up links here rest (Classical.not_not.mp hhere) ih
  | case5 links here name rest hhere hblank hup hlong =>
      exact tooLong links here name rest (Classical.not_not.mp hhere) (isName_of_not hblank hup)
        hlong
  | case6 links here name rest hhere hblank hup hshort hnode =>
      exact missing links here name rest (Classical.not_not.mp hhere) (isName_of_not hblank hup)
        hshort hnode
  | case7 links here name rest hhere hblank hup hshort target hnode hkept =>
      exact kept links here name rest target (Classical.not_not.mp hhere)
        (isName_of_not hblank hup) hshort hnode hkept
  | case8 here name rest hhere hblank hup hshort target hnode hfollowed =>
      exact looped here name rest target (Classical.not_not.mp hhere) (isName_of_not hblank hup)
        hshort hnode hfollowed
  | case9 here name rest hhere hblank hup hshort target hnode hfollowed links ih =>
      exact link links here name rest target (Classical.not_not.mp hhere)
        (isName_of_not hblank hup) hshort hnode hfollowed ih
  | case10 links here name rest hhere hblank hup hshort node hlink hnode ih =>
      exact entry links here name rest node (Classical.not_not.mp hhere) (isName_of_not hblank hup)
        hshort hnode hlink ih

/-- Along a name that is no link a walk goes on behind it or stops, and not in a loop of links. -/
theorem walk_of_no_link (hname : IsName name) (hlink : t.link? (here ++ [name]) = none) :
    t.walk last links here (name :: rest) = t.walk last links (here ++ [name]) rest ∨
      ∃ e, e ≠ .linkLoop ∧ t.walk last links here (name :: rest) = .error e := by
  by_cases hhere : t.node? here = some .directory
  · by_cases hlong : maxName < (Utf8.encode name).length
    · exact .inr ⟨.nameTooLong, by simp, walk_of_tooLong hhere hname hlong⟩
    · cases hnode : t.node? (here ++ [name]) with
      | none => exact .inr ⟨.notFound, by simp, walk_of_missing hhere hname hlong hnode⟩
      | some node =>
          refine .inl (walk_of_entry hhere hname hlong hnode ?_)
          rintro target rfl
          rw [link?, hnode] at hlink
          cases hlink
  · exact .inr ⟨.notDirectory, by simp, walk_of_not_directory hhere⟩

end Walk

/-! ## Settled locations -/

/-- A location of proper names with no link on the way to it or at it. -/
structure Settled (t : Tree) (l : Location) : Prop where
  proper : Proper l
  link?_eq_none : ∀ k, k <+: l → t.link? k = none

theorem settled_nil (t : Tree) : t.Settled [] := by
  refine ⟨proper_nil, ?_⟩
  intro k hk
  rw [List.prefix_nil.mp hk]
  rfl

theorem Settled.dropLast {l : Location} (h : t.Settled l) : t.Settled l.dropLast :=
  ⟨h.proper.dropLast, fun k hk => h.link?_eq_none k (hk.trans (List.dropLast_prefix l))⟩

theorem Settled.snoc {l : Location} {name : Text} (h : t.Settled l) (hname : IsName name)
    (hlink : t.link? (l ++ [name]) = none) : t.Settled (l ++ [name]) := by
  refine ⟨h.proper.snoc hname, ?_⟩
  intro k hk
  rcases List.prefix_concat_iff.mp hk with rfl | hk
  · exact hlink
  · exact h.link?_eq_none k hk

/-- A walk along names that meets no link arrives where the names say. -/
theorem walk_of_settled {last : Bool} {links : Nat} {here l : Location} {names : List Text}
    (hnames : Proper names) (hlinks : ∀ k, k <+: here ++ names → t.link? k = none)
    (h : t.walk last links here names = .ok l) : l = here ++ names := by
  induction names generalizing here with
  | nil =>
      rw [walk] at h
      cases h
      exact (List.append_nil _).symm
  | cons name names ih =>
      have happend : here ++ name :: names = here ++ [name] ++ names := by simp
      have hlink : t.link? (here ++ [name]) = none :=
        hlinks _ (happend ▸ List.prefix_append _ _)
      have hnext : t.walk last links (here ++ [name]) names = .ok l := by
        rcases walk_of_no_link (hnames name List.mem_cons_self) hlink with hgoes | ⟨e, -, hstops⟩
        · exact hgoes.symm.trans h
        · cases hstops.symm.trans h
      rw [happend] at hlinks ⊢
      exact ih (fun n hn => hnames n (List.mem_cons_of_mem _ hn)) hlinks hnext

/-- What is found at a settled location is found there. -/
theorem find_of_settled {l l' : Location} {node : Node} (hsettled : t.Settled l)
    (h : t.find (.ofLocation l) = .ok (l', node)) : l' = l := by
  rw [find] at h
  split at h
  · cases h
  · split at h
    · cases h
    · split at h
      · cases h
      · rename_i l'' hwalk
        have hl : l'' = [] ++ l := walk_of_settled hsettled.proper hsettled.link?_eq_none hwalk
        split at h
        · cases h
          exact hl
        · cases h

/-! ## Following links to the end -/

/-- The locations that links are known to lead to are settled. -/
def SeenSettled (t : Tree) (seen : Seen) : Prop :=
  ∀ k l, seen.lookup k = some (some l) → t.Settled l

theorem seenSettled_nil (t : Tree) : SeenSettled t [] := by
  intro k l h
  cases h

theorem SeenSettled.cons {seen : Seen} {k : Location} {led : Option Location}
    (h : SeenSettled t seen) (hled : ∀ l, led = some l → t.Settled l) :
    SeenSettled t ((k, led) :: seen) := by
  intro j l hj
  rw [List.lookup_cons] at hj
  split at hj
  · exact hled l (Option.some.inj hj)
  · exact h j l hj

/-- Links followed to the end are gone. -/
theorem follow_settled {depth : Nat} {here : Location} {rest : List Text} {seen : Seen}
    (hhere : t.Settled here) (hseen : SeenSettled t seen)
    (h : (follow t depth here rest seen).complete = true) :
    t.Settled (follow t depth here rest seen).names ∧
      SeenSettled t (follow t depth here rest seen).seen := by
  fun_induction follow t depth here rest seen with
  | case1 => exact ⟨hhere, hseen⟩
  | case2 _ _ _ _ _ _ ih => exact ih hhere hseen h
  | case3 _ _ _ _ _ ih => exact ih hhere.dropLast hseen h
  | case4 _ _ _ name _ hblank hup next hlink ih =>
      exact ih (hhere.snoc (isName_of_not hblank hup) hlink) hseen h
  | case5 _ _ _ _ _ _ _ next _ _ l hlookup ih => exact ih (hseen next l hlookup) hseen h
  | case6 => cases h
  | case7 => cases h
  | case8 here seen _ _ _ _ next target _ _ _ start reached hcomplete ih _ ih' =>
      have hstart : t.Settled start := by
        unfold start
        split
        · exact settled_nil t
        · exact hhere
      obtain ⟨hnames, hreached⟩ := ih hstart (hseen.cons (by simp)) hcomplete
      exact ih' hnames (hreached.cons (fun l hl => Option.some.inj hl ▸ hnames)) h
  | case9 => cases h

theorem proper_of_resolve {p : Path} {l : Location} (h : t.resolve p = .ok l) : Proper l := by
  rw [resolve] at h
  split at h
  · cases h
  · simp only at h
    split at h
    · cases h
    · cases h
      exact proper_tidy _

/-- The path `p` **resolves fully**: what it stands for is settled. -/
def ResolvesFully (t : Tree) (p : Path) : Prop := ∀ l, t.resolve p = .ok l → t.Settled l

/-- A path whose links can be followed to the end resolves fully. -/
theorem resolvesFully_of_complete {p : Path}
    (h : (follow t (t.entries.length + 1) [] p.names []).complete = true) :
    t.ResolvesFully p := by
  intro l hl
  have hsettled := (follow_settled (settled_nil t) (seenSettled_nil t) h).1
  rw [resolve] at hl
  split at hl
  · cases hl
  · simp only [tidy_of_proper hsettled.proper] at hl
    split at hl
    · cases hl
    · cases hl
      exact hsettled

end ContractVerifier.Tree
