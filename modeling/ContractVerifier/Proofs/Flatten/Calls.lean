import ContractVerifier.Proofs.Flatten.Runs

set_option autoImplicit false

/-! # The calls of a walk

`inline` calls itself for every file that the walk comes to. Here the calls are listed
(`inlineCalls`): each with its **level**, which is the number of calls that it stands in, and the
files that the walk had come to when it began. A call always comes to a file of its own (`Begun`),
and a run comes to the end of its depth exactly if one of its calls is that deep
(`level_of_mem_inlineCalls`, `exists_level_of_deepImports`). Otherwise the depth does not matter
(`inline_eq_of_level_lt`).
-/

namespace ContractVerifier.Flatten

open Solidity

variable {t : Tree} {roots : Roots}

/-! ## The calls -/

/-- A call of `inline`: the number of calls it stands in, the file it inlines, and the files that
the walk had come to when it began. -/
structure InlineCall where
  level : Nat
  file : Location
  handled : List Location
  deriving DecidableEq, Repr

/-- The calls made while an import is visited: those for the file it leads to, if the walk comes
to it for the first time. -/
def visitCalls (t : Tree) (roots : Roots) (fileCalls : Location → Text → Progress → List InlineCall)
    (here : Location) (i : Import) (p : Progress) : List InlineCall :=
  match leadsTo t roots here i.path with
  | .ok (some target) =>
    if p.handled.contains target then []
    else
      match (p.note target).read t target with
      | (.ok text, p) => fileCalls target text p
      | (.error _, _) => []
  | _ => []

/-- The calls made while the pieces of a text are gone through, until a visit ends the walk. -/
def walkCalls (visit : Import → Progress → Except Fault (Option Text) × Progress)
    (importCalls : Import → Progress → List InlineCall) :
    List (Piece Import) → Progress → List InlineCall
  | [], _ => []
  | .plain _ :: rest, p => walkCalls visit importCalls rest p
  | .found _ i :: rest, p =>
    importCalls i p ++
      match visit i p with
      | (.error _, _) => []
      | (.ok _, p) => walkCalls visit importCalls rest p

/-- The calls made for a file, its own first, in the order in which they begin. -/
def inlineCalls (t : Tree) (roots : Roots) :
    (depth level : Nat) → Location → Text → Progress → List InlineCall
  | 0, level, here, _, p => [⟨level, here, p.handled⟩]
  | depth + 1, level, here, text, p =>
    ⟨level, here, p.handled⟩ ::
      walkCalls (visitImport t roots (inline t roots depth) here)
        (visitCalls t roots (inlineCalls t roots depth (level + 1)) here)
        (pieces Import.recognise text) p

/-! ## Every call comes to a new file -/

/-- Calls that begin one after another when the walk had come to the files `seen`, and the files it
came to with the last of them: each comes to a file of its own, and stands in fewer calls than there
are files by then. -/
inductive Begun : List Location → List InlineCall → List Location → Prop
  | nil {seen : List Location} : Begun seen [] seen
  | cons {seen seen' : List Location} {c : InlineCall} {cs : List InlineCall} (new : c.file ∉ seen)
      (handled_eq : c.handled = seen ++ [c.file]) (level_lt : c.level < c.handled.length)
      (rest : Begun c.handled cs seen') : Begun seen (c :: cs) seen'

namespace Begun

variable {seen seen' seen'' : List Location} {cs cs' : List InlineCall}

theorem append (h : Begun seen cs seen') (h' : Begun seen' cs' seen'') :
    Begun seen (cs ++ cs') seen'' := by
  induction h with
  | nil => exact h'
  | cons new handled_eq level_lt _ ih => exact .cons new handled_eq level_lt (ih h')

/-- What the walk came to are the files of the calls. -/
theorem eq_append (h : Begun seen cs seen') : seen' = seen ++ cs.map InlineCall.file := by
  induction h with
  | nil => simp
  | cons _ handled_eq _ _ ih => simp [ih, handled_eq]

theorem length_le (h : Begun seen cs seen') : seen.length ≤ seen'.length := by
  rw [h.eq_append, List.length_append]
  omega

theorem nodup (h : Begun seen cs seen') (hseen : seen.Nodup) : seen'.Nodup := by
  induction h with
  | nil => exact hseen
  | cons new handled_eq _ _ ih =>
      apply ih
      rw [handled_eq, ← List.concat_eq_append]
      exact hseen.concat new

theorem level_lt_length (h : Begun seen cs seen') : ∀ c ∈ cs, c.level < seen'.length := by
  induction h with
  | nil => simp
  | cons _ _ level_lt rest ih =>
      intro d hd
      rcases List.mem_cons.mp hd with rfl | hd
      · exact lt_of_lt_of_le level_lt rest.length_le
      · exact ih d hd

/-- At each call, the files come to are those of the calls until then, and its own is the last. -/
theorem handled_eq_of_split (h : Begun seen cs seen') {before after : List InlineCall}
    {c : InlineCall} (hcs : cs = before ++ c :: after) :
    c.handled = seen ++ before.map InlineCall.file ++ [c.file] ∧
      c.file ∉ seen ++ before.map InlineCall.file := by
  induction h generalizing before with
  | nil => simp at hcs
  | @cons seen seen' d cs new handled_eq _ _ ih =>
      cases before with
      | nil =>
          obtain ⟨rfl, -⟩ := List.cons.inj hcs
          simpa using ⟨handled_eq, new⟩
      | cons b before =>
          obtain ⟨rfl, hrest⟩ := List.cons.inj hcs
          have hlast := ih hrest
          rw [handled_eq] at hlast
          simpa using hlast

end Begun

/-- A run with its calls: they begin after the files `seen`, and the run comes to no more files than
they do, or ends when it cannot read the next one. -/
def Logged {α : Type} (seen : List Location) (cs : List InlineCall)
    (r : Except Fault α × Progress) : Prop :=
  ∃ seen', Begun seen cs seen' ∧ seen' <+: r.2.handled ∧ ∀ a, r.1 = .ok a → r.2.handled = seen'

theorem logged_visitCalls {inlineFile : Location → Text → Progress → Except Fault Text × Progress}
    {fileCalls : Location → Text → Progress → List InlineCall} {here : Location} {i : Import}
    {p : Progress}
    (hinline : ∀ b text q, b ∉ p.handled → q.handled = p.handled ++ [b] →
      Logged p.handled (fileCalls b text q) (inlineFile b text q)) :
    Logged p.handled (visitCalls t roots fileCalls here i p)
      (visitImport t roots inlineFile here i p) := by
  have hsame : ∀ {r : Except Fault (Option Text)}, Logged p.handled [] (r, p) :=
    ⟨p.handled, .nil, List.prefix_refl _, fun _ _ => rfl⟩
  rw [visitCalls, visitImport]
  cases leadsTo t roots here i.path with
  | error e => exact hsame
  | ok target =>
      cases target with
      | none => exact hsame
      | some b =>
          simp only
          by_cases hb : b ∈ p.handled
          · simp only [List.contains_iff_mem, if_pos hb]
            exact hsame
          simp only [List.contains_iff_mem, if_neg hb]
          have hhandled : ((p.note b).read t b).2.handled = p.handled ++ [b] := rfl
          generalize (p.note b).read t b = r at hhandled
          obtain ⟨_ | text, q⟩ := r
          · -- the walk came to the file and cannot read it, so there is no call for it
            refine ⟨p.handled, .nil, ?_, by simp⟩
            rw [hhandled]
            exact List.prefix_append _ _
          · obtain ⟨seen', hbegun, hle, hok⟩ := hinline b text q hb hhandled
            refine ⟨seen', hbegun, ?_⟩
            simp only
            generalize inlineFile b text q = r at hle hok
            obtain ⟨_ | body, q'⟩ := r
            · exact ⟨hle, by simp⟩
            · exact ⟨hle, fun _ _ => hok body rfl⟩

theorem logged_walkCalls {visit : Import → Progress → Except Fault (Option Text) × Progress}
    {importCalls : Import → Progress → List InlineCall} {level : Nat}
    (hvisit : ∀ i p, level < p.handled.length →
      Logged p.handled (importCalls i p) (visit i p))
    {ps : List (Piece Import)} {done : List Text} {p : Progress}
    (hlevel : level < p.handled.length) :
    Logged p.handled (walkCalls visit importCalls ps p) (walkPieces visit ps done p) := by
  induction ps generalizing done p with
  | nil => exact ⟨p.handled, .nil, List.prefix_refl _, fun _ _ => rfl⟩
  | cons piece ps ih =>
      cases piece with
      | plain l => exact ih hlevel
      | found raw i =>
          obtain ⟨seen', hbegun, hle, hok⟩ := hvisit i p hlevel
          rw [walkCalls, walkPieces]
          generalize visit i p = r at hle hok
          obtain ⟨_ | left, q⟩ := r
          · -- the visit ended the walk, so its calls are the last
            rw [List.append_nil]
            exact ⟨seen', hbegun, hle, by simp⟩
          · obtain rfl : q.handled = seen' := hok left rfl
            have hq : level < q.handled.length := lt_of_lt_of_le hlevel hbegun.length_le
            obtain ⟨seen'', hrest, hle', hok'⟩ : Logged q.handled (walkCalls visit importCalls ps q)
                (walkPieces visit ps (left.getD raw :: done) q) := ih hq
            exact ⟨seen'', hbegun.append hrest, hle', hok'⟩

/-- **Every call comes to a file of its own.** -/
theorem logged_inlineCalls {depth level : Nat} {here : Location} {text : Text}
    {seen : List Location} {p : Progress} (hnew : here ∉ seen) (hp : p.handled = seen ++ [here])
    (hlevel : level < p.handled.length) :
    Logged seen (inlineCalls t roots depth level here text p)
      (inline t roots depth here text p) := by
  induction depth generalizing level here text seen p with
  | zero =>
      refine ⟨p.handled, .cons hnew hp hlevel .nil, List.prefix_refl _, fun _ _ => rfl⟩
  | succ depth ih =>
      have hwalk : Logged p.handled
          (walkCalls (visitImport t roots (inline t roots depth) here)
            (visitCalls t roots (inlineCalls t roots depth (level + 1)) here)
            (pieces Import.recognise text) p)
          (walkPieces (visitImport t roots (inline t roots depth) here)
            (pieces Import.recognise text) [] p) := by
        refine logged_walkCalls ?_ hlevel
        intro i p hlevel
        apply logged_visitCalls
        intro b text q hb hq
        refine ih hb hq ?_
        rw [hq, List.length_append, List.length_singleton]
        omega
      obtain ⟨seen', hbegun, hle, hok⟩ := hwalk
      exact ⟨seen', .cons hnew hp hlevel hbegun, hle, hok⟩

/-! ## How deep the calls are -/

/-- A call that is made while pieces are gone through is made while an import is visited, and if
that visit fails there is no more. -/
theorem exists_visit_of_mem_walkCalls
    {visit : Import → Progress → Except Fault (Option Text) × Progress}
    {importCalls : Import → Progress → List InlineCall} {ps : List (Piece Import)}
    (done : List Text) {p : Progress} {c : InlineCall} (h : c ∈ walkCalls visit importCalls ps p) :
    ∃ i ∈ ps.filterMap Piece.value?, ∃ q, c ∈ importCalls i q ∧
      ∀ x, (visit i q).1 = .error x → (walkPieces visit ps done p).1 = .error x := by
  induction ps generalizing done p with
  | nil => cases h
  | cons piece ps ih =>
      cases piece with
      | plain l => exact ih (l :: done) h
      | found raw i =>
          rw [walkCalls, List.mem_append] at h
          rw [walkPieces]
          rcases h with h | h
          · refine ⟨i, List.mem_cons_self .., p, h, fun x hx => ?_⟩
            generalize visit i p = r at hx
            obtain ⟨_, q⟩ := r
            obtain rfl := hx
            rfl
          · generalize visit i p = r at h
            obtain ⟨_ | left, q⟩ := r
            · cases h
            · obtain ⟨j, hj, hrest⟩ := ih (left.getD raw :: done) h
              exact ⟨j, List.mem_cons_of_mem i hj, hrest⟩

/-- A call that is made while an import is visited is made for the file it leads to, and if that
file is not inlined the visit fails. -/
theorem exists_file_of_mem_visitCalls
    (inlineFile : Location → Text → Progress → Except Fault Text × Progress)
    {fileCalls : Location → Text → Progress → List InlineCall} {here : Location} {i : Import}
    {p : Progress} {c : InlineCall} (h : c ∈ visitCalls t roots fileCalls here i p) :
    ∃ b text q, leadsTo t roots here i.path = .ok (some b) ∧
      t.readText (.ofLocation b) = .ok text ∧ c ∈ fileCalls b text q ∧
      ∀ x, (inlineFile b text q).1 = .error x →
        (visitImport t roots inlineFile here i p).1 = .error x := by
  rw [visitCalls] at h
  rw [visitImport]
  cases hlead : leadsTo t roots here i.path with
  | error e =>
      rw [hlead] at h
      cases h
  | ok target =>
      rw [hlead] at h
      cases target with
      | none => cases h
      | some b =>
          simp only at h ⊢
          by_cases hb : b ∈ p.handled
          · simp only [List.contains_iff_mem, if_pos hb] at h
            cases h
          simp only [List.contains_iff_mem, if_neg hb] at h ⊢
          have htext : ((p.note b).read t b).1 = t.readText (.ofLocation b) := rfl
          generalize (p.note b).read t b = r at h htext
          obtain ⟨_ | text, q⟩ := r
          · cases h
          · refine ⟨b, text, q, rfl, htext.symm, h, fun x hx => ?_⟩
            simp only
            generalize inlineFile b text q = r at hx
            obtain ⟨_, q'⟩ := r
            obtain rfl := hx
            rfl

/-- **No call is deeper than the depth allows**, and one that is as deep ends the run. -/
theorem level_of_mem_inlineCalls {depth level : Nat} {here : Location} {text : Text} {p : Progress}
    {c : InlineCall} (h : c ∈ inlineCalls t roots depth level here text p) :
    c.level ≤ level + depth ∧ (c.level = level + depth →
      (inline t roots depth here text p).1 = .error .deepImports) := by
  induction depth generalizing level here text p with
  | zero =>
      obtain rfl := List.mem_singleton.mp h
      exact ⟨le_rfl, fun _ => rfl⟩
  | succ depth ih =>
      rw [inlineCalls, List.mem_cons] at h
      rcases h with rfl | h
      · exact ⟨by simp, by simp⟩
      · -- a call inside is one level deeper, and it has one less of the depth
        obtain ⟨i, -, q, h, hvisit⟩ := exists_visit_of_mem_walkCalls [] h
        obtain ⟨b, text', q', -, -, h, hfile⟩ :=
          exists_file_of_mem_visitCalls (inline t roots depth) h
        obtain ⟨hle, hdeep⟩ := ih h
        refine ⟨by omega, fun heq => ?_⟩
        rw [inline]
        exact hvisit _ (hfile _ (hdeep (by omega)))

/-- A run that did not come to the end of its depth has no call that is as deep. -/
theorem level_lt_of_ends {depth level : Nat} {here : Location} {text : Text} {p : Progress}
    (hends : (inline t roots depth here text p).1 ≠ .error .deepImports) :
    ∀ c ∈ inlineCalls t roots depth level here text p, c.level < level + depth := by
  intro c hc
  obtain ⟨hle, hdeep⟩ := level_of_mem_inlineCalls hc
  exact lt_of_le_of_ne hle fun heq => hends (hdeep heq)

/-- The calls of the visit that a run fails with are among its calls. -/
theorem exists_visit_of_walkPieces
    {visit : Import → Progress → Except Fault (Option Text) × Progress}
    (importCalls : Import → Progress → List InlineCall) {ps : List (Piece Import)}
    {done : List Text} {p : Progress} {x : Fault} (h : (walkPieces visit ps done p).1 = .error x) :
    ∃ i q, (visit i q).1 = .error x ∧
      ∀ c ∈ importCalls i q, c ∈ walkCalls visit importCalls ps p := by
  induction ps generalizing done p with
  | nil => cases h
  | cons piece ps ih =>
      cases piece with
      | plain l => exact ih h
      | found raw i =>
          rw [walkPieces] at h
          rw [walkCalls]
          generalize hv : visit i p = r at h
          obtain ⟨e | left, q⟩ := r
          · obtain rfl : e = x := Except.error.inj h
            exact ⟨i, p, congrArg Prod.fst hv, fun c hc => List.mem_append_left _ hc⟩
          · obtain ⟨j, q', hj, hcalls⟩ := ih h
            exact ⟨j, q', hj, fun c hc => List.mem_append_right _ (hcalls c hc)⟩

/-- **A run that came to the end of its depth has a call that is as deep.** -/
theorem exists_level_of_deepImports {depth level : Nat} {here : Location} {text : Text}
    {p : Progress} (h : (inline t roots depth here text p).1 = .error .deepImports) :
    ∃ c ∈ inlineCalls t roots depth level here text p, c.level = level + depth := by
  induction depth generalizing level here text p with
  | zero => exact ⟨_, List.mem_singleton_self _, rfl⟩
  | succ depth ih =>
      rw [inline] at h
      obtain ⟨i, q, hfault, hcalls⟩ := exists_visit_of_walkPieces
        (visitCalls t roots (inlineCalls t roots depth (level + 1)) here) h
      generalize hv : visitImport t roots (inline t roots depth) here i q = v at hfault
      have hvisit : Visit t roots (inline t roots depth) here i q v :=
        hv ▸ visit_visitImport _ here i q
      -- neither looking for a file nor reading it ends in this fault, so inlining a file did
      cases hvisit with
      | fault hlead =>
          cases hfault
          exact absurd hlead (leadsTo_ne_deepImports here i.path)
      | stays => cases hfault
      | known => cases hfault
      | unread _ _ htext =>
          cases hfault
          exact absurd htext (readText_ne_deepImports _)
      | entered => cases hfault
      | @broken b text' e p' hlead hb htext hinline =>
          cases hfault
          obtain ⟨c, hc, hlevel⟩ := @ih (level + 1) b text' _ (congrArg Prod.fst hinline)
          refine ⟨c, List.mem_cons_of_mem _ (hcalls c ?_), by omega⟩
          have hread : (q.note b).read t b = (.ok text', ((q.note b).read t b).2) :=
            Prod.ext htext rfl
          rw [visitCalls, hlead]
          simp only [List.contains_iff_mem, if_neg hb]
          rw [hread]
          exact hc

/-! ## A depth that is not used up -/

theorem visitCalls_congr
    {inline₁ inline₂ : Location → Text → Progress → Except Fault Text × Progress}
    {calls₁ calls₂ : Location → Text → Progress → List InlineCall} {bound : Nat} {here : Location}
    {i : Import} {p : Progress}
    (hsame : ∀ b text q, (inline₁ b text q).1 ≠ .error .deepImports →
      (∀ c ∈ calls₁ b text q, c.level < bound) →
      inline₂ b text q = inline₁ b text q ∧ calls₂ b text q = calls₁ b text q)
    (hends : (visitImport t roots inline₁ here i p).1 ≠ .error .deepImports)
    (hlevel : ∀ c ∈ visitCalls t roots calls₁ here i p, c.level < bound) :
    visitImport t roots inline₂ here i p = visitImport t roots inline₁ here i p ∧
      visitCalls t roots calls₂ here i p = visitCalls t roots calls₁ here i p := by
  rw [visitImport] at hends
  rw [visitCalls] at hlevel
  rw [visitImport, visitImport, visitCalls, visitCalls]
  cases hlead : leadsTo t roots here i.path with
  | error e => exact ⟨rfl, rfl⟩
  | ok target =>
      cases target with
      | none => exact ⟨rfl, rfl⟩
      | some b =>
          simp only [hlead] at hends hlevel ⊢
          by_cases hb : b ∈ p.handled
          · simp only [List.contains_iff_mem, if_pos hb, and_self]
          simp only [List.contains_iff_mem, if_neg hb] at hends hlevel ⊢
          generalize (p.note b).read t b = r at hends hlevel
          obtain ⟨_ | text, q⟩ := r
          · exact ⟨rfl, rfl⟩
          · -- at the end of the depth the visit would end as well
            have hinner : (inline₁ b text q).1 ≠ .error .deepImports := by
              intro hend
              apply hends
              simp only
              generalize inline₁ b text q = r at hend
              obtain ⟨_ | body, q'⟩ := r
              · obtain rfl := Except.error.inj hend
                rfl
              · cases hend
            obtain ⟨hinline, hcalls⟩ := hsame b text q hinner hlevel
            simp only [hinline, hcalls, and_self]

theorem walkCalls_congr {visit₁ visit₂ : Import → Progress → Except Fault (Option Text) × Progress}
    {calls₁ calls₂ : Import → Progress → List InlineCall} {bound : Nat}
    (hsame : ∀ i p, (visit₁ i p).1 ≠ .error .deepImports →
      (∀ c ∈ calls₁ i p, c.level < bound) → visit₂ i p = visit₁ i p ∧ calls₂ i p = calls₁ i p)
    {ps : List (Piece Import)} {done : List Text} {p : Progress}
    (hends : (walkPieces visit₁ ps done p).1 ≠ .error .deepImports)
    (hlevel : ∀ c ∈ walkCalls visit₁ calls₁ ps p, c.level < bound) :
    walkPieces visit₂ ps done p = walkPieces visit₁ ps done p ∧
      walkCalls visit₂ calls₂ ps p = walkCalls visit₁ calls₁ ps p := by
  induction ps generalizing done p with
  | nil => exact ⟨rfl, rfl⟩
  | cons piece ps ih =>
      cases piece with
      | plain l => exact ih hends hlevel
      | found raw i =>
          rw [walkPieces] at hends
          rw [walkCalls] at hlevel
          have hvisit : (visit₁ i p).1 ≠ .error .deepImports := by
            intro hend
            apply hends
            generalize visit₁ i p = r at hend
            obtain ⟨_ | left, q⟩ := r
            · obtain rfl := Except.error.inj hend
              rfl
            · cases hend
          obtain ⟨heq, hcalls⟩ := hsame i p hvisit
            fun c hc => hlevel c (List.mem_append_left _ hc)
          rw [walkPieces, walkPieces, walkCalls, walkCalls, heq, hcalls]
          generalize visit₁ i p = r at hends hlevel
          obtain ⟨_ | left, q⟩ := r
          · exact ⟨rfl, rfl⟩
          · obtain ⟨hrest, hrestCalls⟩ := ih hends
              fun c hc => hlevel c (List.mem_append_right _ hc)
            simp only [hrest, hrestCalls, and_self]

/-- **A depth that the calls do not use up does not matter**: a run that did not come to the end of
its depth is the same with any other depth that is greater than the levels of its calls. -/
theorem inline_eq_of_level_lt {depth depth' level : Nat} {here : Location} {text : Text}
    {p : Progress} (hends : (inline t roots depth here text p).1 ≠ .error .deepImports)
    (hlevel : ∀ c ∈ inlineCalls t roots depth level here text p, c.level < level + depth') :
    inline t roots depth' here text p = inline t roots depth here text p ∧
      inlineCalls t roots depth' level here text p =
        inlineCalls t roots depth level here text p := by
  induction depth generalizing depth' level here text p with
  | zero => exact absurd rfl hends
  | succ depth ih =>
      cases depth' with
      | zero => exact absurd (hlevel _ (List.mem_cons_self ..)) (lt_irrefl level)
      | succ depth' =>
          rw [inlineCalls] at hlevel
          rw [inline] at hends
          rw [inline, inline, inlineCalls, inlineCalls, List.cons_inj_right]
          refine walkCalls_congr ?_ hends fun c hc => hlevel c (List.mem_cons_of_mem _ hc)
          intro i p
          apply visitCalls_congr
          intro b text q hb hc
          -- the calls inside stand in one call more, and the depth inside is one less
          apply ih hb
          intro c hmem
          have := hc c hmem
          omega

end ContractVerifier.Flatten
