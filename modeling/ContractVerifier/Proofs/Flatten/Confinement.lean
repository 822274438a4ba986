import ContractVerifier.Proofs.Files.Agreement
import ContractVerifier.Proofs.Flatten.Runs
import Mathlib

set_option autoImplicit false

/-! # Imports are confined to the roots

Two trees with the same directories and links, and with the same files below the import root and
below the entry's directory, are flattened to the same text or with the same fault, whatever files
they have elsewhere, and a file elsewhere is not read (`flattenGraph_confined`).

This holds as far as resolving a path leaves no link in it (`PathsResolveFully`), and if the entry
is missing, the fault can tell whether a file stands on the way to it. Neither can be left out
(`flattenGraph_not_confined`).
-/

namespace ContractVerifier.Flatten

open Solidity

variable {depth : Nat} {t t₁ t₂ : Tree} {roots : Roots} {entry importRoot : Path}

/-- The trees agree at a location and below it. -/
def SameBelow (t₁ t₂ : Tree) (root : Location) : Prop :=
  ∀ l, root <+: l → t₁.node? l = t₂.node? l

/-- The path to the entry resolves fully, and so do the paths of the imports of every file that
the entry reaches. -/
structure PathsResolveFully (t : Tree) (entry importRoot : Path) : Prop where
  entry_full : t.ResolvesFully entry
  imports_full : ∀ e r, t.resolve entry = .ok e → t.resolve importRoot = .ok r →
    ∀ a text, Reaches t ⟨r, e.dropLast⟩ e a → t.readText (.ofLocation a) = .ok text →
      ∀ i ∈ Solidity.imports text, t.ResolvesFully (candidate ⟨r, e.dropLast⟩ a i.path)

/-- Whether the links on a path can be followed to the end. -/
def followsFully (t : Tree) (p : Path) : Bool :=
  (t.follow (t.entries.length + 1) [] p.names []).complete

/-- Whether some files import only files among themselves, by paths that can be followed to the
end. -/
def closedUnderImports (t : Tree) (roots : Roots) (files : List Location) : Bool :=
  files.all fun a =>
    match t.readText (.ofLocation a) with
    | .error _ => true
    | .ok text =>
      (imports text).all fun i =>
        followsFully t (candidate roots a i.path) &&
          match leadsTo t roots a i.path with
          | .ok (some b) => files.contains b
          | _ => true

/-- A check of the paths: it is enough to look at files that import only one another. -/
theorem pathsResolveFully_of_closed {e r : Location} (files : List Location)
    (he : t.resolve entry = .ok e) (hr : t.resolve importRoot = .ok r)
    (hentry : followsFully t entry = true) (hfiles : e ∈ files)
    (hclosed : closedUnderImports t ⟨r, e.dropLast⟩ files = true) :
    PathsResolveFully t entry importRoot := by
  have hstep : ∀ a ∈ files, ∀ text, t.readText (.ofLocation a) = .ok text → ∀ i ∈ imports text,
      followsFully t (candidate ⟨r, e.dropLast⟩ a i.path) = true ∧
        ∀ b, leadsTo t ⟨r, e.dropLast⟩ a i.path = .ok (some b) → b ∈ files := by
    intro a ha text htext i hi
    have hfile := List.all_eq_true.mp hclosed a ha
    rw [htext] at hfile
    have hi := List.all_eq_true.mp hfile i hi
    rw [Bool.and_eq_true] at hi
    refine ⟨hi.1, ?_⟩
    intro b hb
    simpa [hb] using hi.2
  refine ⟨Tree.resolvesFully_of_complete hentry, ?_⟩
  intro e' r' he' hr' a text ha htext i hi
  obtain rfl : e = e' := Except.ok.inj (he.symm.trans he')
  obtain rfl : r = r' := Except.ok.inj (hr.symm.trans hr')
  have hreached : ∀ b, Reaches t ⟨r, e.dropLast⟩ e b → b ∈ files := by
    intro b hb
    induction hb with
    | refl => exact hfiles
    | tail _ himports ih =>
        obtain ⟨text', j, htext', hj, hlead⟩ := himports
        exact (hstep _ ih text' htext' j hj).2 _ hlead
  exact Tree.resolvesFully_of_complete (hstep a (hreached a ha) text htext i hi).1

theorem Roots.allow_iff {l : Location} :
    roots.allow l = true ↔ roots.importRoot <+: l ∨ roots.entryDir <+: l := by
  simp [Roots.allow, List.isPrefixOf_iff_prefix]

/-! ## One import -/

/-- The file that an import leads to does not depend on files outside of the roots. -/
theorem leadsTo_eq (h : t₁.SameSkeleton t₂)
    (hroots : ∀ l, roots.allow l = true → t₁.node? l = t₂.node? l) {here : Location} {path : Text}
    (hfull : t₁.ResolvesFully (candidate roots here path)) :
    leadsTo t₁ roots here path = leadsTo t₂ roots here path := by
  rw [leadsTo, leadsTo, ← h.resolve_eq]
  cases hresolve : t₁.resolve (candidate roots here path) with
  | error e => rfl
  | ok target =>
      simp only
      by_cases hallow : roots.allow target = true
      · rw [h.isFile_eq (hfull target hresolve) (hroots target hallow)]
      · -- whether there is a file or not, the import leads nowhere
        cases h₁ : t₁.isFile (.ofLocation target) with
        | error e => rw [h.isFile_eq_error_iff.mp h₁]
        | ok isFile₁ =>
            cases h₂ : t₂.isFile (.ofLocation target) with
            | error e =>
                rw [h.isFile_eq_error_iff.mpr h₂] at h₁
                cases h₁
            | ok isFile₂ => simp [hallow]

/-- Nor does the text of that file. -/
theorem readText_eq_of_imports (h : t₁.SameSkeleton t₂)
    (hroots : ∀ l, roots.allow l = true → t₁.node? l = t₂.node? l) {here b : Location}
    (hfull : ∀ text, t₁.readText (.ofLocation here) = .ok text → ∀ i ∈ imports text,
      t₁.ResolvesFully (candidate roots here i.path))
    (hb : Imports t₁ roots here b) :
    t₁.readText (.ofLocation b) = t₂.readText (.ofLocation b) := by
  obtain ⟨text, i, htext, hi, hlead⟩ := hb
  obtain ⟨hresolve, hfile, hallow⟩ := isFile_of_leadsTo hlead
  exact h.readText_eq (hfull text htext i hi b hresolve) (hroots b hallow) hfile

/-! ## The whole walk -/

section

variable (hskeleton : t₁.SameSkeleton t₂)
  (hentry : ∀ e, t₁.resolve entry = .ok e → SameBelow t₁ t₂ e.dropLast)
  (hroot : ∀ r, t₁.resolve importRoot = .ok r → SameBelow t₁ t₂ r)
  (hfull : PathsResolveFully t₁ entry importRoot)

include hskeleton hentry hroot hfull

/-- If both trees have the same to say of the entry, the walks are the same. -/
theorem walkGraph_eq
    (hread : ∀ e, t₁.resolve entry = .ok e →
      t₁.readText (.ofLocation e) = t₂.readText (.ofLocation e)) :
    walkGraph depth t₁ entry importRoot = walkGraph depth t₂ entry importRoot := by
  refine walkGraph_congr (hskeleton.resolve_eq entry) (hskeleton.resolve_eq importRoot) hread ?_
  intro e r text p he hr htext
  have hroots : ∀ l, (⟨r, e.dropLast⟩ : Roots).allow l = true → t₁.node? l = t₂.node? l := by
    intro l hl
    rcases Roots.allow_iff.mp hl with hl | hl
    · exact hroot r hr l hl
    · exact hentry e he l hl
  have hpaths := hfull.imports_full e r he hr
  refine inline_congr ?_ ?_ htext
  · intro a text ha htext i hi
    exact leadsTo_eq hskeleton hroots (hpaths a text ha htext i hi)
  · intro a b ha hb
    exact readText_eq_of_imports hskeleton hroots (fun text => hpaths a text ha) hb

end

theorem flattenGraph_eq_error {e : Location} {x : Fault} (he : t.resolve entry = .ok e)
    (h : t.readText (.ofLocation e) = .error x) :
    flattenGraph depth t entry importRoot = .error x := by
  have hread : Progress.start.read t e = (.error x, ⟨[], [e], []⟩) := Prod.ext h rfl
  simp only [flattenGraph, walkGraph, he, hread]

/-- What a walk reads stands below one of the roots. -/
theorem find_below_of_mem_reads (hfull : PathsResolveFully t entry importRoot) {l l' : Location}
    {node : Node} (hl : l ∈ (walkGraph depth t entry importRoot).2.reads)
    (hfind : t.find (.ofLocation l) = .ok (l', node)) :
    (∃ e, t.resolve entry = .ok e ∧ e.dropLast <+: l') ∨
      ∃ r, t.resolve importRoot = .ok r ∧ r <+: l' := by
  obtain ⟨e, he, rfl | ⟨r, hr, hbehind⟩⟩ := mem_reads_walkGraph hl
  · obtain rfl := Tree.find_of_settled (hfull.entry_full l he) hfind
    exact .inl ⟨l', he, List.dropLast_prefix l'⟩
  · obtain ⟨a, ha, text, i, htext, hi, hlead⟩ := Relation.TransGen.tail'_iff.mp hbehind
    obtain ⟨hresolve, -, hallow⟩ := isFile_of_leadsTo hlead
    have hsettled : t.Settled l := hfull.imports_full e r he hr a text ha htext i hi l hresolve
    obtain rfl := Tree.find_of_settled hsettled hfind
    rcases Roots.allow_iff.mp hallow with hbelow | hbelow
    · exact .inr ⟨r, hr, hbelow⟩
    · exact .inl ⟨e, he, hbelow⟩

/-- **Files outside of the roots do not matter.** Trees with the same directories and links, and
with the same files below the import root and below the entry's directory, have the same answer:
the same text or the same fault. Only if the entry is missing, the fault may be that nothing is
there in one of them and that a file stands on the way to it in the other. Whatever a walk reads
stands below one of the roots. -/
theorem flattenGraph_confined (hskeleton : t₁.SameSkeleton t₂)
    (hentry : ∀ e, t₁.resolve entry = .ok e → SameBelow t₁ t₂ e.dropLast)
    (hroot : ∀ r, t₁.resolve importRoot = .ok r → SameBelow t₁ t₂ r)
    (hfull : PathsResolveFully t₁ entry importRoot) :
    (flattenGraph depth t₁ entry importRoot = flattenGraph depth t₂ entry importRoot ∨
      ∃ e, t₁.resolve entry = .ok e ∧
        (∃ x, Tree.Missing e x ∧ flattenGraph depth t₁ entry importRoot = .error (.file x)) ∧
        ∃ x, Tree.Missing e x ∧ flattenGraph depth t₂ entry importRoot = .error (.file x)) ∧
      ∀ l ∈ (walkGraph depth t₁ entry importRoot).2.reads, ∀ l' node,
        t₁.find (.ofLocation l) = .ok (l', node) →
          (∃ e, t₁.resolve entry = .ok e ∧ e.dropLast <+: l') ∨
            ∃ r, t₁.resolve importRoot = .ok r ∧ r <+: l' := by
  refine ⟨?_, fun l hl l' node => find_below_of_mem_reads hfull hl⟩
  by_cases hread : ∀ e, t₁.resolve entry = .ok e →
      t₁.readText (.ofLocation e) = t₂.readText (.ofLocation e)
  · left
    rw [flattenGraph, flattenGraph, walkGraph_eq hskeleton hentry hroot hfull hread]
  · right
    simp only [not_forall] at hread
    obtain ⟨e, he, hne⟩ := hread
    have hnode : t₁.node? e = t₂.node? e := hentry e he e (List.dropLast_prefix e)
    rcases hskeleton.readText_eq_or_missing (hfull.entry_full e he) hnode with
      hsame | ⟨⟨x₁, hx₁, h₁⟩, x₂, hx₂, h₂⟩
    · exact absurd hsame hne
    · have he₂ : t₂.resolve entry = .ok e := (hskeleton.resolve_eq entry).symm.trans he
      exact ⟨e, he, ⟨x₁, hx₁, flattenGraph_eq_error he h₁⟩, x₂, hx₂, flattenGraph_eq_error he₂ h₂⟩

/-! ## A tree with a file outside -/

theorem sameBelow_set {l root : Location} {bytes : List UInt8} (hl : l ≠ [])
    (hroot : ¬ root <+: l) : SameBelow (t.set l (.file bytes)) t root := by
  intro k hk
  rw [Tree.node?_set_of_ne hl]
  rintro rfl
  exact hroot hk

/-- The entry `M` and the libraries `A` and `B` have imports that lead to `X`, below `o`: by its
path from the root, by going up, and by the link `C`. -/
def vault : Tree := ⟨[
  ([['s']], .directory), ([['l']], .directory), ([['o']], .directory),
  ([['s'], ['M']], .file (Utf8.encode "import 'A';\nimport '/o/X';\nimport 'C';\n".toList)),
  ([['l'], ['A']], .file (Utf8.encode "import '../o/X';\nimport './B';\n".toList)),
  ([['l'], ['B']], .file (Utf8.encode "import './../../o/X';\n".toList)),
  ([['l'], ['C']], .link "../o/X".toList)]⟩

/-- The tree with a file at `X`. -/
def fullVault : Tree := vault.set [['o'], ['X']] (.file (Utf8.encode "contract X {}".toList))

theorem resolve_fullVault_entry :
    fullVault.resolve (.ofText "/s/M".toList) = .ok [['s'], ['M']] := by
  cbv

theorem resolve_fullVault_root : fullVault.resolve (.ofText "/l".toList) = .ok [['l']] := by
  cbv

theorem pathsResolveFully_fullVault :
    PathsResolveFully fullVault (.ofText "/s/M".toList) (.ofText "/l".toList) := by
  apply pathsResolveFully_of_closed [[['s'], ['M']], [['l'], ['A']], [['l'], ['B']]]
    resolve_fullVault_entry resolve_fullVault_root
  · cbv
  · simp
  · cbv

theorem exists_flattenGraph_fullVault :
    ∃ out, flattenGraph usualDepth fullVault (.ofText "/s/M".toList) (.ofText "/l".toList) =
      .ok out := by
  have htext : fullVault.readText (.ofLocation [['s'], ['M']]) =
      .ok "import 'A';\nimport '/o/X';\nimport 'C';\n".toList := by cbv
  have hinline : ∀ k, inline fullVault ⟨[['l']], [['s']]⟩ (k + 4) [['s'], ['M']]
      "import 'A';\nimport '/o/X';\nimport 'C';\n".toList ⟨[[['s'], ['M']]], [[['s'], ['M']]], []⟩ =
      (.ok "\nimport '/o/X';\nimport 'C';\n".toList,
        ⟨[[['s'], ['M']], [['l'], ['A']], [['l'], ['B']]],
          [[['s'], ['M']], [['l'], ['A']], [['l'], ['B']]],
          [⟨[['l'], ['B']], "./B".toList, "import './../../o/X';\n".toList⟩,
            ⟨[['l'], ['A']], ['A'], "import '../o/X';\n\n".toList⟩]⟩) := by
    intro k
    cbv
  exact ⟨_, congrArg Prod.fst (walkGraph_eq_ok (by decide)
    resolve_fullVault_entry resolve_fullVault_root htext hinline)⟩

/-- With or without the file at `X`, the answer is the same text, and the file is not read. -/
theorem fullVault_confined :
    fullVault.SameSkeleton vault ∧
      PathsResolveFully fullVault (.ofText "/s/M".toList) (.ofText "/l".toList) ∧
      (∃ out, flattenGraph usualDepth fullVault (.ofText "/s/M".toList) (.ofText "/l".toList) =
          .ok out ∧
        flattenGraph usualDepth vault (.ofText "/s/M".toList) (.ofText "/l".toList) = .ok out) ∧
      [['o'], ['X']] ∉
        (walkGraph usualDepth fullVault (.ofText "/s/M".toList) (.ofText "/l".toList)).2.reads := by
  have hskeleton : fullVault.SameSkeleton vault :=
    Tree.sameSkeleton_set (by simp) (.inl (by cbv))
  have hentry : ∀ e, fullVault.resolve (.ofText "/s/M".toList) = .ok e →
      SameBelow fullVault vault e.dropLast := by
    intro e he
    obtain rfl : [['s'], ['M']] = e := Except.ok.inj (resolve_fullVault_entry.symm.trans he)
    exact sameBelow_set (by simp) (by decide)
  have hroot : ∀ r, fullVault.resolve (.ofText "/l".toList) = .ok r →
      SameBelow fullVault vault r := by
    intro r hr
    obtain rfl : [['l']] = r := Except.ok.inj (resolve_fullVault_root.symm.trans hr)
    exact sameBelow_set (by simp) (by decide)
  obtain ⟨hsame, hreads⟩ := flattenGraph_confined hskeleton hentry hroot pathsResolveFully_fullVault
  obtain ⟨out, hout⟩ := exists_flattenGraph_fullVault
  refine ⟨hskeleton, pathsResolveFully_fullVault, ⟨out, hout, ?_⟩, ?_⟩
  · rcases hsame with hsame | ⟨e, -, ⟨x, -, hx⟩, -⟩
    · exact hsame.symm.trans hout
    · rw [hout] at hx
      cases hx
  · intro hX
    have hfind : fullVault.find (.ofLocation [['o'], ['X']]) =
        .ok ([['o'], ['X']], .file (Utf8.encode "contract X {}".toList)) := by cbv
    rcases hreads _ hX _ _ hfind with ⟨e, he, hbelow⟩ | ⟨r, hr, hbelow⟩
    · obtain rfl : [['s'], ['M']] = e := Except.ok.inj (resolve_fullVault_entry.symm.trans he)
      revert hbelow
      decide
    · obtain rfl : [['l']] = r := Except.ok.inj (resolve_fullVault_root.symm.trans hr)
      revert hbelow
      decide

/-- The tree that has only a file at `x`. -/
def blocked : Tree := Tree.empty.set [['x']] (.file (Utf8.encode "contract A {}".toList))

/-- A library below `l` that is a link to `X`, below `o`, next to a link to itself. The entry `M`
imports the library by a way through that link. -/
def looped : Tree := ⟨[
  ([['s']], .directory), ([['l']], .directory), ([['o']], .directory),
  ([['s'], ['M']], .file (Utf8.encode "import 'C/../B';\n".toList)),
  ([['l'], ['B']], .link "../o/X".toList), ([['l'], ['C']], .link "C".toList),
  ([['o'], ['X']], .file (Utf8.encode "contract X {}".toList))]⟩

theorem mem_reads_looped :
    [['l'], ['B']] ∈
      (walkGraph usualDepth looped (.ofText "/s/M".toList) (.ofText "/l".toList)).2.reads := by
  have he : looped.resolve (.ofText "/s/M".toList) = .ok [['s'], ['M']] := by cbv
  have hr : looped.resolve (.ofText "/l".toList) = .ok [['l']] := by cbv
  have htext : looped.readText (.ofLocation [['s'], ['M']]) = .ok "import 'C/../B';\n".toList := by
    cbv
  have hinline : ∀ k, inline looped ⟨[['l']], [['s']]⟩ (k + 4) [['s'], ['M']]
      "import 'C/../B';\n".toList ⟨[[['s'], ['M']]], [[['s'], ['M']]], []⟩ =
      (.ok ['\n'], ⟨[[['s'], ['M']], [['l'], ['B']]], [[['s'], ['M']], [['l'], ['B']]],
        [⟨[['l'], ['B']], "C/../B".toList, "contract X {}".toList⟩]⟩) := by
    intro k
    cbv
  rw [walkGraph_eq_ok (by decide) he hr htext hinline]
  simp

/-- **What is not confined.** The fault for a missing entry `x/y/e` is another one if there is a
file at `x`, though `x` is below none of the roots. And behind a link that leads back to itself a
link is left in what an import resolves to, so that a file below neither `l` nor `s` is read. -/
theorem flattenGraph_not_confined :
    (blocked.SameSkeleton .empty ∧
      (∀ e, blocked.resolve (.ofText "/x/y/e".toList) = .ok e →
        SameBelow blocked .empty e.dropLast) ∧
      (∀ r, blocked.resolve (.ofText "/l".toList) = .ok r → SameBelow blocked .empty r) ∧
      flattenGraph usualDepth blocked (.ofText "/x/y/e".toList) (.ofText "/l".toList) ≠
        flattenGraph usualDepth .empty (.ofText "/x/y/e".toList) (.ofText "/l".toList)) ∧
    ∃ l ∈ (walkGraph usualDepth looped (.ofText "/s/M".toList) (.ofText "/l".toList)).2.reads,
      ∃ node, looped.find (.ofLocation l) = .ok ([['o'], ['X']], node) := by
  refine ⟨?_, [['l'], ['B']], mem_reads_looped, _, by cbv⟩
  have he : blocked.resolve (.ofText "/x/y/e".toList) = .ok [['x'], ['y'], ['e']] := by cbv
  have hr : blocked.resolve (.ofText "/l".toList) = .ok [['l']] := by cbv
  refine ⟨Tree.sameSkeleton_set (by simp) (.inl (by cbv)), ?_, ?_, ?_⟩
  · intro e he'
    obtain rfl : [['x'], ['y'], ['e']] = e := Except.ok.inj (he.symm.trans he')
    exact sameBelow_set (by simp) (by decide)
  · intro r hr'
    obtain rfl : [['l']] = r := Except.ok.inj (hr.symm.trans hr')
    exact sameBelow_set (by simp) (by decide)
  · have hblocked :
        flattenGraph usualDepth blocked (.ofText "/x/y/e".toList) (.ofText "/l".toList) =
          .error (.file (.refused .notDirectory "/x/y/e".toList)) :=
      flattenGraph_eq_error he (by cbv)
    have hempty : flattenGraph usualDepth .empty (.ofText "/x/y/e".toList) (.ofText "/l".toList) =
        .error (.file (.refused .notFound "/x/y/e".toList)) :=
      flattenGraph_eq_error (e := [['x'], ['y'], ['e']]) (by cbv) (by cbv)
    rw [hblocked, hempty]
    simp

end ContractVerifier.Flatten
