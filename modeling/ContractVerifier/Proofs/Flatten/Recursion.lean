import ContractVerifier.Proofs.Files.Found
import ContractVerifier.Proofs.Flatten.Calls
import ContractVerifier.Proofs.Flatten.Sections

set_option autoImplicit false

/-! # How far the recursion goes

`inline` calls itself for every file that the walk comes to. A call always comes to a file of its
own, so there are no more calls than files that the walk comes to, and a depth of as many is enough
(`endsWithin_iff`).

Those files are below the roots, as far as their paths tell. They are files in their own place
unless a link is left in one of these paths (`recursion_ends`), and behind a link that leads back to
itself one is left: then the same file is inlined again under another path
(`recursion_repeats_files`).
-/

namespace ContractVerifier

variable {t : Tree}

/-- Whether a file is found at `l` and has its place there, so that no link leads to it. -/
def Tree.holdsFile (t : Tree) (l : Location) : Bool :=
  match t.find (.ofLocation l) with
  | .ok (place, .file _) => place = l
  | _ => false

theorem Tree.holdsFile_iff {l : Location} :
    t.holdsFile l = true ↔ ∃ bytes, t.find (.ofLocation l) = .ok (l, .file bytes) := by
  rw [holdsFile]
  split
  · rename_i place bytes hfind
    rw [hfind]
    simp
  · rename_i hother
    simp only [Bool.false_eq_true, false_iff, not_exists]
    exact hother l

namespace Flatten

open Solidity

variable {roots : Roots}

/-! ## As many calls as files -/

section

variable (t : Tree) (roots : Roots) (e : Location) (text : Text)

/-- What inlining the entry at `e` comes to. -/
def entryRun (depth : Nat) : Except Fault Text × Progress :=
  inline t roots depth e text ⟨[e], [e], []⟩

/-- The calls made for the entry at `e`. -/
def entryCalls (depth : Nat) : List InlineCall := inlineCalls t roots depth 0 e text ⟨[e], [e], []⟩

/-- **The recursion ends within `files`**: with a depth of as many it does not come to the end of
its depth, a greater depth changes nothing, and the walk comes to no other files, with no more calls
and no more calls in one another than there are files. -/
structure EndsWithin (files : Finset Location) : Prop where
  ends : ∀ depth, files.card ≤ depth →
    (entryRun t roots e text depth).1 ≠ .error .deepImports
  same : ∀ depth, files.card ≤ depth →
    entryRun t roots e text depth = entryRun t roots e text files.card ∧
      entryCalls t roots e text depth = entryCalls t roots e text files.card
  handled_mem : ∀ l ∈ (entryRun t roots e text files.card).2.handled, l ∈ files
  calls_le : (entryCalls t roots e text files.card).length ≤ files.card
  level_lt : ∀ c ∈ entryCalls t roots e text files.card, c.level < files.card

/-- The paths below the roots at which a file is found. -/
def pathsFound : Finset Location :=
  (t.places 2047).filter fun l => roots.allow l = true ∧ t.isFile (.ofLocation l) = .ok true

/-- The files that have their place below the roots. -/
def filesBelow : Finset Location :=
  (t.entries.map Prod.fst).toFinset.filter fun l => roots.allow l = true ∧ t.holdsFile l = true

end

variable {e r : Location} {text : Text} {entry importRoot : Path} {files : Finset Location}

theorem logged_entryCalls (depth : Nat) :
    Logged [] (entryCalls t roots e text depth) (entryRun t roots e text depth) :=
  logged_inlineCalls (by simp) (by simp) (by simp)

theorem mem_pathsFound_of_leadsTo {here b : Location} {path : Text}
    (h : leadsTo t roots here path = .ok (some b)) : b ∈ pathsFound t roots := by
  obtain ⟨-, hfile, hallow⟩ := isFile_of_leadsTo h
  exact Finset.mem_filter.mpr ⟨mem_places_of_leadsTo h, hallow, hfile⟩

theorem mem_filesBelow_iff {l : Location} :
    l ∈ filesBelow t roots ↔ roots.allow l = true ∧
      ∃ bytes, t.find (.ofLocation l) = .ok (l, .file bytes) := by
  rw [filesBelow, Finset.mem_filter, Tree.holdsFile_iff, List.mem_toFinset]
  constructor
  · exact fun h => h.2
  · rintro ⟨hallow, bytes, hfind⟩
    refine ⟨?_, hallow, bytes, hfind⟩
    obtain ⟨-, -, hnode, -⟩ := Tree.find_eq_ok_iff.mp hfind
    have hne : l ≠ [] := by
      rintro rfl
      cases hnode
    exact Tree.mem_entries_of_node? hne hnode

/-- Where a file is found below the roots, it has its place there if no link is on the way. -/
theorem mem_filesBelow_iff_settled {l : Location} (h : l ∈ pathsFound t roots) :
    l ∈ filesBelow t roots ↔ t.Settled l := by
  obtain ⟨-, hallow, hfile⟩ := Finset.mem_filter.mp h
  obtain ⟨place, bytes, hfind⟩ := exists_find_of_isFile hfile
  rw [mem_filesBelow_iff]
  constructor
  · rintro ⟨-, bytes', hfind'⟩
    exact (Tree.resolve_of_find hfind').2
  · intro hsettled
    obtain rfl := Tree.find_of_settled hsettled hfind
    exact ⟨hallow, bytes, hfind⟩

/-- With a depth of as many as there are paths below the roots at which a file is found, and one
more for the entry, the entry is inlined within those paths. -/
theorem room_entryRun (text : Text) {depth : Nat}
    (hcard : (insert e (pathsFound t roots)).card ≤ depth) :
    Room (insert e (pathsFound t roots)) depth (entryRun t roots e text depth).2 ∧
      (entryRun t roots e text depth).1 ≠ .error .deepImports := by
  apply inline_room
  · intro a path b hlead
    exact Finset.mem_insert_of_mem (mem_pathsFound_of_leadsTo hlead)
  · refine ⟨List.nodup_singleton e, ?_, Nat.lt_succ_of_le hcard⟩
    intro l hl
    rw [List.mem_singleton.mp hl]
    exact Finset.mem_insert_self e _

/-- **The recursion ends within the files that the walk comes to**, and in no others. -/
theorem endsWithin_iff {depth : Nat}
    (hends : (entryRun t roots e text depth).1 ≠ .error .deepImports) :
    EndsWithin t roots e text files ↔
      ∀ l ∈ (entryRun t roots e text depth).2.handled, l ∈ files := by
  constructor
  · intro h
    have hrun : entryRun t roots e text files.card = entryRun t roots e text depth := by
      rcases le_total files.card depth with hle | hle
      · exact (h.same depth hle).1.symm
      · have hlevel : ∀ c ∈ entryCalls t roots e text depth, c.level < 0 + files.card :=
          fun c hc => lt_of_lt_of_le (level_lt_of_ends hends c hc) (Nat.add_le_add_left hle 0)
        exact (inline_eq_of_level_lt hends hlevel).1
    exact hrun ▸ h.handled_mem
  · intro hfiles
    obtain ⟨seen, hbegun, hle, -⟩ : Logged [] (entryCalls t roots e text depth)
        (entryRun t roots e text depth) := logged_entryCalls depth
    have hcard : seen.length ≤ files.card := by
      rw [← List.toFinset_card_of_nodup (hbegun.nodup List.nodup_nil)]
      apply Finset.card_le_card
      intro l hl
      exact hfiles l (hle.subset (List.mem_toFinset.mp hl))
    have hcalls : (entryCalls t roots e text depth).length = seen.length := by
      rw [hbegun.eq_append, List.nil_append, List.length_map]
    have hlevel : ∀ c ∈ entryCalls t roots e text depth, c.level < files.card :=
      fun c hc => lt_of_lt_of_le (hbegun.level_lt_length c hc) hcard
    -- so every depth from the number of files on gives the run that is known to end
    have hsame : ∀ depth', files.card ≤ depth' →
        entryRun t roots e text depth' = entryRun t roots e text depth ∧
          entryCalls t roots e text depth' = entryCalls t roots e text depth := by
      intro depth' hdepth'
      apply inline_eq_of_level_lt hends
      intro c hc
      have := hlevel c hc
      omega
    obtain ⟨hrun, hlog⟩ := hsame files.card le_rfl
    refine ⟨?_, ?_, ?_, ?_, ?_⟩
    · intro depth' hdepth'
      rw [(hsame depth' hdepth').1]
      exact hends
    · intro depth' hdepth'
      rw [hrun, hlog]
      exact hsame depth' hdepth'
    · rw [hrun]
      exact hfiles
    · rw [hlog, hcalls]
      exact hcard
    · rw [hlog]
      exact hlevel

/-- The walk comes as far as inlining the entry does, and fails with the same fault. -/
theorem walkGraph_of_entryRun (depth : Nat) (he : t.resolve entry = .ok e)
    (hr : t.resolve importRoot = .ok r) (htext : t.readText (.ofLocation e) = .ok text) :
    let run := entryRun t ⟨r, e.dropLast⟩ e text (depth + 1)
    (walkGraph depth t entry importRoot).2 = run.2 ∧
      ∀ x, (walkGraph depth t entry importRoot).1 = .error x ↔ run.1 = .error x := by
  intro run
  have hread : Progress.start.read t e = (.ok text, ⟨[], [e], []⟩) := Prod.ext htext rfl
  have hnote : (⟨[], [e], []⟩ : Progress).note e = ⟨[e], [e], []⟩ := rfl
  have hrun : inline t ⟨r, e.dropLast⟩ (depth + 1) e text ⟨[e], [e], []⟩ = run := rfl
  simp only [walkGraph, he, hread, hr, hnote, hrun]
  obtain ⟨_ | body, p⟩ := run
  · exact ⟨rfl, by simp⟩
  · by_cases hs : p.sections = []
    · simp [if_pos hs]
    · simp [if_neg hs]

/-- **The recursion ends, and how far it goes.** With each call the files come to are those of the
calls until then and one new file, its own. On every tree the recursion ends within the entry and
the paths below the roots at which a file is found, so a walk whose depth is as much as there are of
them does not come to its end. The recursion ends within the entry and the files that have their
place below the roots exactly if no link is left in the paths that such a walk comes to. -/
theorem recursion_ends (he : t.resolve entry = .ok e) (hr : t.resolve importRoot = .ok r)
    (htext : t.readText (.ofLocation e) = .ok text) :
    let roots : Roots := ⟨r, e.dropLast⟩
    let ends (depth : Nat) := (walkGraph depth t entry importRoot).1 ≠ .error .deepImports
    (∀ depth before c after, entryCalls t roots e text depth = before ++ c :: after →
      c.handled = before.map InlineCall.file ++ [c.file] ∧ c.file ∉ before.map InlineCall.file) ∧
    EndsWithin t roots e text (insert e (pathsFound t roots)) ∧
    (∀ depth, (insert e (pathsFound t roots)).card ≤ depth + 1 → ends depth) ∧
    ∀ depth, ends depth → (EndsWithin t roots e text (insert e (filesBelow t roots)) ↔
      ∀ l ∈ (walkGraph depth t entry importRoot).2.handled, l ≠ e → t.Settled l) := by
  intro roots ends
  have hwithin : EndsWithin t roots e text (insert e (pathsFound t roots)) := by
    obtain ⟨hroom, hends⟩ := room_entryRun text (le_refl (insert e (pathsFound t roots)).card)
    exact (endsWithin_iff hends).mpr hroom.subset
  refine ⟨?_, hwithin, ?_, ?_⟩
  · intro depth before c after hcalls
    obtain ⟨seen, hbegun, -⟩ : Logged [] (entryCalls t roots e text depth)
        (entryRun t roots e text depth) := logged_entryCalls depth
    simpa using hbegun.handled_eq_of_split hcalls
  · intro depth hdepth hdeep
    exact hwithin.ends _ hdepth (((walkGraph_of_entryRun depth he hr htext).2 _).mp hdeep)
  · intro depth hdepth
    obtain ⟨hhandled, hfault⟩ := walkGraph_of_entryRun depth he hr htext
    have hends : (entryRun t roots e text (depth + 1)).1 ≠ .error .deepImports :=
      fun hdeep => hdepth ((hfault _).mpr hdeep)
    have hpaths := (endsWithin_iff hends).mp hwithin
    rw [endsWithin_iff hends, hhandled]
    apply forall₂_congr
    intro l hl
    rw [Finset.mem_insert, or_iff_not_imp_left]
    apply imp_congr_right
    intro hne
    exact mem_filesBelow_iff_settled (Finset.mem_of_mem_insert_of_ne (hpaths l hl) hne)

/-! ## Runs that keep to the files, and runs that do not -/

theorem filesBelow_eq {t : Tree} {roots : Roots} {files : List Location}
    (h : ((t.entries.map Prod.fst).filter fun l => roots.allow l && t.holdsFile l) = files) :
    filesBelow t roots = files.toFinset := by
  rw [filesBelow, ← h, List.toFinset_filter]
  simp only [Bool.and_eq_true]

theorem filesBelow_twins :
    filesBelow twins ⟨[['l']], [['s']]⟩ = twinsWalked.handled.toFinset :=
  filesBelow_eq (by cbv)

/-- Libraries that import each other, one of them under two names as well: with the entry and the
library that they import there are four files, and the recursion ends within them. -/
theorem recursion_ends_twins :
    (insert [['s'], ['M']] (filesBelow twins ⟨[['l']], [['s']]⟩)).card = 4 ∧
      EndsWithin twins ⟨[['l']], [['s']]⟩ [['s'], ['M']] "import 'A';\nimport 'x/../B';\n".toList
        (insert [['s'], ['M']] (filesBelow twins ⟨[['l']], [['s']]⟩)) := by
  have htext : twins.readText (.ofLocation [['s'], ['M']]) =
      .ok "import 'A';\nimport 'x/../B';\n".toList := by cbv
  obtain ⟨out, hout⟩ := walkGraph_twins
  have hsettled : ∀ l ∈ twinsWalked.handled, twins.Settled l := by
    intro l hl
    have hfile : l ∈ filesBelow twins ⟨[['l']], [['s']]⟩ :=
      filesBelow_twins ▸ List.mem_toFinset.mpr hl
    obtain ⟨-, bytes, hfind⟩ := mem_filesBelow_iff.mp hfile
    exact (Tree.resolve_of_find hfind).2
  refine ⟨by rw [filesBelow_twins]; decide, ?_⟩
  obtain ⟨-, -, -, hfiles⟩ := recursion_ends resolve_twins_entry resolve_twins_root htext
  have hends : (walkGraph usualDepth twins (.ofText "/s/M".toList) (.ofText "/l".toList)).1 ≠
      .error .deepImports := by
    rw [hout]
    simp
  apply (hfiles usualDepth hends).mpr
  rw [hout]
  exact fun l hl _ => hsettled l hl

/-- A file `A`, a link `B` to it, and a link `C` to itself. The entry `M` imports the file, and the
link by a way through `C`. -/
def echoed : Tree := ⟨[
  ([['s']], .directory), ([['l']], .directory),
  ([['s'], ['M']], .file (Utf8.encode "import './A';\nimport './C/../B';\n".toList)),
  ([['s'], ['A']], .file (Utf8.encode "contract A {}".toList)),
  ([['s'], ['B']], .link ['A']), ([['s'], ['C']], .link ['C'])]⟩

theorem filesBelow_echoed :
    filesBelow echoed ⟨[['l']], [['s']]⟩ = [[['s'], ['M']], [['s'], ['A']]].toFinset :=
  filesBelow_eq (by cbv)

/-- **One file, two calls.** What the import through `C` leads to is the link `B`, so the walk comes
to `A` twice: there are two files and three calls, and the recursion does not end within the
files. -/
theorem recursion_repeats_files :
    echoed.resolve (.ofText "/s/M".toList) = .ok [['s'], ['M']] ∧
      echoed.resolve (.ofText "/l".toList) = .ok [['l']] ∧
      echoed.readText (.ofLocation [['s'], ['M']]) =
        .ok "import './A';\nimport './C/../B';\n".toList ∧
      (insert [['s'], ['M']] (filesBelow echoed ⟨[['l']], [['s']]⟩)).card = 2 ∧
      (∀ depth, 2 ≤ depth → entryCalls echoed ⟨[['l']], [['s']]⟩ [['s'], ['M']]
        "import './A';\nimport './C/../B';\n".toList depth =
          [⟨0, [['s'], ['M']], [[['s'], ['M']]]⟩,
            ⟨1, [['s'], ['A']], [[['s'], ['M']], [['s'], ['A']]]⟩,
            ⟨1, [['s'], ['B']], [[['s'], ['M']], [['s'], ['A']], [['s'], ['B']]]⟩]) ∧
      ¬ EndsWithin echoed ⟨[['l']], [['s']]⟩ [['s'], ['M']]
        "import './A';\nimport './C/../B';\n".toList
        (insert [['s'], ['M']] (filesBelow echoed ⟨[['l']], [['s']]⟩)) := by
  have hcard : (insert [['s'], ['M']] (filesBelow echoed ⟨[['l']], [['s']]⟩)).card = 2 := by
    rw [filesBelow_echoed]
    decide
  have hcalls : ∀ depth, 2 ≤ depth → entryCalls echoed ⟨[['l']], [['s']]⟩ [['s'], ['M']]
      "import './A';\nimport './C/../B';\n".toList depth =
        [⟨0, [['s'], ['M']], [[['s'], ['M']]]⟩,
          ⟨1, [['s'], ['A']], [[['s'], ['M']], [['s'], ['A']]]⟩,
          ⟨1, [['s'], ['B']], [[['s'], ['M']], [['s'], ['A']], [['s'], ['B']]]⟩] := by
    intro depth hdepth
    obtain ⟨k, rfl⟩ := Nat.exists_eq_add_of_le' hdepth
    cbv
  refine ⟨by cbv, by cbv, by cbv, hcard, hcalls, ?_⟩
  intro h
  have hle := h.calls_le
  rw [hcard, hcalls 2 le_rfl] at hle
  exact absurd hle (by decide)

end Flatten

end ContractVerifier
