import ContractVerifier.Proofs.Flatten.Walk
import Mathlib

set_option autoImplicit false

/-! # Which files get a section, and in which order

The sections of a walk that succeeds are those of the files that the entry reaches through
imports, each once (`mem_sections_iff_reaches`), and a file stands behind what it imports unless
it is itself imported from there (`sections_dependencies_first`). Both follow from the walk being
a depth-first search of the import graph.
-/

namespace ContractVerifier.Flatten

open Solidity Search

variable {depth : Nat} {t : Tree} {entry importRoot : Path} {out : Text}

namespace Walked

variable {p : Progress} {e r : Location} {text : Text} {order : List (Text × Location)}

theorem files_eq (w : Walked t entry importRoot out p e r text order) :
    p.sections.map Section.file = order.map Prod.snd := by
  rw [w.sections, List.map_map]
  rfl

theorem nodup_files (w : Walked t entry importRoot out p e r text order) :
    (p.sections.map Section.file).Nodup := by
  rw [w.files_eq]
  exact (w.search.nodup_order (List.nodup_singleton e)).1

theorem mem_files_iff (w : Walked t entry importRoot out p e r text order) (l : Location) :
    l ∈ p.sections.map Section.file ↔ l ≠ e ∧ Reaches t ⟨r, e.dropLast⟩ e l := by
  rw [w.files_eq, w.search.mem_order_iff l, way_targets_iff]

/-- The walk reads the entry and the files that get a section, each once. -/
theorem reads_perm (w : Walked t entry importRoot out p e r text order) :
    p.reads.Nodup ∧ p.reads.Perm (e :: p.sections.map Section.file) := by
  refine ⟨?_, ?_⟩
  · rw [w.reads]
    exact w.search.nodup (List.nodup_singleton e)
  · obtain ⟨fresh, hfresh, hperm⟩ := w.search.seen_eq
    rw [w.reads, hfresh, w.files_eq]
    exact List.Perm.cons e hperm

/-- The section of a file stands before that of a file which imports it, unless there is a way
back. -/
theorem sublist_of_imports (w : Walked t entry importRoot out p e r text order)
    {a b : Section} (ha : a ∈ p.sections) (hb : b ∈ p.sections)
    (himports : Imports t ⟨r, e.dropLast⟩ a.file b.file)
    (hback : ¬ Reaches t ⟨r, e.dropLast⟩ b.file a.file) : [b, a].Sublist p.sections := by
  have hfile : ∀ {s : Section}, s ∈ p.sections → s.file ∈ p.sections.map Section.file :=
    fun hs => List.mem_map_of_mem hs
  have hsub : [b.file, a.file].Sublist (p.sections.map Section.file) := by
    have hafile : a.file ∈ order.map Prod.snd := w.files_eq ▸ hfile ha
    rcases w.search.before a.file hafile b.file (edge_targets_iff.mpr himports) with h | h | h
    · exact absurd (List.mem_singleton.mp h) ((w.mem_files_iff b.file).mp (hfile hb)).1
    · rw [w.files_eq]
      exact h
    · exact absurd (way_targets_iff.mp h) hback
  -- a section is determined by its file, so the order of the files is that of the sections
  obtain ⟨sections', hsections, hmap⟩ := List.sublist_map_iff.mp hsub
  obtain ⟨b', rest, rfl, hb', hrest⟩ := List.map_eq_cons_iff.mp hmap.symm
  obtain ⟨a', rfl, ha'⟩ := List.map_eq_singleton_iff.mp hrest
  have hinj := List.inj_on_of_nodup_map w.nodup_files
  have hmem : ∀ s ∈ [b', a'], s ∈ p.sections := fun s hs => hsections.subset hs
  obtain rfl : b' = b := hinj (hmem b' (by simp)) hb hb'
  obtain rfl : a' = a := hinj (hmem a' (by simp)) ha ha'
  exact hsections

end Walked

/-- **The sections are those of the files that the entry reaches**, without the entry. Each of
them is listed once, and the entry and each of them is read once, however many imports lead
there and however they spell it. Without sections the entry's text is the result, and otherwise
the result is put together from them. -/
theorem mem_sections_iff_reaches (h : flattenGraph depth t entry importRoot = .ok out) :
    ∃ e r text, t.resolve entry = .ok e ∧ t.resolve importRoot = .ok r ∧
      t.readText (.ofLocation e) = .ok text ∧
      let run := (walkGraph depth t entry importRoot).2
      (∀ l, l ∈ run.sections.map Section.file ↔ l ≠ e ∧ Reaches t ⟨r, e.dropLast⟩ e l) ∧
      (run.sections.map Section.file).Nodup ∧
      run.reads.Nodup ∧ run.reads.Perm (e :: run.sections.map Section.file) ∧
      out = if run.sections = [] then text else
        assemble ((e.getLast?).getD []) (unlinked t ⟨r, e.dropLast⟩ e) run.sections := by
  obtain ⟨e, r, text, order, w⟩ := walked_of_flattenGraph h
  exact ⟨e, r, text, w.entry_eq, w.root_eq, w.text_eq, w.mem_files_iff, w.nodup_files,
    w.reads_perm.1, w.reads_perm.2, w.out_eq⟩

/-- Libraries `A` and `B` that import each other, `B` also under the name of a link, and `D`,
which `B` imports. The entry `M` imports `A`, and `B` by a roundabout path. -/
def twins : Tree := ⟨[
  ([['s']], .directory), ([['l']], .directory),
  ([['s'], ['M']], .file (Utf8.encode "import 'A';\nimport 'x/../B';\n".toList)),
  ([['l'], ['A']], .file (Utf8.encode "import './B';\nimport 'C';\n".toList)),
  ([['l'], ['B']], .file (Utf8.encode "import 'A';\nimport './D';\n".toList)),
  ([['l'], ['C']], .link "B".toList),
  ([['l'], ['D']], .file (Utf8.encode "library D".toList))]⟩

/-- Where the walk of `twins` ends. -/
def twinsWalked : Progress :=
  ⟨[[['s'], ['M']], [['l'], ['A']], [['l'], ['B']], [['l'], ['D']]],
    [[['s'], ['M']], [['l'], ['A']], [['l'], ['B']], [['l'], ['D']]],
    [⟨[['l'], ['D']], "./D".toList, "library D".toList⟩,
      ⟨[['l'], ['B']], "./B".toList, "\n\n".toList⟩, ⟨[['l'], ['A']], ['A'], "\n\n".toList⟩]⟩

theorem resolve_twins_entry : twins.resolve (.ofText "/s/M".toList) = .ok [['s'], ['M']] := by
  cbv

theorem resolve_twins_root : twins.resolve (.ofText "/l".toList) = .ok [['l']] := by
  cbv

theorem walkGraph_twins :
    ∃ out, walkGraph usualDepth twins (.ofText "/s/M".toList) (.ofText "/l".toList) =
      (.ok out, twinsWalked) := by
  have htext : twins.readText (.ofLocation [['s'], ['M']]) =
      .ok "import 'A';\nimport 'x/../B';\n".toList := by cbv
  have hinline : ∀ k, inline twins ⟨[['l']], [['s']]⟩ (k + 4) [['s'], ['M']]
      "import 'A';\nimport 'x/../B';\n".toList ⟨[[['s'], ['M']]], [[['s'], ['M']]], []⟩ =
      (.ok "\n\n".toList, twinsWalked) := by
    intro k
    cbv
  exact ⟨_, walkGraph_eq_ok (by decide) resolve_twins_entry resolve_twins_root htext
    hinline⟩

/-- The twins and `D` have a section each, and with the entry they are what is reached. -/
theorem reaches_twins :
    ∃ out, flattenGraph usualDepth twins (.ofText "/s/M".toList) (.ofText "/l".toList) = .ok out ∧
      ∀ l, l ∈ [[['l'], ['D']], [['l'], ['B']], [['l'], ['A']]] ↔
        l ≠ [['s'], ['M']] ∧ Reaches twins ⟨[['l']], [['s']]⟩ [['s'], ['M']] l := by
  obtain ⟨out, hout⟩ := walkGraph_twins
  have h : flattenGraph usualDepth twins (.ofText "/s/M".toList) (.ofText "/l".toList) =
      .ok out := by
    rw [flattenGraph, hout]
  refine ⟨out, h, ?_⟩
  obtain ⟨e, r, text, he, hr, -, hfiles, -⟩ := mem_sections_iff_reaches h
  obtain rfl : e = [['s'], ['M']] := Except.ok.inj (he.symm.trans resolve_twins_entry)
  obtain rfl : r = [['l']] := Except.ok.inj (hr.symm.trans resolve_twins_root)
  rw [hout] at hfiles
  exact hfiles

/-- **Dependencies come first.** Where a file with a section imports another one that does not
reach it, the other one's section stands before its own; without circles that is so for every
import. In the result the sections stand in their order, and the entry's text without its header
lines behind them. -/
theorem sections_dependencies_first (h : flattenGraph depth t entry importRoot = .ok out) :
    ∃ e r text, t.resolve entry = .ok e ∧ t.resolve importRoot = .ok r ∧
      t.readText (.ofLocation e) = .ok text ∧
      let roots : Roots := ⟨r, e.dropLast⟩
      let sections := (walkGraph depth t entry importRoot).2.sections
      (sections.map Section.file).Nodup ∧
      (∀ a ∈ sections, ∀ b ∈ sections, Imports t roots a.file b.file →
        ¬ Reaches t roots b.file a.file → [b, a].Sublist sections) ∧
      ((∀ l, ¬ Relation.TransGen (Imports t roots) l l) →
        ∀ a ∈ sections, ∀ b ∈ sections, Imports t roots a.file b.file →
          [b, a].Sublist sections) ∧
      ∃ head, sections ≠ [] → out = shrinkGaps (Text.join "\n\n".toList
        (head ++ sections.map (fun s => banner s.spelling s.body) ++
          [banner ((e.getLast?).getD []) (splitHeader (unlinked t roots e)).2])) := by
  obtain ⟨e, r, text, order, w⟩ := walked_of_flattenGraph h
  refine ⟨e, r, text, w.entry_eq, w.root_eq, w.text_eq, w.nodup_files, ?_, ?_, ?_⟩
  · intro a ha b hb himports hback
    exact w.sublist_of_imports ha hb himports hback
  · intro hacyclic a ha b hb himports
    refine w.sublist_of_imports ha hb himports ?_
    intro hback
    exact hacyclic a.file (Relation.TransGen.head' himports hback)
  · let header := (splitHeader (unlinked t ⟨r, e.dropLast⟩ e)).1
    refine ⟨if Text.strip header = [] then [] else [Text.stripEnd header], fun hs => ?_⟩
    rw [w.out_eq, if_neg hs]
    rfl

/-- `B` imports `D` and stands behind it. The twins are not bound to an order. -/
theorem sublist_twins :
    ∃ out, flattenGraph usualDepth twins (.ofText "/s/M".toList) (.ofText "/l".toList) = .ok out ∧
      ∀ a ∈ twinsWalked.sections, ∀ b ∈ twinsWalked.sections, a.file = [['l'], ['B']] →
        b.file = [['l'], ['D']] → [b, a].Sublist twinsWalked.sections := by
  obtain ⟨out, hout⟩ := walkGraph_twins
  have h : flattenGraph usualDepth twins (.ofText "/s/M".toList) (.ofText "/l".toList) =
      .ok out := by
    rw [flattenGraph, hout]
  refine ⟨out, h, ?_⟩
  obtain ⟨e, r, text, he, hr, -, -, hbefore, -⟩ := sections_dependencies_first h
  obtain rfl : e = [['s'], ['M']] := Except.ok.inj (he.symm.trans resolve_twins_entry)
  obtain rfl : r = [['l']] := Except.ok.inj (hr.symm.trans resolve_twins_root)
  rw [hout] at hbefore
  intro a ha b hb hafile hbfile
  refine hbefore a ha b hb ?_ ?_
  · rw [hafile, hbfile]
    refine ⟨"import 'A';\nimport './D';\n".toList, ⟨"import './D';".toList, "./D".toList⟩, ?_⟩
    refine ⟨by cbv, ?_, by cbv⟩
    have himports : imports "import 'A';\nimport './D';\n".toList =
        [⟨"import 'A';".toList, ['A']⟩, ⟨"import './D';".toList, "./D".toList⟩] := by cbv
    rw [himports]
    simp
  · rw [hafile, hbfile]
    intro hway
    have htext : twins.readText (.ofLocation [['l'], ['D']]) = .ok "library D".toList := by cbv
    have himports : imports "library D".toList = [] := by cbv
    rcases Relation.ReflTransGen.cases_head hway with heq | ⟨c, ⟨text', i, htext', hi, -⟩, -⟩
    · exact absurd heq (by decide)
    · obtain rfl : text' = "library D".toList := Except.ok.inj (htext'.symm.trans htext)
      rw [himports] at hi
      cases hi

end ContractVerifier.Flatten
