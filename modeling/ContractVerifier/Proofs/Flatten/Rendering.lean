import ContractVerifier.Proofs.Flatten.Sections

set_option autoImplicit false

/-! # Planning first and rendering then

The walk rewrites texts while it searches. This file compares it with a reference in two phases
that share no state: a **plan** is the depth-first order of the files to inline, each with the
path by which it is first reached, and **rendering** turns a plan into a text, every file on its
own (`render`). `flattenGraph_eq_render` says that the walk gives the rendered plan.
-/

namespace ContractVerifier.Flatten

open Solidity Search

variable {t : Tree} {roots : Roots}

/-- The order in which the files that the one at `e` reaches are inlined, each with the path by
which it is first reached: a depth-first search that has seen `e` follows its imports. -/
def Plan (t : Tree) (roots : Roots) (e : Location) (order : List (Text × Location)) : Prop :=
  ∃ seen, DepthFirst (targets t roots) (targets t roots e) [e] seen order

theorem Plan.unique {e : Location} {order order' : List (Text × Location)}
    (h : Plan t roots e order) (h' : Plan t roots e order') : order' = order := by
  obtain ⟨_, h⟩ := h
  obtain ⟨_, h'⟩ := h'
  exact (h.unique h').2

theorem banner_eq (name body : Text) :
    banner name body = "// File: ".toList ++ name ++ '\n' :: (Text.strip body ++ ['\n']) := rfl

/-- A file under a banner with a name: its text without the imports that lead to a file, then
without header lines, then without white space around it. -/
def renderFile (t : Tree) (roots : Roots) (name : Text) (file : Location) : Text :=
  banner name (erase Header.recognise (unlinked t roots file))

/-- The header lines of a file, each without white space around it and on a line of its own,
without the last line end. Nothing for a file without any. -/
def renderHeader (t : Tree) (roots : Roots) (file : Location) : List Text :=
  let header := (found Header.recognise (unlinked t roots file)).flatMap (· ++ ['\n'])
  if Text.strip header = [] then [] else [Text.stripEnd header]

/-- The text of a plan: the header lines of the entry at `e`, the files of the plan and the rest
of the entry, with blank lines between and never more than one. -/
def render (t : Tree) (roots : Roots) (e : Location) (order : List (Text × Location)) : Text :=
  shrinkGaps (Text.join "\n\n".toList
    (renderHeader t roots e ++ order.map (fun s => renderFile t roots s.1 s.2) ++
      [renderFile t roots ((e.getLast?).getD []) e]))

theorem assemble_eq_render (e : Location) (order : List (Text × Location)) :
    assemble ((e.getLast?).getD []) (unlinked t roots e) (order.map (sectionOf t roots)) =
      render t roots e order := by
  have hsections : (order.map (sectionOf t roots)).map (fun s => banner s.spelling s.body) =
      order.map (fun s => renderFile t roots s.1 s.2) := by
    rw [List.map_map]
    rfl
  rw [render, ← hsections]
  rfl

/-- **Rewriting in one pass is planning and then rendering.** The plan is determined by the import
graph, and the text of a file in the result by the tree, the file and the path by which it is
first reached: what the walk came to before does not show. A file's text is cut into pieces that
make up the whole, and of these only the imports that lead to a file are left out. -/
theorem flattenGraph_eq_render {depth : Nat} {entry importRoot : Path} {out : Text}
    (h : flattenGraph depth t entry importRoot = .ok out) :
    ∃ e r order, t.resolve entry = .ok e ∧ t.resolve importRoot = .ok r ∧
      let roots : Roots := ⟨r, e.dropLast⟩
      Plan t roots e order ∧ (∀ order', Plan t roots e order' → order' = order) ∧
      (walkGraph depth t entry importRoot).2.sections.map (fun s => (s.spelling, s.file)) = order ∧
      (order = [] → t.readText (.ofLocation e) = .ok out) ∧
      (order ≠ [] → out = render t roots e order) ∧
      ∀ file ∈ e :: order.map Prod.snd, ∃ text, t.readText (.ofLocation file) = .ok text ∧
        (pieces Import.recognise text).flatMap Piece.raw = text ∧
        unlinked t roots file = (pieces Import.recognise text).flatMap (leftOf t roots file) := by
  obtain ⟨e, r, text, order, w⟩ := walked_of_flattenGraph h
  have hplan : Plan t ⟨r, e.dropLast⟩ e order := ⟨_, w.search⟩
  refine ⟨e, r, order, w.entry_eq, w.root_eq, hplan, fun _ => hplan.unique, ?_, ?_, ?_, ?_⟩
  · rw [w.sections, List.map_map]
    exact List.map_id order
  · intro horder
    rw [w.out_eq, w.sections, horder]
    exact w.text_eq
  · intro horder
    have hsections : (walkGraph depth t entry importRoot).2.sections ≠ [] := by
      rw [w.sections]
      simpa using horder
    rw [w.out_eq, if_neg hsections, w.sections]
    exact assemble_eq_render e order
  · intro file hfile
    obtain ⟨text', htext⟩ : ∃ text', t.readText (.ofLocation file) = .ok text' := by
      rcases List.mem_cons.mp hfile with rfl | hfile
      · exact ⟨text, w.text_eq⟩
      · exact w.texts file hfile
    exact ⟨text', htext, flatMap_raw_pieces Import.recognise_sound text',
      unlinked_of_readText htext⟩

/-- The twins are rendered behind `D`, each under the path by which the search came to it. -/
theorem render_twins :
    ∃ out, flattenGraph usualDepth twins (.ofText "/s/M".toList) (.ofText "/l".toList) = .ok out ∧
      out = render twins ⟨[['l']], [['s']]⟩ [['s'], ['M']]
        [("./D".toList, [['l'], ['D']]), ("./B".toList, [['l'], ['B']]), (['A'], [['l'], ['A']])] := by
  obtain ⟨out, hout⟩ := walkGraph_twins
  have h : flattenGraph usualDepth twins (.ofText "/s/M".toList) (.ofText "/l".toList) =
      .ok out := by
    rw [flattenGraph, hout]
  refine ⟨out, h, ?_⟩
  obtain ⟨e, r, order, he, hr, -, -, horder, -, hrender, -⟩ := flattenGraph_eq_render h
  obtain rfl : e = [['s'], ['M']] := Except.ok.inj (he.symm.trans resolve_twins_entry)
  obtain rfl : r = [['l']] := Except.ok.inj (hr.symm.trans resolve_twins_root)
  rw [hout] at horder
  subst horder
  exact hrender (by simp [twinsWalked])

end ContractVerifier.Flatten
