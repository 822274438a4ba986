import ContractVerifier.Flatten.ImportGraph
import ContractVerifier.Proofs.Graph.DepthFirst

set_option autoImplicit false

/-! # The walk is a depth-first search

The walk of `Flatten/ImportGraph.lean` rewrites a text and inlines files at once, in the middle
of going through the pieces of that text. This file takes the two apart. The **import graph** has
an edge from a file to every file that one of its imports leads to (`targets`), and `unlinked` is
the text of a file without those imports; both are read off the tree alone. A walk that succeeds
is a depth-first search of that graph, its sections are the files finished, in order, each with
its `unlinked` text, and it reads the files it comes to and no others (`walked_of_flattenGraph`).
-/

namespace ContractVerifier.Flatten

open Solidity Search

variable {t : Tree} {roots : Roots}

/-! ## The import graph -/

/-- The file at `a` **imports** the one at `b`: one of the import statements of its text leads
there. -/
def Imports (t : Tree) (roots : Roots) (a b : Location) : Prop :=
  ∃ text i, t.readText (.ofLocation a) = .ok text ∧ i ∈ imports text ∧
    leadsTo t roots a i.path = .ok (some b)

/-- The file at `b` can be reached from the one at `a` through imports. -/
abbrev Reaches (t : Tree) (roots : Roots) : Location → Location → Prop :=
  Relation.ReflTransGen (Imports t roots)

/-- The file that an import in the file at `here` leads to, none also if it cannot be told. -/
def target? (t : Tree) (roots : Roots) (here : Location) (i : Import) : Option Location :=
  (leadsTo t roots here i.path).toOption.join

/-- The files that some imports in the file at `here` lead to, each with the path it is named
by. -/
def links (t : Tree) (roots : Roots) (here : Location) (is : List Import) :
    List (Text × Location) :=
  is.filterMap fun i => (target? t roots here i).map fun target => (i.path, target)

/-- The edges of the import graph that leave a file, in the order of its text. -/
def targets (t : Tree) (roots : Roots) (here : Location) : List (Text × Location) :=
  match t.readText (.ofLocation here) with
  | .error _ => []
  | .ok text => links t roots here (imports text)

/-- The text of a file without the imports that lead to a file. -/
def unlinked (t : Tree) (roots : Roots) (here : Location) : Text :=
  match t.readText (.ofLocation here) with
  | .error _ => []
  | .ok text => eraseWhere Import.recognise (fun i => (target? t roots here i).isSome) text

theorem target?_eq_some_iff {here b : Location} {i : Import} :
    target? t roots here i = some b ↔ leadsTo t roots here i.path = .ok (some b) := by
  unfold target?
  cases leadsTo t roots here i.path with
  | error e => simp [Except.toOption]
  | ok target => simp [Except.toOption]

theorem mem_links_iff {here b : Location} {is : List Import} {s : Text} :
    (s, b) ∈ links t roots here is ↔
      ∃ i ∈ is, i.path = s ∧ leadsTo t roots here i.path = .ok (some b) := by
  simp only [links, List.mem_filterMap, Option.map_eq_some_iff, Prod.mk.injEq]
  constructor
  · rintro ⟨i, hi, c, hc, rfl, rfl⟩
    exact ⟨i, hi, rfl, target?_eq_some_iff.mp hc⟩
  · rintro ⟨i, hi, rfl, hb⟩
    exact ⟨i, hi, b, target?_eq_some_iff.mpr hb, rfl, rfl⟩

theorem links_singleton {here b : Location} {i : Import} (h : target? t roots here i = some b) :
    links t roots here [i] = [(i.path, b)] := by
  simp [links, h]

/-- The edges of `targets` are the imports that lead to a file. -/
theorem edge_targets_iff {a b : Location} :
    Edge (targets t roots) a b ↔ Imports t roots a b := by
  simp only [Edge, Imports, targets, List.mem_map, Prod.exists, exists_eq_right]
  cases t.readText (.ofLocation a) with
  | error e => simp
  | ok text =>
      simp only [mem_links_iff, Except.ok.injEq]
      constructor
      · rintro ⟨s, i, hi, -, hb⟩
        exact ⟨text, i, rfl, hi, hb⟩
      · rintro ⟨_, i, rfl, hi, hb⟩
        exact ⟨i.path, i, hi, rfl, hb⟩

theorem way_targets_iff {a b : Location} :
    Way (targets t roots) a b ↔ Reaches t roots a b := by
  have h : Edge (targets t roots) = Imports t roots := by
    funext a b
    exact propext edge_targets_iff
  rw [Way, h]

/-! ## One visit -/

/-- The ways a visit of an import can end. -/
inductive Visit (t : Tree) (roots : Roots)
    (inlineFile : Location → Text → Progress → Except Fault Text × Progress)
    (here : Location) (i : Import) (p : Progress) : Except Fault (Option Text) × Progress → Prop
  /-- It cannot be told where the import leads. -/
  | fault {e : Fault} (hlead : leadsTo t roots here i.path = .error e) :
      Visit t roots inlineFile here i p (.error e, p)
  /-- It leads nowhere. -/
  | stays (hlead : leadsTo t roots here i.path = .ok none) :
      Visit t roots inlineFile here i p (.ok none, p)
  /-- It leads to a file that the walk came to before. -/
  | known {b : Location} (hlead : leadsTo t roots here i.path = .ok (some b))
      (hb : b ∈ p.handled) :
      Visit t roots inlineFile here i p (.ok (some []), p)
  /-- It leads to a file that cannot be read. -/
  | unread {b : Location} {e : Fault} (hlead : leadsTo t roots here i.path = .ok (some b))
      (hb : b ∉ p.handled) (htext : t.readText (.ofLocation b) = .error e) :
      Visit t roots inlineFile here i p (.error e, ((p.note b).read t b).2)
  /-- It leads to a file whose imports end the walk. -/
  | broken {b : Location} {text : Text} {e : Fault} {p' : Progress}
      (hlead : leadsTo t roots here i.path = .ok (some b)) (hb : b ∉ p.handled)
      (htext : t.readText (.ofLocation b) = .ok text)
      (hinline : inlineFile b text ((p.note b).read t b).2 = (.error e, p')) :
      Visit t roots inlineFile here i p (.error e, p')
  /-- It leads to a file that is inlined. -/
  | entered {b : Location} {text body : Text} {p' : Progress}
      (hlead : leadsTo t roots here i.path = .ok (some b)) (hb : b ∉ p.handled)
      (htext : t.readText (.ofLocation b) = .ok text)
      (hinline : inlineFile b text ((p.note b).read t b).2 = (.ok body, p')) :
      Visit t roots inlineFile here i p
        (.ok (some []), p'.finish ⟨b, i.path, (splitHeader body).2⟩)

theorem visit_visitImport
    (inlineFile : Location → Text → Progress → Except Fault Text × Progress) (here : Location)
    (i : Import) (p : Progress) :
    Visit t roots inlineFile here i p (visitImport t roots inlineFile here i p) := by
  rw [visitImport]
  split
  · rename_i hlead
    exact .fault hlead
  · rename_i hlead
    exact .stays hlead
  · rename_i b hlead
    split
    · rename_i hb
      exact .known hlead hb
    · rename_i hb
      split
      · rename_i e p₁ hread
        have htext : t.readText (.ofLocation b) = .error e := congrArg Prod.fst hread
        obtain rfl : ((p.note b).read t b).2 = p₁ := congrArg Prod.snd hread
        exact .unread hlead hb htext
      · rename_i text p₁ hread
        have htext : t.readText (.ofLocation b) = .ok text := congrArg Prod.fst hread
        obtain rfl : ((p.note b).read t b).2 = p₁ := congrArg Prod.snd hread
        split
        · rename_i hinline
          exact .broken hlead hb htext hinline
        · rename_i hinline
          exact .entered hlead hb htext hinline

/-! ## From one state of the walk to another -/

/-- The section of a file that was first imported by the path `s`. -/
def sectionOf (t : Tree) (roots : Roots) (e : Text × Location) : Section :=
  ⟨e.2, e.1, (splitHeader (unlinked t roots e.2)).2⟩

/-- The walk went from `p` to `p'` by a depth-first search along `edges`: it finished the
sections of `order`, whose texts can be read, and read what it came to. -/
structure Follows (t : Tree) (roots : Roots) (edges : List (Text × Location))
    (p p' : Progress) (order : List (Text × Location)) : Prop where
  search : DepthFirst (targets t roots) edges p.handled p'.handled order
  sections : p'.sections = p.sections ++ order.map (sectionOf t roots)
  texts : ∀ b ∈ order.map Prod.snd, ∃ text, t.readText (.ofLocation b) = .ok text
  reads : ∃ fresh, p'.handled = p.handled ++ fresh ∧ p'.reads = p.reads ++ fresh

namespace Follows

variable {p p' p'' : Progress} {edges edges' order order' : List (Text × Location)}

theorem refl (t : Tree) (roots : Roots) (p : Progress) : Follows t roots [] p p [] :=
  ⟨.nil, by simp, by simp, [], by simp, by simp⟩

theorem trans (h : Follows t roots edges p p' order) (h' : Follows t roots edges' p' p'' order') :
    Follows t roots (edges ++ edges') p p'' (order ++ order') := by
  obtain ⟨fresh, hh, hr⟩ := h.reads
  obtain ⟨fresh', hh', hr'⟩ := h'.reads
  refine ⟨h.search.append h'.search, ?_, ?_, fresh ++ fresh', ?_, ?_⟩
  · rw [h'.sections, h.sections, List.map_append, List.append_assoc]
  · intro b hb
    rw [List.map_append, List.mem_append] at hb
    exact hb.elim (h.texts b) (h'.texts b)
  · rw [hh', hh, List.append_assoc]
  · rw [hr', hr, List.append_assoc]

/-- An edge to a file that the walk came to before. -/
theorem skip {s : Text} {b : Location} (hb : b ∈ p.handled) :
    Follows t roots [(s, b)] p p [] :=
  ⟨.skip hb .nil, by simp, by simp, [], by simp, by simp⟩

/-- An edge to a file that the walk comes to now, reads, and finishes after what it imports. -/
theorem enter {s text : Text} {b : Location} (hb : b ∉ p.handled)
    (htext : t.readText (.ofLocation b) = .ok text)
    (h : Follows t roots (targets t roots b) ((p.note b).read t b).2 p' order) :
    Follows t roots [(s, b)] p (p'.finish (sectionOf t roots (s, b))) (order ++ [(s, b)]) := by
  obtain ⟨fresh, hh, hr⟩ := h.reads
  refine ⟨.enter hb h.search .nil, ?_, ?_, b :: fresh, ?_, ?_⟩
  · have hs : p'.sections = p.sections ++ order.map (sectionOf t roots) := h.sections
    simp only [Progress.finish, hs, List.map_append, List.map_cons, List.map_nil,
      List.append_assoc]
  · intro c hc
    rw [List.map_append, List.mem_append] at hc
    rcases hc with hc | hc
    · exact h.texts c hc
    · obtain rfl : c = b := by simpa using hc
      exact ⟨text, htext⟩
  · simp only [Progress.finish, hh, Progress.note, Progress.read, List.append_assoc,
      List.singleton_append]
  · simp only [Progress.finish, hr, Progress.note, Progress.read, List.append_assoc,
      List.singleton_append]

end Follows

/-! ## The recursion -/

/-- What stands for one piece in the end: the text itself, or nothing for an import that leads
to a file. -/
def leftOf (t : Tree) (roots : Roots) (here : Location) : Piece Import → Text
  | .plain t => t
  | .found raw i => if (target? t roots here i).isSome then [] else raw

theorem unlinked_of_readText {here : Location} {text : Text}
    (h : t.readText (.ofLocation here) = .ok text) :
    unlinked t roots here = (pieces Import.recognise text).flatMap (leftOf t roots here) := by
  simp only [unlinked, h, eraseWhere]
  congr 1
  funext piece
  cases piece <;> rfl

theorem targets_of_readText {here : Location} {text : Text}
    (h : t.readText (.ofLocation here) = .ok text) :
    targets t roots here = links t roots here (imports text) := by
  unfold targets
  rw [h]

/-- Going through pieces: if every import that is visited follows the edge it stands for, then
all of them together follow the edges of the text, and what is left is left piece by piece. -/
theorem walkPieces_eq_ok {here : Location}
    {visit : Import → Progress → Except Fault (Option Text) × Progress}
    (hvisit : ∀ i p r p', visit i p = (.ok r, p') →
      (∃ order, Follows t roots (links t roots here [i]) p p' order) ∧
        r = (target? t roots here i).map fun _ => [])
    {ps : List (Piece Import)} {done : List Text} {p p' : Progress} {body : Text}
    (h : walkPieces visit ps done p = (.ok body, p')) :
    (∃ order, Follows t roots (links t roots here (ps.filterMap Piece.value?)) p p' order) ∧
      body = done.reverse.flatten ++ ps.flatMap (leftOf t roots here) := by
  induction ps generalizing done p with
  | nil =>
      simp only [walkPieces, Prod.mk.injEq, Except.ok.injEq] at h
      obtain ⟨rfl, rfl⟩ := h
      exact ⟨⟨[], Follows.refl t roots p⟩, by simp⟩
  | cons piece ps ih =>
      cases piece with
      | plain t' =>
          obtain ⟨hfollows, hbody⟩ := ih (by simpa only [walkPieces] using h)
          refine ⟨hfollows, ?_⟩
          rw [hbody]
          simp [leftOf]
      | found raw i =>
          rw [walkPieces] at h
          split at h
          · cases h
          · rename_i r p₁ hr
            obtain ⟨⟨order₁, h₁⟩, rfl⟩ := hvisit i p r p₁ hr
            obtain ⟨⟨order₂, h₂⟩, hbody⟩ := ih h
            refine ⟨⟨order₁ ++ order₂, ?_⟩, ?_⟩
            · have hlinks : links t roots here ((Piece.found raw i :: ps).filterMap Piece.value?)
                  = links t roots here [i]
                    ++ links t roots here (ps.filterMap Piece.value?) := by
                rw [links, links, links, ← List.filterMap_append]
                rfl
              rw [hlinks]
              exact h₁.trans h₂
            · rw [hbody, List.flatMap_cons]
              cases hi : target? t roots here i with
              | none => simp [leftOf, hi]
              | some b => simp [leftOf, hi]

/-- **Inlining a file follows its edges** in the import graph and leaves its text without the
imports that lead to a file, whatever the walk came to before. -/
theorem inline_eq_ok {depth : Nat} {here : Location} {text body : Text} {p p' : Progress}
    (h : inline t roots depth here text p = (.ok body, p')) :
    (∃ order, Follows t roots (links t roots here (imports text)) p p' order) ∧
      body = (pieces Import.recognise text).flatMap (leftOf t roots here) := by
  induction depth generalizing here text body p p' with
  | zero => simp [inline] at h
  | succ depth ih =>
      rw [inline] at h
      refine walkPieces_eq_ok ?_ h
      intro i p r p' hi
      have hvisit : Visit t roots (inline t roots depth) here i p (.ok r, p') :=
        hi ▸ visit_visitImport _ here i p
      cases hvisit with
      | stays hlead =>
          have hnone : target? t roots here i = none := by simp [target?, hlead, Except.toOption]
          refine ⟨⟨[], ?_⟩, by rw [hnone]; rfl⟩
          simpa [links, hnone] using Follows.refl t roots p
      | known hlead hb =>
          have hsome := target?_eq_some_iff.mpr hlead
          rw [links_singleton hsome, hsome]
          exact ⟨⟨[], Follows.skip hb⟩, rfl⟩
      | @entered b text' body' p₂ hlead hb htext hinline =>
          have hsome := target?_eq_some_iff.mpr hlead
          rw [links_singleton hsome, hsome]
          obtain ⟨⟨order, hfollows⟩, rfl⟩ := ih hinline
          rw [← targets_of_readText htext] at hfollows
          refine ⟨⟨order ++ [(i.path, b)], ?_⟩, rfl⟩
          have hsection : sectionOf t roots (i.path, b)
              = ⟨b, i.path, (splitHeader ((pieces Import.recognise text').flatMap
                  (leftOf t roots b))).2⟩ := by
            rw [sectionOf, unlinked_of_readText htext]
          rw [← hsection]
          exact Follows.enter hb htext hfollows

/-! ## The whole walk -/

/-- The ways a walk can end. -/
inductive Ending (depth : Nat) (t : Tree) (entry importRoot : Path) :
    Except Fault Text × Progress → Prop
  /-- The entry's path stands for no location. -/
  | unresolved {x : FileFault} (he : t.resolve entry = .error x) :
      Ending depth t entry importRoot (.error (.file x), .start)
  /-- The entry cannot be read. -/
  | unread {e : Location} {x : Fault} (he : t.resolve entry = .ok e)
      (htext : t.readText (.ofLocation e) = .error x) :
      Ending depth t entry importRoot (.error x, ⟨[], [e], []⟩)
  /-- The path of the import root stands for no location. -/
  | rootless {e : Location} {text : Text} {x : FileFault} (he : t.resolve entry = .ok e)
      (htext : t.readText (.ofLocation e) = .ok text) (hr : t.resolve importRoot = .error x) :
      Ending depth t entry importRoot (.error (.file x), ⟨[], [e], []⟩)
  /-- The imports of the entry end the walk. -/
  | broken {e r : Location} {text : Text} {x : Fault} {p : Progress} (he : t.resolve entry = .ok e)
      (htext : t.readText (.ofLocation e) = .ok text) (hr : t.resolve importRoot = .ok r)
      (hinline : inline t ⟨r, e.dropLast⟩ (depth + 1) e text ⟨[e], [e], []⟩ = (.error x, p)) :
      Ending depth t entry importRoot (.error x, p)
  /-- The entry is inlined. -/
  | inlined {e r : Location} {text body : Text} {p : Progress} (he : t.resolve entry = .ok e)
      (htext : t.readText (.ofLocation e) = .ok text) (hr : t.resolve importRoot = .ok r)
      (hinline : inline t ⟨r, e.dropLast⟩ (depth + 1) e text ⟨[e], [e], []⟩ = (.ok body, p)) :
      Ending depth t entry importRoot
        (.ok (if p.sections = [] then text else
          assemble ((e.getLast?).getD []) body p.sections), p)

theorem ending_walkGraph (depth : Nat) (t : Tree) (entry importRoot : Path) :
    Ending depth t entry importRoot (walkGraph depth t entry importRoot) := by
  rw [walkGraph]
  split
  · rename_i he
    exact .unresolved he
  · rename_i e he
    split
    · rename_i x p hread
      obtain rfl : ⟨[], [e], []⟩ = p := congrArg Prod.snd hread
      exact .unread he (congrArg Prod.fst hread)
    · rename_i text p hread
      obtain rfl : ⟨[], [e], []⟩ = p := congrArg Prod.snd hread
      have htext : t.readText (.ofLocation e) = .ok text := congrArg Prod.fst hread
      split
      · rename_i hr
        exact .rootless he htext hr
      · rename_i r hr
        simp only
        split
        · rename_i hinline
          exact .broken he htext hr hinline
        · rename_i body p hinline
          have hending := Ending.inlined he htext hr hinline
          split
          · rename_i hs
            rw [if_pos hs] at hending
            exact hending
          · rename_i hs
            rw [if_neg hs] at hending
            exact hending

/-- What a walk from `entry` that succeeded has done: the entry is at `e`, its text is `text`,
libraries are looked for below `r`, and the sections are those of `order`. -/
structure Walked (t : Tree) (entry importRoot : Path) (out : Text) (p : Progress)
    (e r : Location) (text : Text) (order : List (Text × Location)) : Prop where
  entry_eq : t.resolve entry = .ok e
  root_eq : t.resolve importRoot = .ok r
  text_eq : t.readText (.ofLocation e) = .ok text
  search : DepthFirst (targets t ⟨r, e.dropLast⟩) (targets t ⟨r, e.dropLast⟩ e) [e] p.handled order
  sections : p.sections = order.map (sectionOf t ⟨r, e.dropLast⟩)
  texts : ∀ b ∈ order.map Prod.snd, ∃ text, t.readText (.ofLocation b) = .ok text
  reads : p.reads = p.handled
  out_eq : out = if p.sections = [] then text else
    assemble ((e.getLast?).getD []) (unlinked t ⟨r, e.dropLast⟩ e) p.sections

/-- **A walk that succeeds is a depth-first search of the import graph.** -/
theorem walked_of_flattenGraph {depth : Nat} {entry importRoot : Path} {out : Text}
    (h : flattenGraph depth t entry importRoot = .ok out) :
    ∃ e r text order,
      Walked t entry importRoot out (walkGraph depth t entry importRoot).2 e r text order := by
  obtain ⟨p, hp⟩ : ∃ p, walkGraph depth t entry importRoot = (.ok out, p) :=
    ⟨_, Prod.ext h rfl⟩
  have hending := ending_walkGraph depth t entry importRoot
  rw [hp] at hending ⊢
  cases hending with
  | @inlined e r text body _ he htext hr hinline =>
      obtain ⟨⟨order, hfollows⟩, rfl⟩ := inline_eq_ok hinline
      rw [← targets_of_readText htext] at hfollows
      obtain ⟨fresh, hhandled, hreads⟩ := hfollows.reads
      refine ⟨e, r, text, order, he, hr, htext, hfollows.search, ?_, hfollows.texts, ?_, ?_⟩
      · simpa using hfollows.sections
      · rw [hreads, hhandled]
      · rw [unlinked_of_readText htext]

/-! ## Walks that succeed -/

/-- A walk succeeds if the entry is inlined with any bound from a small one on, and the result is
put together from what that gives. -/
theorem walkGraph_eq_ok {depth : Nat} {entry importRoot : Path} {e r : Location} {text body : Text}
    {p : Progress} {n : Nat} (hn : n ≤ depth + 1)
    (he : t.resolve entry = .ok e) (hr : t.resolve importRoot = .ok r)
    (htext : t.readText (.ofLocation e) = .ok text)
    (hinline : ∀ k, inline t ⟨r, e.dropLast⟩ (k + n) e text ⟨[e], [e], []⟩ = (.ok body, p)) :
    walkGraph depth t entry importRoot = (.ok (if p.sections = [] then text else
      assemble ((e.getLast?).getD []) body p.sections), p) := by
  have hread : Progress.start.read t e = (.ok text, ⟨[], [e], []⟩) := Prod.ext htext rfl
  have hnote : (⟨[], [e], []⟩ : Progress).note e = ⟨[e], [e], []⟩ := rfl
  obtain ⟨k, hk⟩ : ∃ k, depth + 1 = k + n := ⟨depth + 1 - n, by omega⟩
  simp only [walkGraph, he, hread, hr, hnote, hk, hinline]
  split
  · rfl
  · rfl

end ContractVerifier.Flatten
