import ContractVerifier.Proofs.Flatten.Gaps
import ContractVerifier.Proofs.Flatten.Rendering
import ContractVerifier.Proofs.Solidity.Headers

set_option autoImplicit false

/-! # Which imports are left in the result

An import that leads to a file is erased and one that leads nowhere stays, file by file. The result
puts what is left of the files together, and its imports are looked for anew. Where the files are
`Orderly`, it has exactly those that stayed (`findImports_flattenGraph`).

It need not have their texts: an import may run over several lines, and blank lines in it are
shrunk with all others. In files that are not orderly more may be left
(`flattenGraph_leaves_others`).
-/

namespace ContractVerifier.Flatten

open Solidity

variable {t : Tree} {roots : Roots}

/-! ## A walk that succeeds knows where its imports lead -/

/-- It can be told where the imports of the file at `here` lead. -/
def Settled (t : Tree) (roots : Roots) (here : Location) : Prop :=
  ∃ text, t.readText (.ofLocation here) = .ok text ∧
    ∀ i ∈ imports text, ∃ target, leadsTo t roots here i.path = .ok target

/-- What every visit that succeeds keeps, going through the pieces to the end keeps, and all imports
on the way were visited. -/
theorem walkPieces_ok {visit : Import → Progress → Except Fault (Option Text) × Progress}
    {Keeps : Progress → Prop} {Good : Import → Prop}
    (hvisit : ∀ i p r p', Keeps p → visit i p = (.ok r, p') → Keeps p' ∧ Good i)
    {ps : List (Piece Import)} {done : List Text} {p p' : Progress} {body : Text} (hp : Keeps p)
    (h : walkPieces visit ps done p = (.ok body, p')) :
    Keeps p' ∧ ∀ i ∈ ps.filterMap Piece.value?, Good i := by
  induction ps generalizing done p with
  | nil =>
      obtain ⟨-, rfl⟩ := Prod.mk.inj h
      exact ⟨hp, by simp⟩
  | cons piece ps ih =>
      cases piece with
      | plain t' => exact ih hp (by simpa only [walkPieces] using h)
      | found raw i =>
          rw [walkPieces] at h
          split at h
          · cases h
          · rename_i r p₁ hr
            obtain ⟨hp₁, hi⟩ := hvisit i p r p₁ hp hr
            obtain ⟨hp', hrest⟩ := ih hp₁ h
            refine ⟨hp', ?_⟩
            intro j hj
            rcases List.mem_cons.mp hj with rfl | hj
            · exact hi
            · exact hrest j hj

theorem settled_inline {depth : Nat} {here : Location} {text body : Text} {p p' : Progress}
    (htext : t.readText (.ofLocation here) = .ok text)
    (hp : ∀ s ∈ p.sections, Settled t roots s.file)
    (h : inline t roots depth here text p = (.ok body, p')) :
    (∀ s ∈ p'.sections, Settled t roots s.file) ∧ Settled t roots here := by
  induction depth generalizing here text body p p' with
  | zero => simp [inline] at h
  | succ depth ih =>
      rw [inline] at h
      have hvisits : ∀ i p r p', (∀ s ∈ p.sections, Settled t roots s.file) →
          visitImport t roots (inline t roots depth) here i p = (.ok r, p') →
          (∀ s ∈ p'.sections, Settled t roots s.file) ∧
            ∃ target, leadsTo t roots here i.path = .ok target := by
        intro i p r p' hp hi
        have hvisit : Visit t roots (inline t roots depth) here i p (.ok r, p') :=
          hi ▸ visit_visitImport _ here i p
        cases hvisit with
        | stays hlead => exact ⟨hp, none, hlead⟩
        | @known b hlead => exact ⟨hp, some b, hlead⟩
        | @entered b text' body' p₂ hlead hb htext' hinline =>
            obtain ⟨hp₂, hb'⟩ := ih (p := ((p.note b).read t b).2) htext' hp hinline
            refine ⟨?_, some b, hlead⟩
            intro s hs
            rcases List.mem_append.mp hs with hs | hs
            · exact hp₂ s hs
            · obtain rfl := List.mem_singleton.mp hs
              exact hb'
      obtain ⟨hp', himports⟩ := walkPieces_ok hvisits hp h
      exact ⟨hp', text, htext, himports⟩

theorem Walked.settled {depth : Nat} {entry importRoot : Path} {out text : Text} {e r : Location}
    {order : List (Text × Location)} (h : flattenGraph depth t entry importRoot = .ok out)
    (w : Walked t entry importRoot out (walkGraph depth t entry importRoot).2 e r text order) :
    ∀ here ∈ e :: order.map Prod.snd, Settled t ⟨r, e.dropLast⟩ here := by
  obtain ⟨p, hp⟩ : ∃ p, walkGraph depth t entry importRoot = (.ok out, p) := ⟨_, Prod.ext h rfl⟩
  have hending := ending_walkGraph depth t entry importRoot
  rw [hp] at hending w
  cases hending with
  | @inlined e' r' text' body _ he htext hr hinline =>
      obtain rfl : e' = e := Except.ok.inj (he.symm.trans w.entry_eq)
      obtain rfl : r' = r := Except.ok.inj (hr.symm.trans w.root_eq)
      obtain ⟨hsections, hentry⟩ := settled_inline htext (by simp) hinline
      intro here hhere
      rcases List.mem_cons.mp hhere with rfl | hhere
      · exact hentry
      · rw [← w.files_eq] at hhere
        obtain ⟨s, hs, rfl⟩ := List.mem_map.mp hhere
        exact hsections s hs

/-! ## What stays of a file -/

/-- The imports of a file that lead nowhere, in the order of its text. -/
def staying (t : Tree) (roots : Roots) (here : Location) : List Import :=
  match t.readText (.ofLocation here) with
  | .error _ => []
  | .ok text => (imports text).filter fun i => !(target? t roots here i).isSome

theorem mem_staying_iff {here : Location} {text : Text} {i : Import}
    (h : t.readText (.ofLocation here) = .ok text) :
    i ∈ staying t roots here ↔ i ∈ imports text ∧ target? t roots here i = none := by
  simp [staying, h]

/-- The line that names a file in the result. -/
def caption (name : Text) : Text := "// File: ".toList ++ name

theorem caption_eq (name : Text) : caption name = "// File: ".toList ++ name := rfl

theorem renderFile_eq (name : Text) (here : Location) :
    renderFile t roots name here = caption name ++
      '\n' :: (Text.strip (erase Header.recognise (unlinked t roots here)) ++ ['\n']) :=
  banner_eq name _

/-- A file is orderly if no import begins where the search does not find one: neither in its text,
what follows an import on its line included, nor where a header line is taken out of what is left
of it. -/
structure Orderly (t : Tree) (roots : Roots) (here : Location) : Prop where
  tidy : ∀ text, t.readText (.ofLocation here) = .ok text → Tidy text
  headersApart : HeadersApart (unlinked t roots here)

/-- A name without line feeds begins no import behind its caption. -/
theorem quiet_caption {name : Text} (h : '\n' ∉ name) : Quiet (caption name) := by
  rw [quiet_iff]
  have hsingle : '\n' ∉ caption name := by
    intro hmem
    rcases List.mem_append.mp hmem with hmem | hmem
    · simp at hmem
    · exact h hmem
  exact .of_closed hsingle (opensImport_cons (by decide) (by decide) _)

namespace Orderly

variable {here : Location}

theorem reading_unlinked (h : Orderly t roots here) :
    Reading true (unlinked t roots here) (staying t roots here) := by
  rw [unlinked, staying]
  cases htext : t.readText (.ofLocation here) with
  | error x => exact .nil
  | ok text => exact (h.tidy text htext).reading.erase _

theorem reading_renderFile (h : Orderly t roots here) {name : Text} (hname : Quiet (caption name)) :
    Reading true (renderFile t roots name here) (staying t roots here) := by
  have hunlinked := h.reading_unlinked
  have hbody := h.headersApart.reading_erase hunlinked.tidy
  rw [hunlinked.imports_eq] at hbody
  have hend := (hbody.strip).append_line .nil
  rw [List.append_nil] at hend
  rw [renderFile_eq]
  exact (quiet_iff.mp hname).append_line hend

theorem quiet_renderHeader (h : Orderly t roots here) :
    ∀ part ∈ renderHeader t roots here, Quiet part := by
  intro part hpart
  rw [renderHeader] at hpart
  split at hpart
  · cases hpart
  · obtain rfl := List.mem_singleton.mp hpart
    exact quiet_iff.mpr h.headersApart.reading_header.stripEnd

end Orderly

/-! ## The result -/

theorem Walked.target_mem {entry importRoot : Path} {out text : Text} {p : Progress}
    {e r here b : Location} {order : List (Text × Location)}
    (w : Walked t entry importRoot out p e r text order) (hhere : here ∈ e :: order.map Prod.snd)
    (himports : Imports t ⟨r, e.dropLast⟩ here b) : b ∈ e :: order.map Prod.snd := by
  have hreach : Reaches t ⟨r, e.dropLast⟩ e here := by
    rcases List.mem_cons.mp hhere with rfl | hhere
    · exact .refl
    · rw [← w.files_eq] at hhere
      exact ((w.mem_files_iff here).mp hhere).2
  by_cases hb : b = e
  · exact List.mem_cons.mpr (.inl hb)
  · refine List.mem_cons_of_mem e ?_
    rw [← w.files_eq]
    exact (w.mem_files_iff b).mpr ⟨hb, hreach.tail himports⟩

theorem imports_render {e : Location} {order : List (Text × Location)}
    (horderly : ∀ s ∈ order ++ [((e.getLast?).getD [], e)],
      Orderly t roots s.2 ∧ Quiet (caption s.1)) :
    imports (render t roots e order) =
      (order ++ [((e.getLast?).getD [], e)]).flatMap fun s =>
        (staying t roots s.2).map shrunk := by
  have hheader := (horderly ((e.getLast?).getD [], e) (by simp)).1.quiet_renderHeader
  have hfiles : ∀ s ∈ order ++ [((e.getLast?).getD [], e)],
      Reading true (renderFile t roots s.1 s.2) (staying t roots s.2) :=
    fun s hs => (horderly s hs).1.reading_renderFile (horderly s hs).2
  have hparts : renderHeader t roots e ++ order.map (fun s => renderFile t roots s.1 s.2) ++
      [renderFile t roots ((e.getLast?).getD []) e] = renderHeader t roots e ++
        (order ++ [((e.getLast?).getD [], e)]).map fun s => renderFile t roots s.1 s.2 := by
    rw [List.map_append, List.append_assoc]
    rfl
  have htidy : ∀ part ∈ renderHeader t roots e ++
      (order ++ [((e.getLast?).getD [], e)]).map (fun s => renderFile t roots s.1 s.2),
      Tidy part := by
    intro part hpart
    rcases List.mem_append.mp hpart with hpart | hpart
    · exact (hheader part hpart).1
    · obtain ⟨s, hs, rfl⟩ := List.mem_map.mp hpart
      exact (hfiles s hs).tidy
  have hnone : (renderHeader t roots e).flatMap imports = [] := by
    rw [List.flatMap_eq_nil_iff]
    exact fun part hpart => (hheader part hpart).2
  have himports : ((order ++ [((e.getLast?).getD [], e)]).map
      fun s => renderFile t roots s.1 s.2).flatMap imports =
        (order ++ [((e.getLast?).getD [], e)]).flatMap fun s => staying t roots s.2 := by
    rw [List.flatMap_map]
    exact List.flatMap_congr fun s hs => (hfiles s hs).imports_eq
  have hjoin := reading_join htidy
  rw [List.flatMap_append, hnone, List.nil_append, himports] at hjoin
  rw [render, hparts, (reading_shrinkGaps hjoin).imports_eq, List.map_flatMap]

namespace Walked

variable {depth : Nat} {entry importRoot : Path} {out text : Text} {p : Progress} {e r : Location}
  {order : List (Text × Location)}

/-- The sections name the files in their order, and how each was first imported. -/
theorem order_eq (w : Walked t entry importRoot out p e r text order) :
    p.sections.map (fun s => (s.spelling, s.file)) = order := by
  rw [w.sections, List.map_map]
  exact List.map_id order

/-- Where the imports of a file that was read lead: nowhere, or to a file that was read. -/
theorem leads
    (w : Walked t entry importRoot out (walkGraph depth t entry importRoot).2 e r text order)
    (h : flattenGraph depth t entry importRoot = .ok out) {here : Location}
    (hhere : here ∈ e :: order.map Prod.snd) :
    ∃ text', t.readText (.ofLocation here) = .ok text' ∧ ∀ i ∈ imports text',
      leadsTo t ⟨r, e.dropLast⟩ here i.path = .ok none ∨
        ∃ b ∈ e :: order.map Prod.snd, leadsTo t ⟨r, e.dropLast⟩ here i.path = .ok (some b) := by
  obtain ⟨text', htext', hsettled⟩ := w.settled h here hhere
  refine ⟨text', htext', ?_⟩
  intro i hi
  obtain ⟨target, htarget⟩ := hsettled i hi
  cases target with
  | none => exact .inl htarget
  | some b => exact .inr ⟨b, w.target_mem hhere ⟨text', i, htext', hi, htarget⟩, htarget⟩

theorem findImports_eq (w : Walked t entry importRoot out p e r text order) (horder : order ≠ [])
    (horderly : ∀ s ∈ order ++ [((e.getLast?).getD [], e)],
      Orderly t ⟨r, e.dropLast⟩ s.2 ∧ Quiet (caption s.1)) :
    Solidity.findImports out = (order ++ [((e.getLast?).getD [], e)]).flatMap fun s =>
      (staying t ⟨r, e.dropLast⟩ s.2).map fun i => shrinkGaps i.statement := by
  have hsections : p.sections ≠ [] := by
    rw [w.sections]
    simpa using horder
  have hout : out = render t ⟨r, e.dropLast⟩ e order := by
    rw [w.out_eq, if_neg hsections, w.sections]
    exact assemble_eq_render e order
  rw [Solidity.findImports, hout, imports_render horderly, List.map_flatMap]
  simp only [List.map_map]
  rfl

end Walked

/-- The files of the parts of a result are the entry and those that have a section. -/
theorem mem_files_iff_exists_part {order : List (Text × Location)} {last : Text} {e b : Location} :
    b ∈ e :: order.map Prod.snd ↔ ∃ s ∈ order ++ [(last, e)], s.2 = b := by
  rw [List.mem_cons, List.mem_map]
  simp only [List.mem_append, List.mem_singleton]
  constructor
  · rintro (rfl | ⟨s, hs, rfl⟩)
    · exact ⟨_, .inr rfl, rfl⟩
    · exact ⟨s, .inl hs, rfl⟩
  · rintro ⟨s, hs | rfl, rfl⟩
    · exact .inr ⟨s, hs, rfl⟩
    · exact .inl rfl

/-- What a run has done whose entry is known. -/
theorem exists_walked {depth : Nat} {entry importRoot : Path} {e r : Location}
    {text out : Text} {p : Progress} (hwalk : walkGraph depth t entry importRoot = (.ok out, p))
    (he : t.resolve entry = .ok e) (hr : t.resolve importRoot = .ok r)
    (htext : t.readText (.ofLocation e) = .ok text) :
    ∃ order, Walked t entry importRoot out p e r text order := by
  obtain ⟨e', r', text', order, w⟩ := walked_of_flattenGraph (congrArg Prod.fst hwalk)
  obtain rfl : e' = e := Except.ok.inj (w.entry_eq.symm.trans he)
  obtain rfl : r' = r := Except.ok.inj (w.root_eq.symm.trans hr)
  obtain rfl : text' = text := Except.ok.inj (w.text_eq.symm.trans htext)
  rw [hwalk] at w
  exact ⟨order, w⟩

/-- **The imports that are left are those that lead nowhere.** Every import of the entry and of the
files that are inlined leads to one of them or nowhere. If nothing is inlined the result is the
entry's text, all imports of which lead nowhere unless one leads to the entry itself. Otherwise, if
the files are orderly, the import statements of the result are those of the files whose imports
lead nowhere, file by file in the order of the sections, with the gaps in them shrunk. -/
theorem findImports_flattenGraph {depth : Nat} {entry importRoot : Path} {out : Text}
    (h : flattenGraph depth t entry importRoot = .ok out) :
    ∃ e r, t.resolve entry = .ok e ∧ t.resolve importRoot = .ok r ∧
      let roots : Roots := ⟨r, e.dropLast⟩
      let order := (walkGraph depth t entry importRoot).2.sections.map fun s => (s.spelling, s.file)
      let parts := order ++ [((e.getLast?).getD [], e)]
      (∀ s ∈ parts, ∃ text, t.readText (.ofLocation s.2) = .ok text ∧ ∀ i ∈ imports text,
        (i ∈ staying t roots s.2 ∧ leadsTo t roots s.2 i.path = .ok none) ∨
          i ∉ staying t roots s.2 ∧ ∃ s' ∈ parts, leadsTo t roots s.2 i.path = .ok (some s'.2)) ∧
      (order = [] → t.readText (.ofLocation e) = .ok out ∧
        (¬ Imports t roots e e → ∀ i ∈ imports out, leadsTo t roots e i.path = .ok none)) ∧
      (order ≠ [] → (∀ s ∈ parts, Orderly t roots s.2 ∧ Quiet (caption s.1)) →
        Solidity.findImports out = parts.flatMap fun s =>
          (staying t roots s.2).map fun i => shrinkGaps i.statement) := by
  obtain ⟨e, r, text, order, w⟩ := walked_of_flattenGraph h
  refine ⟨e, r, w.entry_eq, w.root_eq, ?_⟩
  simp only [w.order_eq]
  refine ⟨?_, ?_, w.findImports_eq⟩
  · intro s hs
    obtain ⟨text', htext', hlead⟩ := w.leads h (mem_files_iff_exists_part.mpr ⟨s, hs, rfl⟩)
    refine ⟨text', htext', ?_⟩
    intro i hi
    rw [mem_staying_iff htext']
    rcases hlead i hi with hnone | ⟨b, hb, hsome⟩
    · have htarget : target? t ⟨r, e.dropLast⟩ s.2 i = none := by
        simp [target?, hnone, Except.toOption]
      exact .inl ⟨⟨hi, htarget⟩, hnone⟩
    · have htarget := target?_eq_some_iff.mpr hsome
      obtain ⟨s', hs', rfl⟩ := mem_files_iff_exists_part.mp hb
      exact .inr ⟨by simp [htarget], s', hs', hsome⟩
  · rintro rfl
    have hout : out = text := by
      rw [w.out_eq, w.sections, List.map_nil, if_pos rfl]
    obtain ⟨text', htext', hlead⟩ := w.leads h List.mem_cons_self
    obtain rfl : text' = out := Except.ok.inj (htext'.symm.trans (hout ▸ w.text_eq))
    refine ⟨htext', ?_⟩
    intro hself i hi
    rcases hlead i hi with hnone | ⟨b, hb, hsome⟩
    · exact hnone
    · obtain rfl : b = e := by simpa using hb
      exact absurd ⟨text', i, htext', hi, hsome⟩ hself

/-! ## An import with a gap -/

/-- An entry `M` and the file `A` it imports, each with an import that leads nowhere. The one of `M`
has blank lines in it. -/
def leftover : Tree := ⟨[
  ([['s']], .directory), ([['l']], .directory),
  ([['s'], ['M']], .file (Utf8.encode "import './A';\nimport X from\n\n\n'g';\n".toList)),
  ([['s'], ['A']], .file (Utf8.encode "import 'h';\ncontract A".toList))]⟩

/-- Where the walk of `leftover` ends. -/
def leftoverWalked : Progress :=
  ⟨[[['s'], ['M']], [['s'], ['A']]], [[['s'], ['M']], [['s'], ['A']]],
    [⟨[['s'], ['A']], "./A".toList, "import 'h';\ncontract A".toList⟩]⟩

/-- The parts of the result for `leftover`. -/
def leftoverParts : List (Text × Location) :=
  [("./A".toList, [['s'], ['A']]), (['M'], [['s'], ['M']])]

theorem readText_leftover_entry : leftover.readText (.ofLocation [['s'], ['M']]) =
    .ok "import './A';\nimport X from\n\n\n'g';\n".toList := by
  cbv

theorem readText_leftover_file : leftover.readText (.ofLocation [['s'], ['A']]) =
    .ok "import 'h';\ncontract A".toList := by
  cbv

theorem exists_walked_leftover : ∃ out order,
    walkGraph usualDepth leftover (.ofText "/s/M".toList) (.ofText "/l".toList) =
        (.ok out, leftoverWalked) ∧
      Walked leftover (.ofText "/s/M".toList) (.ofText "/l".toList) out leftoverWalked
        [['s'], ['M']] [['l']] "import './A';\nimport X from\n\n\n'g';\n".toList order := by
  have he : leftover.resolve (.ofText "/s/M".toList) = .ok [['s'], ['M']] := by cbv
  have hr : leftover.resolve (.ofText "/l".toList) = .ok [['l']] := by cbv
  have hinline : ∀ k, inline leftover ⟨[['l']], [['s']]⟩ (k + 3) [['s'], ['M']]
      "import './A';\nimport X from\n\n\n'g';\n".toList ⟨[[['s'], ['M']]], [[['s'], ['M']]], []⟩ =
      (.ok "\nimport X from\n\n\n'g';\n".toList, leftoverWalked) := by
    intro k
    cbv
  have hwalk :=
    walkGraph_eq_ok (by decide : _ ≤ usualDepth + 1) he hr readText_leftover_entry hinline
  obtain ⟨order, w⟩ := exists_walked hwalk he hr readText_leftover_entry
  exact ⟨_, order, hwalk, w⟩

/-- Without header lines nothing is to be kept apart. -/
theorem headersApart_of_pieces {t : Text} {ls : List Text}
    (hpieces : pieces Header.recognise t = ls.map .plain)
    (houtside : ∀ i ∈ imports t, found Header.recognise i.statement = []) : HeadersApart t := by
  refine ⟨houtside, ?_⟩
  rintro raw line behind ⟨before, hsuffix⟩
  have hmem : .found raw line ∈ pieces Header.recognise t := by simp [← hsuffix]
  rw [hpieces] at hmem
  obtain ⟨l, -, hl⟩ := List.mem_map.mp hmem
  cases hl

theorem orderly_leftover_entry : Orderly leftover ⟨[['l']], [['s']]⟩ [['s'], ['M']] := by
  have hpieces : pieces Import.recognise "import './A';\nimport X from\n\n\n'g';\n".toList =
      [.found "import './A';".toList ⟨"import './A';".toList, "./A".toList⟩, .plain ['\n'],
        .found "import X from\n\n\n'g';".toList ⟨"import X from\n\n\n'g';".toList, ['g']⟩,
        .plain ['\n']] := by cbv
  have hunlinked : unlinked leftover ⟨[['l']], [['s']]⟩ [['s'], ['M']] =
      "\nimport X from\n\n\n'g';\n".toList := by cbv
  refine ⟨?_, ?_⟩
  · intro text htext l hl
    obtain rfl := Except.ok.inj (htext.symm.trans readText_leftover_entry)
    rw [hpieces] at hl
    obtain rfl : l = ['\n'] := by simpa using hl
    decide
  · rw [hunlinked]
    have hheaders : pieces Header.recognise "\nimport X from\n\n\n'g';\n".toList =
        [['\n'], "import X from\n".toList, ['\n'], ['\n'], "'g';\n".toList].map .plain := by cbv
    refine headersApart_of_pieces hheaders ?_
    have himports : imports "\nimport X from\n\n\n'g';\n".toList =
        [⟨"import X from\n\n\n'g';".toList, ['g']⟩] := by cbv
    intro i hi
    rw [himports] at hi
    obtain rfl := List.mem_singleton.mp hi
    cbv

theorem orderly_leftover_file : Orderly leftover ⟨[['l']], [['s']]⟩ [['s'], ['A']] := by
  have hpieces : pieces Import.recognise "import 'h';\ncontract A".toList =
      [.found "import 'h';".toList ⟨"import 'h';".toList, ['h']⟩, .plain ['\n'],
        .plain "contract A".toList] := by cbv
  have hunlinked : unlinked leftover ⟨[['l']], [['s']]⟩ [['s'], ['A']] =
      "import 'h';\ncontract A".toList := by cbv
  refine ⟨?_, ?_⟩
  · intro text htext l hl
    obtain rfl := Except.ok.inj (htext.symm.trans readText_leftover_file)
    rw [hpieces] at hl
    obtain rfl | rfl : l = ['\n'] ∨ l = "contract A".toList := by simpa using hl
    · decide
    · decide
  · rw [hunlinked]
    have hheaders : pieces Header.recognise "import 'h';\ncontract A".toList =
        ["import 'h';\n".toList, "contract A".toList].map .plain := by cbv
    refine headersApart_of_pieces hheaders ?_
    have himports : imports "import 'h';\ncontract A".toList =
        [⟨"import 'h';".toList, ['h']⟩] := by cbv
    intro i hi
    rw [himports] at hi
    obtain rfl := List.mem_singleton.mp hi
    cbv

theorem orderly_leftover : ∀ s ∈ leftoverParts,
    Orderly leftover ⟨[['l']], [['s']]⟩ s.2 ∧ Quiet (caption s.1) := by
  intro s hs
  rcases List.mem_cons.mp hs with rfl | hs
  · exact ⟨orderly_leftover_file, quiet_caption (by decide)⟩
  · obtain rfl := List.mem_singleton.mp hs
    exact ⟨orderly_leftover_entry, quiet_caption (by decide)⟩

theorem staying_leftover : leftoverParts.flatMap
    (fun s => (staying leftover ⟨[['l']], [['s']]⟩ s.2).map fun i => shrinkGaps i.statement) =
      ["import 'h';".toList, "import X from\n\n'g';".toList] := by
  cbv

/-- Both imports that lead nowhere are left, the gap shrunk. -/
theorem findImports_leftover : ∃ out,
    flattenGraph usualDepth leftover (.ofText "/s/M".toList) (.ofText "/l".toList) = .ok out ∧
      (∀ s ∈ leftoverParts, Orderly leftover ⟨[['l']], [['s']]⟩ s.2 ∧ Quiet (caption s.1)) ∧
      Solidity.findImports out = ["import 'h';".toList, "import X from\n\n'g';".toList] := by
  obtain ⟨out, order, hout, w⟩ := exists_walked_leftover
  have h : flattenGraph usualDepth leftover (.ofText "/s/M".toList) (.ofText "/l".toList) =
      .ok out :=
    congrArg Prod.fst hout
  refine ⟨out, h, orderly_leftover, ?_⟩
  obtain ⟨e, r, he, hr, -, -, himports⟩ := findImports_flattenGraph h
  obtain rfl : e = [['s'], ['M']] := Except.ok.inj (he.symm.trans w.entry_eq)
  obtain rfl : r = [['l']] := Except.ok.inj (hr.symm.trans w.root_eq)
  rw [hout] at himports
  exact (himports (by simp [leftoverWalked]) orderly_leftover).trans staying_leftover

/-- The result has an import whose statement is in none of the files it was made of. -/
theorem shrunk_import_is_in_no_file : ∃ out,
    walkGraph usualDepth leftover (.ofText "/s/M".toList) (.ofText "/l".toList) =
        (.ok out, leftoverWalked) ∧
      ∃ s ∈ Solidity.findImports out,
        ∀ file ∈ [['s'], ['M']] :: leftoverWalked.sections.map Section.file, ∀ text,
          leftover.readText (.ofLocation file) = .ok text → ¬ s <:+: text := by
  obtain ⟨out, order, hout, w⟩ := exists_walked_leftover
  refine ⟨out, hout, "import X from\n\n'g';".toList, ?_, ?_⟩
  · have horder := w.order_eq
    subst horder
    rw [(w.findImports_eq (by simp [leftoverWalked]) orderly_leftover).trans staying_leftover]
    simp
  · intro file hfile text htext
    rcases List.mem_cons.mp hfile with rfl | hfile
    · obtain rfl := Except.ok.inj (htext.symm.trans readText_leftover_entry)
      decide
    · obtain rfl := List.mem_singleton.mp hfile
      obtain rfl := Except.ok.inj (htext.symm.trans readText_leftover_file)
      decide

/-! ## Imports that lead to a file and are left -/

/-- An entry `M` that imports nothing but itself. -/
def lonely : Tree := ⟨[
  ([['s']], .directory), ([['l']], .directory),
  ([['s'], ['M']], .file (Utf8.encode "import './M';\n".toList))]⟩

/-- An entry `M` that imports `A` and `B` on one line. -/
def crowded : Tree := ⟨[
  ([['s']], .directory), ([['l']], .directory),
  ([['s'], ['M']], .file (Utf8.encode "import './A'; import './B';\n".toList)),
  ([['s'], ['A']], .file (Utf8.encode "contract A".toList)),
  ([['s'], ['B']], .file (Utf8.encode "contract B".toList))]⟩

theorem exists_findImports_lonely : ∃ out,
    flattenGraph usualDepth lonely (.ofText "/s/M".toList) (.ofText "/l".toList) = .ok out ∧
      Solidity.findImports out = ["import './M';".toList] := by
  have hinline : ∀ k, inline lonely ⟨[['l']], [['s']]⟩ (k + 2) [['s'], ['M']]
      "import './M';\n".toList ⟨[[['s'], ['M']]], [[['s'], ['M']]], []⟩ =
      (.ok "\n".toList, ⟨[[['s'], ['M']]], [[['s'], ['M']]], []⟩) := by
    intro k
    cbv
  have he : lonely.resolve (.ofText "/s/M".toList) = .ok [['s'], ['M']] := by cbv
  have hr : lonely.resolve (.ofText "/l".toList) = .ok [['l']] := by cbv
  have htext : lonely.readText (.ofLocation [['s'], ['M']]) =
      .ok "import './M';\n".toList := by cbv
  have hwalk := walkGraph_eq_ok (by decide : _ ≤ usualDepth + 1) he hr htext hinline
  refine ⟨_, congrArg Prod.fst hwalk, ?_⟩
  cbv

theorem exists_findImports_crowded : ∃ out,
    flattenGraph usualDepth crowded (.ofText "/s/M".toList) (.ofText "/l".toList) = .ok out ∧
      Solidity.findImports out = ["import './B';".toList] := by
  have hinline : ∀ k, inline crowded ⟨[['l']], [['s']]⟩ (k + 3) [['s'], ['M']]
      "import './A'; import './B';\n".toList ⟨[[['s'], ['M']]], [[['s'], ['M']]], []⟩ =
      (.ok " import './B';\n".toList, ⟨[[['s'], ['M']], [['s'], ['A']]],
        [[['s'], ['M']], [['s'], ['A']]],
        [⟨[['s'], ['A']], "./A".toList, "contract A".toList⟩]⟩) := by
    intro k
    cbv
  have he : crowded.resolve (.ofText "/s/M".toList) = .ok [['s'], ['M']] := by cbv
  have hr : crowded.resolve (.ofText "/l".toList) = .ok [['l']] := by cbv
  have htext : crowded.readText (.ofLocation [['s'], ['M']]) =
      .ok "import './A'; import './B';\n".toList := by cbv
  have hwalk := walkGraph_eq_ok (by decide : _ ≤ usualDepth + 1) he hr htext hinline
  refine ⟨_, congrArg Prod.fst hwalk, ?_⟩
  rw [if_neg (by simp), assemble]
  simp only [banner_eq]
  cbv

/-- **Imports are left that no file has, and imports that lead to a file.** A gap in an import is
shrunk; an entry that imports nothing but itself stays as it is; and the second import on a line
begins the line once the first is erased. -/
theorem flattenGraph_leaves_others :
    (∃ out,
      walkGraph usualDepth leftover (.ofText "/s/M".toList) (.ofText "/l".toList) =
        (.ok out, leftoverWalked) ∧
        ∃ s ∈ Solidity.findImports out,
          ∀ file ∈ [['s'], ['M']] :: leftoverWalked.sections.map Section.file, ∀ text,
            leftover.readText (.ofLocation file) = .ok text → ¬ s <:+: text) ∧
    (∃ out, flattenGraph usualDepth lonely (.ofText "/s/M".toList) (.ofText "/l".toList) = .ok out ∧
      Solidity.findImports out = ["import './M';".toList] ∧
      leadsTo lonely ⟨[['l']], [['s']]⟩ [['s'], ['M']] "./M".toList = .ok (some [['s'], ['M']])) ∧
    ∃ out, flattenGraph usualDepth crowded (.ofText "/s/M".toList) (.ofText "/l".toList) = .ok out ∧
      Solidity.findImports out = ["import './B';".toList] ∧
      leadsTo crowded ⟨[['l']], [['s']]⟩ [['s'], ['M']] "./B".toList =
        .ok (some [['s'], ['B']]) := by
  obtain ⟨out, h, hlonely⟩ := exists_findImports_lonely
  obtain ⟨out', h', hcrowded⟩ := exists_findImports_crowded
  exact ⟨shrunk_import_is_in_no_file, ⟨out, h, hlonely, by cbv⟩, out', h', hcrowded, by cbv⟩

end ContractVerifier.Flatten
