import ContractVerifier.Proofs.Flatten.Remaining
import ContractVerifier.Proofs.Solidity.Headings

set_option autoImplicit false

/-! # One header

Every file that is inlined has header lines of its own, and a source may have only one set of them.
The result begins with those of the entry (`headerBlock`), and behind its first banner no line
begins in the way a header line does: `headers_flattenGraph`, for files that are laid out.

The gaps in a header line are shrunk with all others, and what stands behind a header line on its
line is taken for one when that is erased (`flattenGraph_changes_headers`).
-/

namespace ContractVerifier.Flatten

open Solidity

variable {t : Tree} {roots : Roots}

/-- Header lines, each on a line of its own, with a blank line behind them. -/
def headerBlock (ls : List Text) : Text :=
  if ls = [] then [] else ls.flatMap (· ++ ['\n']) ++ ['\n']

/-- The text of the file at `here` is laid out. -/
def LaidOut (t : Tree) (here : Location) : Prop :=
  ∃ text is ls, t.readText (.ofLocation here) = .ok text ∧ Laid true text is ls

/-! ## Gaps in and between header lines -/

theorem headerless_shrinkFrom {text : Text} (h : Headerless text) (run : Nat) :
    Headerless (shrinkFrom run [] text) := by
  induction text using Text.split_induction '\n' generalizing run with
  | plain w single => rwa [shrinkFrom_line single]
  | piece w text single ih =>
      obtain ⟨hw, htext⟩ := (Headerless.line single).mp h
      cases w with
      | nil =>
          rw [List.nil_append]
          by_cases hrun : run < 2
          · rw [shrinkFrom_newline hrun]
            exact (Headerless.line single).mpr ⟨hw, ih htext (run + 1)⟩
          · rw [shrinkFrom_gap hrun]
            exact ih htext run
      | cons c w =>
          rw [shrinkFrom_line_append (by simp) single, shrinkFrom_newline (by omega)]
          exact (Headerless.line single).mpr ⟨hw, ih htext 1⟩

theorem licence_shrinkGaps {line : Text} (h : Header.Licence line) :
    Header.Licence (shrinkGaps line) := by
  obtain @⟨gap, tail, hgap, hsingle⟩ := h
  rw [shrinkGaps, shrinkFrom_line_append (by simp) (by simp),
    shrinkFrom_append_line (by simp) (by simp), shrinkFrom_line hsingle]
  exact .mk (fun c hc => hgap c (mem_of_mem_shrinkFrom hc)) hsingle

theorem pragma_shrinkGaps {line : Text} (h : Header.Pragma line) :
    Header.Pragma (shrinkGaps line) := by
  obtain @⟨gap, gap', versions, hne, hgap, hne', hgap', hclosed, hstarts⟩ := h
  -- the versions begin with no line feed, so the gap before them is shrunk on its own
  have hversions : shrinkFrom 0 [] (gap' ++ (versions ++ [';'])) =
      shrinkGaps gap' ++ (shrinkGaps versions ++ [';']) := by
    cases versions with
    | nil => exact shrinkFrom_append_cons (by decide) gap' []
    | cons c versions =>
        have hc : c ≠ '\n' := by
          rintro rfl
          exact absurd (hstarts '\n' rfl) (by decide)
        rw [List.cons_append, shrinkFrom_append_cons hc, shrinkFrom_append_cons (by decide),
          shrinkGaps, shrinkGaps, shrinkFrom_cons hc]
        rfl
  have hhead : (shrinkGaps versions).head? = versions.head? := by
    cases versions with
    | nil => rfl
    | cons c versions =>
        rw [shrinkGaps]
        by_cases hc : c = '\n'
        · rw [hc, shrinkFrom_newline (by omega)]
          rfl
        · rw [shrinkFrom_cons hc]
          rfl
  rw [shrinkGaps, shrinkFrom_line_append (by simp) (by simp),
    shrinkFrom_append_line (by simp) (by simp), hversions]
  exact .mk (shrinkGaps_ne_nil hne) (fun c hc => hgap c (mem_of_mem_shrinkFrom hc))
    (shrinkGaps_ne_nil hne') (fun c hc => hgap' c (mem_of_mem_shrinkFrom hc))
    (fun hmem => hclosed (mem_of_mem_shrinkFrom hmem)) (hhead ▸ hstarts)

theorem isLine_shrinkGaps {line : Text} (h : Header.IsLine line) :
    Header.IsLine (shrinkGaps line) := by
  obtain ⟨front, c, hline, hc⟩ := h.trimmed
  have hnewline : c ≠ '\n' := by
    rintro rfl
    exact absurd hc (by decide)
  refine ⟨h.kind.imp licence_shrinkGaps pragma_shrinkGaps, shrinkGaps front, c, ?_, hc⟩
  rw [hline, shrinkGaps, shrinkFrom_append_cons hnewline]
  rfl

/-- A header line parts the text: what stands behind its line is shrunk on its own. -/
theorem shrinkFrom_isLine {line : Text} (h : Header.IsLine line) (run : Nat) (u : Text) :
    shrinkFrom run [] (line ++ '\n' :: u) = shrinkGaps line ++ '\n' :: shrinkFrom 1 [] u := by
  obtain ⟨front, c, hline, hc⟩ := h.trimmed
  have hnewline : c ≠ '\n' := by
    rintro rfl
    exact absurd hc (by decide)
  obtain ⟨d, hd, -, -, hd'⟩ := Header.head?_of_body h.kind []
  rw [List.append_nil] at hd
  have hrun : shrinkFrom run [] line = shrinkGaps line := by
    obtain ⟨r, rfl⟩ := List.head?_eq_some_iff.mp hd
    rw [shrinkGaps, shrinkFrom_cons hd', shrinkFrom_cons hd']
  rw [← hrun, hline, List.append_assoc, List.singleton_append, shrinkFrom_append_cons hnewline,
    shrinkFrom_append_cons hnewline, shrinkFrom_newline (by omega), List.append_assoc]
  rfl

theorem shrinkFrom_lines {ls : List Text} (h : ∀ line ∈ ls, Header.IsLine line) (run : Nat)
    (u : Text) :
    shrinkFrom run [] (ls.flatMap (· ++ ['\n']) ++ u) =
      (ls.map shrinkGaps).flatMap (· ++ ['\n']) ++ shrinkFrom (if ls = [] then run else 1) [] u := by
  induction ls generalizing run with
  | nil => rfl
  | cons line ls ih =>
      rw [List.flatMap_cons, List.append_assoc, List.append_assoc, List.singleton_append,
        shrinkFrom_isLine (h line (by simp)), ih fun l hl => h l (List.mem_cons_of_mem line hl)]
      simp

/-- Shrinking the gaps of a text shrinks those in its header lines and those behind them. -/
theorem shrinkGaps_headerBlock {ls : List Text} (h : ∀ line ∈ ls, Header.IsLine line) (c : Char)
    (hc : c ≠ '\n') (u : Text) :
    shrinkGaps (headerBlock ls ++ c :: u) =
      headerBlock (ls.map shrinkGaps) ++ shrinkGaps (c :: u) := by
  by_cases hls : ls = []
  · subst hls
    rfl
  · have hmap : ls.map shrinkGaps ≠ [] := by simpa using hls
    rw [headerBlock, headerBlock, if_neg hls, if_neg hmap, List.append_assoc, List.append_assoc,
      List.singleton_append, List.singleton_append, shrinkGaps, shrinkFrom_lines h, if_neg hls,
      shrinkFrom_newline (by omega), shrinkGaps, shrinkFrom_cons hc, shrinkFrom_cons hc]

/-! ## The parts of the result -/

/-- Header lines on lines of their own are found. -/
theorem headerReading_lines {ls : List Text} {u : Text} (h : ∀ line ∈ ls, Header.IsLine line)
    (hu : HeaderReading true u []) :
    HeaderReading true (ls.flatMap (· ++ ['\n']) ++ u) ls := by
  induction ls with
  | nil => exact hu
  | cons line ls ih =>
      have hrest := ih fun l hl => h l (List.mem_cons_of_mem line hl)
      rw [List.flatMap_cons, List.append_assoc]
      refine .found ?_ (by simpa using hrest)
      rw [List.append_assoc, List.singleton_append]
      exact (h line (by simp)).recognise _

theorem headerReading_headerBlock {ls : List Text} {u : Text}
    (h : ∀ line ∈ ls, Header.IsLine line) (hu : Headerless u) :
    HeaderReading true (headerBlock ls ++ u) ls := by
  rw [headerBlock]
  split
  · rename_i hls
    subst hls
    exact hu.reading
  · rw [List.append_assoc]
    exact headerReading_lines h (Headerless.reading (Headerless.append_line.mpr ⟨.nil, hu⟩))

/-- What is found is a header line without white space around it. -/
theorem isLine_of_mem_found {text line : Text} (h : line ∈ found Header.recognise text) :
    Header.IsLine line := by
  obtain ⟨raw, t', -, hrec⟩ := exists_of_mem_found h
  obtain ⟨rfl, rest, -, hwritten⟩ := Header.recognise_eq_some_iff.mp hrec
  exact hwritten.isLine

/-- A name without line feeds begins no header line behind its caption. -/
theorem headerless_caption {name : Text} (h : '\n' ∉ name) : Headerless (caption name) := by
  have hsingle : '\n' ∉ caption name := by
    intro hmem
    rcases List.mem_append.mp hmem with hmem | hmem
    · simp at hmem
    · exact h hmem
  exact (Headerless.of_line hsingle).mpr rfl

/-- Cutting white space off the end of header lines takes the last line feed only. -/
theorem stripEnd_lines {ls : List Text} {line : Text} (h : Header.IsLine line) :
    Text.stripEnd ((ls ++ [line]).flatMap (· ++ ['\n'])) ++ ['\n'] =
      (ls ++ [line]).flatMap (· ++ ['\n']) := by
  obtain ⟨front, c, rfl, hc⟩ := h.trimmed
  have htext : (ls ++ [front ++ [c]]).flatMap (· ++ ['\n']) =
      (ls.flatMap (· ++ ['\n']) ++ front) ++ c :: ['\n'] := by simp
  have hend : Text.stripEnd ['\n'] = [] := by decide
  rw [htext, Text.stripEnd_append_cons hc, hend, List.append_assoc]
  rfl

theorem strip_lines_ne_nil {ls : List Text} {line : Text} (h : Header.IsLine line) :
    Text.strip ((ls ++ [line]).flatMap (· ++ ['\n'])) ≠ [] := by
  obtain ⟨front, c, rfl, hc⟩ := h.trimmed
  intro hnil
  obtain ⟨g, hg, hblank⟩ := Text.exists_stripEnd_append
    (((ls ++ [front ++ [c]]).flatMap (· ++ ['\n'])).dropWhile Text.isBlank)
  rw [← Text.strip, hnil, List.nil_append] at hg
  -- all of it would be white space
  have hall : ((ls ++ [front ++ [c]]).flatMap (· ++ ['\n'])).dropWhile Text.isBlank = [] := by
    rw [← List.dropWhile_idempotent, hg]
    exact List.dropWhile_eq_nil_iff.mpr hblank
  have hblank' := List.dropWhile_eq_nil_iff.mp hall c (by simp)
  rw [hc] at hblank'
  cases hblank'

/-- The header lines of a file, as they are rendered, with other parts behind them. -/
theorem join_renderHeader {here : Location} {files : List Text} (hfiles : files ≠ []) :
    Text.join "\n\n".toList (renderHeader t roots here ++ files) =
      headerBlock (found Header.recognise (unlinked t roots here)) ++
        Text.join "\n\n".toList files := by
  have hlines : ∀ line ∈ found Header.recognise (unlinked t roots here), Header.IsLine line :=
    fun line hline => isLine_of_mem_found hline
  obtain ⟨file, files, rfl⟩ := List.exists_cons_of_ne_nil hfiles
  rw [renderHeader]
  generalize found Header.recognise (unlinked t roots here) = ls at hlines
  rcases List.eq_nil_or_concat ls with rfl | ⟨ls, line, rfl⟩
  · rfl
  · rw [List.concat_eq_append] at hlines ⊢
    have hline := hlines line (by simp)
    have hjoin : Text.join "\n\n".toList
        ([Text.stripEnd ((ls ++ [line]).flatMap (· ++ ['\n']))] ++ file :: files) =
          Text.stripEnd ((ls ++ [line]).flatMap (· ++ ['\n'])) ++ ['\n'] ++ ['\n'] ++
            Text.join "\n\n".toList (file :: files) := by
      simp [Text.join, List.intercalate]
    rw [if_neg (strip_lines_ne_nil hline), headerBlock, if_neg (by simp), hjoin,
      stripEnd_lines hline]

/-- Parts that are joined begin as the first of them does. -/
theorem exists_join_eq {p file sep : Text} (h : p <+: file) (files : List Text) :
    ∃ u, Text.join sep (file :: files) = p ++ u := by
  obtain ⟨v, rfl⟩ := h
  cases files with
  | nil => exact ⟨v, by simp [Text.join, List.intercalate]⟩
  | cons q files => exact ⟨v ++ (sep ++ Text.join sep (q :: files)), by
      simp [Text.join, List.intercalate]⟩

theorem isPrefix_renderFile (name : Text) (here : Location) :
    "// File: ".toList <+: renderFile t roots name here := by
  rw [renderFile_eq, caption_eq, List.append_assoc]
  exact ⟨_, rfl⟩

/-- Behind its banner a file that is laid out has no header line. -/
theorem headerless_renderFile {here : Location} {name : Text} (hname : Headerless (caption name))
    (h : LaidOut t here) : Headerless (renderFile t roots name here) := by
  obtain ⟨text, is, ls, htext, hlaid⟩ := h
  have hunlinked : unlinked t roots here =
      eraseFrom Import.recognise (fun i => (target? t roots here i).isSome) true text := by
    simp only [unlinked, htext]
    rfl
  have hbody : Headerless (erase Header.recognise (unlinked t roots here)) := by
    rw [hunlinked]
    exact hlaid.eraseImports.headerReading.headerless_erase
  rw [renderFile_eq]
  exact Headerless.append_line.mpr ⟨hname, Headerless.append_line.mpr ⟨hbody.strip, .nil⟩⟩

/-- Without imports a file that is laid out has the same header lines. -/
theorem found_unlinked {here : Location} {text : Text} {is : List Import} {ls : List Text}
    (htext : t.readText (.ofLocation here) = .ok text) (h : Laid true text is ls) :
    found Header.recognise (unlinked t roots here) = found Header.recognise text := by
  have hunlinked : unlinked t roots here =
      eraseFrom Import.recognise (fun i => (target? t roots here i).isSome) true text := by
    simp only [unlinked, htext]
    rfl
  rw [hunlinked, h.headerReading.found_eq, h.eraseImports.headerReading.found_eq]

/-! ## The result -/

/-- A rendered plan, its header lines and what begins with the first banner apart. -/
theorem exists_render_eq (roots : Roots) {e : Location} {text : Text} {order : List (Text × Location)}
    (htext : t.readText (.ofLocation e) = .ok text)
    (hlaid : ∀ s ∈ order ++ [((e.getLast?).getD [], e)],
      Headerless (caption s.1) ∧ LaidOut t s.2) :
    ∃ rest, render t roots e order =
        headerBlock ((found Header.recognise text).map shrinkGaps) ++ rest ∧
      "// File: ".toList <+: rest ∧ Headerless rest := by
  let files := (order ++ [((e.getLast?).getD [], e)]).map fun s => renderFile t roots s.1 s.2
  have hparts : renderHeader t roots e ++ order.map (fun s => renderFile t roots s.1 s.2) ++
      [renderFile t roots ((e.getLast?).getD []) e] = renderHeader t roots e ++ files := by
    simp [files]
  have hfiles : files ≠ [] := by simp [files]
  have hfound : found Header.recognise (unlinked t roots e) = found Header.recognise text := by
    obtain ⟨-, text', is, ls, htext', h⟩ := hlaid ((e.getLast?).getD [], e) (by simp)
    obtain rfl := Except.ok.inj (htext'.symm.trans htext)
    exact found_unlinked htext h
  have hlines : ∀ line ∈ found Header.recognise text, Header.IsLine line :=
    fun line hline => isLine_of_mem_found hline
  have hheaderless : Headerless (Text.join "\n\n".toList files) := by
    refine Headerless.join fun p hp => ?_
    obtain ⟨s, hs, rfl⟩ := List.mem_map.mp hp
    exact headerless_renderFile (hlaid s hs).1 (hlaid s hs).2
  -- the first of the files begins with its banner
  obtain ⟨u, hu⟩ : ∃ u, Text.join "\n\n".toList files = "// File: ".toList ++ u := by
    obtain ⟨s, parts, hs⟩ := List.exists_cons_of_ne_nil
      (l := order ++ [((e.getLast?).getD [], e)]) (by simp)
    have hfirst : files = renderFile t roots s.1 s.2 ::
        parts.map fun s => renderFile t roots s.1 s.2 := by
      simp only [files, hs, List.map_cons]
    rw [hfirst]
    exact exists_join_eq (isPrefix_renderFile s.1 s.2) _
  refine ⟨shrinkGaps (Text.join "\n\n".toList files), ?_, ?_, headerless_shrinkFrom hheaderless 0⟩
  · obtain ⟨v, hv⟩ : ∃ v, "// File: ".toList ++ u = '/' :: v := ⟨_, rfl⟩
    rw [render, hparts, join_renderHeader hfiles, hfound, hu, hv]
    exact shrinkGaps_headerBlock hlines '/' (by decide) v
  · rw [hu, shrinkGaps, shrinkFrom_line_append (by simp) (by simp)]
    exact ⟨_, rfl⟩

/-- **The result has one header.** If files are inlined and all of them are laid out, then the
result begins with the header lines of the entry, those gaps shrunk that are longer than one blank
line, each on a line of its own. A banner follows, and behind it is no header line: none of an
inlined file is left. -/
theorem headers_flattenGraph {depth : Nat} {entry importRoot : Path} {out : Text}
    (h : flattenGraph depth t entry importRoot = .ok out) :
    ∃ e text, t.resolve entry = .ok e ∧ t.readText (.ofLocation e) = .ok text ∧
      let order := (walkGraph depth t entry importRoot).2.sections.map fun s => (s.spelling, s.file)
      let headers := (found Header.recognise text).map shrinkGaps
      order ≠ [] → (∀ s ∈ order ++ [((e.getLast?).getD [], e)],
        Headerless (caption s.1) ∧ LaidOut t s.2) →
        ∃ rest, out = headerBlock headers ++ rest ∧ found Header.recognise out = headers ∧
          "// File: ".toList <+: rest ∧ found Header.recognise rest = [] := by
  obtain ⟨e, r, text, order, w⟩ := walked_of_flattenGraph h
  refine ⟨e, text, w.entry_eq, w.text_eq, ?_⟩
  simp only [w.order_eq]
  intro horder hlaid
  have hsections : (walkGraph depth t entry importRoot).2.sections ≠ [] := by
    rw [w.sections]
    simpa using horder
  have hout : out = render t ⟨r, e.dropLast⟩ e order := by
    rw [w.out_eq, if_neg hsections, w.sections]
    exact assemble_eq_render e order
  obtain ⟨rest, hrender, hbanner, hheaderless⟩ :=
    exists_render_eq ⟨r, e.dropLast⟩ w.text_eq hlaid
  have hlines : ∀ line ∈ (found Header.recognise text).map shrinkGaps, Header.IsLine line := by
    intro line hline
    obtain ⟨line, hmem, rfl⟩ := List.mem_map.mp hline
    exact isLine_shrinkGaps (isLine_of_mem_found hmem)
  refine ⟨rest, hout.trans hrender, ?_, hbanner, hheaderless.reading.found_eq⟩
  rw [hout, hrender]
  exact (headerReading_headerBlock hlines hheaderless).found_eq

/-- An entry `M` and the file `A` it imports, each with header lines. -/
def headed : Tree := ⟨[
  ([['s']], .directory), ([['l']], .directory),
  ([['s'], ['M']], .file (Utf8.encode "pragma solidity 1;\nimport './A';\ncontract M\n".toList)),
  ([['s'], ['A']], .file (Utf8.encode
    "// SPDX-License-Identifier: X\npragma solidity 2;\nlibrary A\n".toList))]⟩

theorem readText_headed_entry : headed.readText (.ofLocation [['s'], ['M']]) =
    .ok "pragma solidity 1;\nimport './A';\ncontract M\n".toList := by
  cbv

theorem readText_headed_file : headed.readText (.ofLocation [['s'], ['A']]) =
    .ok "// SPDX-License-Identifier: X\npragma solidity 2;\nlibrary A\n".toList := by
  cbv

theorem laidOut_headed_file : LaidOut headed [['s'], ['A']] := by
  have hlicence :
      Header.recognise "// SPDX-License-Identifier: X\npragma solidity 2;\nlibrary A\n".toList =
        some ("// SPDX-License-Identifier: X\n".toList, "// SPDX-License-Identifier: X".toList) := by
    cbv
  have hpragma : Header.recognise "pragma solidity 2;\nlibrary A\n".toList =
      some ("pragma solidity 2;\n".toList, "pragma solidity 2;".toList) := by
    cbv
  have hlibrary : Laid true "library A\n".toList [] [] :=
    .line (w := "library A".toList) (by decide) (by decide) (by decide) .nil
  have hrest := Laid.header_line "pragma solidity 2;".toList (by decide) hpragma (by decide) hlibrary
  exact ⟨_, _, _, readText_headed_file,
    .header_line "// SPDX-License-Identifier: X".toList (by decide) hlicence (by decide) hrest⟩

theorem laidOut_headed_entry : LaidOut headed [['s'], ['M']] := by
  have hpragma : Header.recognise "pragma solidity 1;\nimport './A';\ncontract M\n".toList =
      some ("pragma solidity 1;\n".toList, "pragma solidity 1;".toList) := by
    cbv
  have himport : Import.recognise "import './A';".toList =
      some ("import './A';".toList, ⟨"import './A';".toList, "./A".toList⟩) := by cbv
  obtain ⟨-, -, hwritten⟩ := Import.recognise_eq_some_iff.mp himport
  have hcontract : Laid false "\ncontract M\n".toList [] [] :=
    .line (w := []) (by decide) (by decide) (by decide)
      (.line (w := "contract M".toList) (by decide) (by decide) (by decide) .nil)
  have hrest := Laid.statement hwritten ((Headerless.of_line (by decide)).mpr (by decide)) hcontract
  exact ⟨_, _, _, readText_headed_entry,
    .header_line "pragma solidity 1;".toList (by decide) hpragma (by decide) hrest⟩

/-- Where the walk of `headed` ends. -/
def headedWalked : Progress :=
  ⟨[[['s'], ['M']], [['s'], ['A']]], [[['s'], ['M']], [['s'], ['A']]],
    [⟨[['s'], ['A']], "./A".toList, "library A\n".toList⟩]⟩

theorem exists_walkGraph_headed : ∃ out,
    walkGraph usualDepth headed (.ofText "/s/M".toList) (.ofText "/l".toList) =
      (.ok out, headedWalked) := by
  have hinline : ∀ k, inline headed ⟨[['l']], [['s']]⟩ (k + 3) [['s'], ['M']]
      "pragma solidity 1;\nimport './A';\ncontract M\n".toList
      ⟨[[['s'], ['M']]], [[['s'], ['M']]], []⟩ =
        (.ok "pragma solidity 1;\n\ncontract M\n".toList, headedWalked) := by
    intro k
    cbv
  exact ⟨_, walkGraph_eq_ok (by decide) (by cbv) (by cbv) readText_headed_entry
    hinline⟩

/-- Only the header line of the entry is left. -/
theorem headers_headed : ∃ out,
    flattenGraph usualDepth headed (.ofText "/s/M".toList) (.ofText "/l".toList) = .ok out ∧
      ∃ rest, out = "pragma solidity 1;\n\n".toList ++ rest ∧ "// File: ".toList <+: rest ∧
        found Header.recognise rest = [] := by
  obtain ⟨out, hout⟩ := exists_walkGraph_headed
  have h : flattenGraph usualDepth headed (.ofText "/s/M".toList) (.ofText "/l".toList) = .ok out :=
    congrArg Prod.fst hout
  have hentry : headed.resolve (.ofText "/s/M".toList) = .ok [['s'], ['M']] := by cbv
  obtain ⟨e, text, he, htext, hheaders⟩ := headers_flattenGraph h
  obtain rfl : e = [['s'], ['M']] := Except.ok.inj (he.symm.trans hentry)
  obtain rfl := Except.ok.inj (htext.symm.trans readText_headed_entry)
  rw [hout] at hheaders
  obtain ⟨rest, hrest, -, hbanner, hnone⟩ := hheaders (by simp [headedWalked]) (by
    intro s hs
    rcases List.mem_cons.mp hs with rfl | hs
    · exact ⟨headerless_caption (by decide), laidOut_headed_file⟩
    · obtain rfl := List.mem_singleton.mp hs
      exact ⟨headerless_caption (by decide), laidOut_headed_entry⟩)
  have hblock : headerBlock ((found Header.recognise
      "pragma solidity 1;\nimport './A';\ncontract M\n".toList).map shrinkGaps) =
        "pragma solidity 1;\n\n".toList := by cbv
  rw [hblock] at hrest
  exact ⟨out, h, rest, hrest, hbanner, hnone⟩

/-! ## Header lines that change -/

/-- An entry `M` with a pragma that has blank lines in it. -/
def wide : Tree := ⟨[
  ([['s']], .directory), ([['l']], .directory),
  ([['s'], ['M']], .file (Utf8.encode "pragma solidity\n\n\n1;\nimport './A';\n".toList)),
  ([['s'], ['A']], .file (Utf8.encode "library A".toList))]⟩

/-- A file `A` with two pragmas on one line. -/
def doubled : Tree := ⟨[
  ([['s']], .directory), ([['l']], .directory),
  ([['s'], ['M']], .file (Utf8.encode "import './A';\n".toList)),
  ([['s'], ['A']], .file (Utf8.encode "pragma solidity 1; pragma solidity 2;\nlibrary A".toList))]⟩

theorem readText_wide : wide.readText (.ofLocation [['s'], ['M']]) =
    .ok "pragma solidity\n\n\n1;\nimport './A';\n".toList := by
  cbv

theorem readText_doubled :
    doubled.readText (.ofLocation [['s'], ['M']]) = .ok "import './A';\n".toList := by
  cbv

theorem exists_found_wide : ∃ out,
    flattenGraph usualDepth wide (.ofText "/s/M".toList) (.ofText "/l".toList) =
        .ok out ∧
      found Header.recognise out = ["pragma solidity\n\n1;".toList] := by
  have hinline : ∀ k, inline wide ⟨[['l']], [['s']]⟩ (k + 3) [['s'], ['M']]
      "pragma solidity\n\n\n1;\nimport './A';\n".toList ⟨[[['s'], ['M']]], [[['s'], ['M']]], []⟩ =
      (.ok "pragma solidity\n\n\n1;\n\n".toList, ⟨[[['s'], ['M']], [['s'], ['A']]],
        [[['s'], ['M']], [['s'], ['A']]],
        [⟨[['s'], ['A']], "./A".toList, "library A".toList⟩]⟩) := by
    intro k
    cbv
  have he : wide.resolve (.ofText "/s/M".toList) = .ok [['s'], ['M']] := by cbv
  have hr : wide.resolve (.ofText "/l".toList) = .ok [['l']] := by cbv
  have hwalk := walkGraph_eq_ok (by decide : _ ≤ usualDepth + 1) he hr readText_wide hinline
  refine ⟨_, congrArg Prod.fst hwalk, ?_⟩
  rw [if_neg (by simp), assemble]
  simp only [banner_eq]
  cbv

theorem exists_found_doubled : ∃ out,
    flattenGraph usualDepth doubled (.ofText "/s/M".toList) (.ofText "/l".toList) = .ok out ∧
      found Header.recognise out = ["pragma solidity 2;".toList] := by
  have hinline : ∀ k, inline doubled ⟨[['l']], [['s']]⟩ (k + 3) [['s'], ['M']]
      "import './A';\n".toList ⟨[[['s'], ['M']]], [[['s'], ['M']]], []⟩ =
      (.ok ['\n'], ⟨[[['s'], ['M']], [['s'], ['A']]], [[['s'], ['M']], [['s'], ['A']]],
        [⟨[['s'], ['A']], "./A".toList, "pragma solidity 2;\nlibrary A".toList⟩]⟩) := by
    intro k
    cbv
  have he : doubled.resolve (.ofText "/s/M".toList) = .ok [['s'], ['M']] := by cbv
  have hr : doubled.resolve (.ofText "/l".toList) = .ok [['l']] := by cbv
  have hwalk := walkGraph_eq_ok (by decide : _ ≤ usualDepth + 1) he hr readText_doubled hinline
  refine ⟨_, congrArg Prod.fst hwalk, ?_⟩
  rw [if_neg (by simp), assemble]
  simp only [banner_eq]
  cbv

/-- **The header lines of the result are not always those of the entry.** Blank lines in a pragma
go as all others do, and the second pragma on a line of an inlined file is left where the first is
erased. -/
theorem flattenGraph_changes_headers :
    (∃ out text, flattenGraph usualDepth wide (.ofText "/s/M".toList) (.ofText "/l".toList) =
        .ok out ∧
      wide.readText (.ofLocation [['s'], ['M']]) = .ok text ∧
        found Header.recognise out ≠ found Header.recognise text) ∧
    ∃ out text, flattenGraph usualDepth doubled (.ofText "/s/M".toList) (.ofText "/l".toList) =
        .ok out ∧
      doubled.readText (.ofLocation [['s'], ['M']]) = .ok text ∧
        found Header.recognise text = [] ∧
          found Header.recognise out = ["pragma solidity 2;".toList] := by
  obtain ⟨out, h, hwide⟩ := exists_found_wide
  obtain ⟨out', h', hdoubled⟩ := exists_found_doubled
  have htext : found Header.recognise "pragma solidity\n\n\n1;\nimport './A';\n".toList =
      ["pragma solidity\n\n\n1;".toList] := by cbv
  refine ⟨⟨out, _, h, readText_wide, ?_⟩, out', _, h', readText_doubled, by cbv, hdoubled⟩
  rw [hwide, htext]
  decide

end ContractVerifier.Flatten
