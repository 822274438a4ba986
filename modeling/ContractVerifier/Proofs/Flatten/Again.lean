import ContractVerifier.Proofs.Flatten.Characters
import ContractVerifier.Proofs.Flatten.Given
import ContractVerifier.Proofs.Flatten.Staging
import ContractVerifier.Proofs.Registry.InPlace

set_option autoImplicit false

/-! # Flattening again

A flattened source can be flattened again. The second call stages it in a directory of its own, so
the imports that are left are looked up anew from there, also those of the files that were inlined.

If none of them leads to another file (`OutOfReach`), the second call changes nothing:
`flatten_flatten`. Which imports are left, and how they are written, is known from the first call:
`Succeeds.outOfReach` says what it takes for them to stay out of reach. An import of a library can
come into reach, and then flattening is not idempotent (`flatten_not_idempotent`).
-/

namespace ContractVerifier

namespace Flatten

open Solidity

variable {depth : Nat} {t t₁ t₂ : Tree} {roots : Roots} {entry importRoot : Path} {out : Text}
  {e r : Location}

/-! ## A file that imports nothing but itself -/

/-- Such a file is given back as it is read. -/
theorem readText_of_lonely (h : flattenGraph depth t entry importRoot = .ok out)
    (he : t.resolve entry = .ok e) (hr : t.resolve importRoot = .ok r)
    (hself : ∀ b, Imports t ⟨r, e.dropLast⟩ e b → b = e) :
    t.readText (.ofLocation e) = .ok out := by
  obtain ⟨e', r', text, order, w⟩ := walked_of_flattenGraph h
  obtain rfl : e' = e := Except.ok.inj (w.entry_eq.symm.trans he)
  obtain rfl : r' = r := Except.ok.inj (w.root_eq.symm.trans hr)
  have hreach : ∀ b, Reaches t ⟨r', e'.dropLast⟩ e' b → b = e' := by
    intro b hb
    induction hb with
    | refl => rfl
    | tail _ himports ih =>
        rw [ih] at himports
        exact hself _ himports
  have hsections : (walkGraph depth t entry importRoot).2.sections = [] := by
    rw [List.eq_nil_iff_forall_not_mem]
    intro s hs
    obtain ⟨hne, hreaches⟩ := (w.mem_files_iff s.file).mp (List.mem_map_of_mem hs)
    exact hne (hreach _ hreaches)
  rw [w.out_eq, if_pos hsections]
  exact w.text_eq

/-- Where an import leads does not depend on what is written in files. -/
theorem leadsTo_eq_of_sameNodes (h : Tree.SameNodes t₁ t₂) (here : Location) (path : Text) :
    leadsTo t₁ roots here path = leadsTo t₂ roots here path := by
  simp only [leadsTo, h.toSameSkeleton.resolve_eq, h.isFile_eq]

/-! ## Imports of the result -/

/-- The files of a plan are orderly, and the imports that stay lead to no other file than the entry
once they stand in it and their gaps are shrunk. -/
structure StaysFlat (t : Tree) (roots : Roots) (e : Location) (order : List (Text × Location)) :
    Prop where
  orderly : ∀ s ∈ order ++ [((e.getLast?).getD [], e)], Orderly t roots s.2 ∧ Quiet (caption s.1)
  staying : ∀ s ∈ order ++ [((e.getLast?).getD [], e)], ∀ i ∈ staying t roots s.2, ∀ b,
    leadsTo t roots e (shrinkGaps i.path) = .ok (some b) → b = e

/-- From the entry the imports of the result lead to no other file. -/
theorem eq_of_leadsTo (h : flattenGraph depth t entry importRoot = .ok out)
    (he : t.resolve entry = .ok e) (hr : t.resolve importRoot = .ok r)
    (hstays :
      let order := (walkGraph depth t entry importRoot).2.sections.map fun s => (s.spelling, s.file)
      order ≠ [] → StaysFlat t ⟨r, e.dropLast⟩ e order)
    {i : Import} (hi : i ∈ imports out) {b : Location}
    (hlead : leadsTo t ⟨r, e.dropLast⟩ e i.path = .ok (some b)) : b = e := by
  obtain ⟨e', r', order, he', hr', -, -, horder, hsame, hrender, -⟩ := flattenGraph_eq_render h
  obtain rfl : e' = e := Except.ok.inj (he'.symm.trans he)
  obtain rfl : r' = r := Except.ok.inj (hr'.symm.trans hr)
  simp only [horder] at hstays
  by_cases hnil : order = []
  · obtain ⟨e, r, he, hr, hparts, -, -⟩ := findImports_flattenGraph h
    obtain rfl : e' = e := Except.ok.inj (he'.symm.trans he)
    obtain rfl : r' = r := Except.ok.inj (hr'.symm.trans hr)
    simp only [horder, hnil, List.nil_append, List.mem_singleton, exists_eq_left] at hparts
    obtain ⟨text, htext, hleads⟩ := hparts _ rfl
    obtain rfl : text = out := Except.ok.inj (htext.symm.trans (hsame hnil))
    rcases hleads i hi with ⟨-, hnone⟩ | ⟨-, hself⟩
    · cases hlead.symm.trans hnone
    · exact Option.some.inj (Except.ok.inj (hlead.symm.trans hself))
  · have h := hstays hnil
    rw [hrender hnil, imports_render h.orderly] at hi
    obtain ⟨s, hs, hi⟩ := List.mem_flatMap.mp hi
    obtain ⟨j, hj, rfl⟩ := List.mem_map.mp hi
    exact h.staying s hs j hj b hlead

end Flatten

namespace Flattener

open Flatten Solidity

variable {depth : Nat} {f : Flattener} {sys sys' : System} {t : Tree}
  {source again : ContractSource} {contractName text out : Text}

/-! ## A text whose imports stay out of reach -/

/-- From where the text is staged, no import of it leads to another file. -/
def OutOfReach (f : Flattener) (sys : System) (t : Tree) (contractName text : Text) : Prop :=
  ∀ directory file staged e r,
    f.stage sys.scratch t text contractName = .ok (directory, file, staged) →
    staged.resolve file = .ok e → staged.resolve (.ofLocation f.importRoot) = .ok r →
      ∀ i ∈ imports text, ∀ b, leadsTo staged ⟨r, e.dropLast⟩ e i.path = .ok (some b) → b = e

/-- The text that the import graph answers with. -/
theorem flattenGraph_of_answers (hbackend : f.backend = .importGraph depth)
    (h : f.Answers sys t source contractName (.ok (.text out))) :
    ∃ directory file staged,
      f.stage sys.scratch t source.text contractName = .ok (directory, file, staged) ∧
        flattenGraph depth staged file (.ofLocation f.importRoot) = .ok out := by
  obtain ⟨directory, file, staged, hstage, hanswer⟩ := h
  refine ⟨directory, file, staged, hstage, ?_⟩
  rw [hbackend] at hanswer
  simp only [Backend.flatten] at hanswer
  cases hgraph : flattenGraph depth staged file (.ofLocation f.importRoot) with
  | error x =>
      rw [hgraph] at hanswer
      cases hanswer
  | ok out' =>
      rw [hgraph] at hanswer
      cases hanswer
      rfl

/-- The import graph gives such a text back. -/
theorem Answers.eq_text (hbackend : f.backend = .importGraph depth)
    (h : f.Answers sys t source contractName (.ok (.text out)))
    (hreach : f.OutOfReach sys t contractName source.text) (hreturn : '\r' ∉ source.text) :
    out = source.text := by
  obtain ⟨directory, file, staged, hstage, hgraph⟩ := flattenGraph_of_answers hbackend h
  obtain ⟨e, r, _, _, w⟩ := walked_of_flattenGraph hgraph
  have hread : ∀ text, staged.readText (.ofLocation e) = .ok text → text = source.text := by
    intro text htext
    rw [readText_of_stage hstage w.entry_eq htext, Text.unifyNewlines_of_no_return hreturn]
  refine hread out (readText_of_lonely hgraph w.entry_eq w.root_eq ?_)
  rintro b ⟨text, i, htext, hi, hlead⟩
  rw [hread text htext] at hi
  exact hreach _ _ _ _ _ hstage w.entry_eq w.root_eq i hi b hlead

/-! ## The second call -/

/-- What a call makes that succeeds has no registered statements left and no carriage returns. -/
theorem Succeeds.settled (hbackend : f.backend = .importGraph depth)
    (hregistry : f.registry = .builtIn) (ht : t.Rooted)
    (hapart : ∀ out, f.Answers sys t source contractName (.ok (.text out)) → f.registry.Apart out)
    (h : f.Succeeds sys t source contractName text) :
    (∀ s ∈ f.registry.statements, ¬ s <:+: text) ∧ '\r' ∉ text := by
  obtain ⟨out, hanswers, hsubstitute⟩ := h
  have hout := hapart out hanswers
  obtain ⟨directory, file, staged, hstage, hgraph⟩ := flattenGraph_of_answers hbackend hanswers
  obtain ⟨e, _, _, _, w⟩ := walked_of_flattenGraph hgraph
  have hreturn : '\r' ∉ out := return_not_mem_of_flattenGraph hgraph w.entry_eq
    fun _ => return_not_mem_of_stage ht hstage w.entry_eq
  rw [hregistry] at hsubstitute hout ⊢
  obtain ⟨result, hresult, hnone, hkeeps⟩ := Registry.substitute_builtIn hout
  obtain rfl : result = text := Except.ok.inj (hresult.symm.trans hsubstitute)
  exact ⟨hnone, hkeeps hreturn⟩

/-- A call that succeeds makes of a settled text whose imports stay out of reach the same text. -/
theorem Succeeds.eq_text (hbackend : f.backend = .importGraph depth)
    (hsettled : (∀ s ∈ f.registry.statements, ¬ s <:+: source.text) ∧ '\r' ∉ source.text)
    (hreach : f.OutOfReach sys t contractName source.text)
    (h : f.Succeeds sys t source contractName text) : text = source.text := by
  obtain ⟨out, hanswers, hsubstitute⟩ := h
  rw [hanswers.eq_text hbackend hreach hsettled.2,
    Registry.substitute_of_none hsettled.1] at hsubstitute
  exact (Except.ok.inj hsubstitute).symm

/-- **Flattening is idempotent where the imports that are left stay out of reach.** Take a flattener
with the import graph and the built-in registry, and a call that succeeds, where in what the graph
answers the registry's statements are apart. If no import of the text it gave leads to another file
from where this text is staged next, then flattening a source with it, under the same name and in the
same tree, gives that source again. The two calls may name their directories differently. -/
theorem flatten_flatten (hbackend : f.backend = .importGraph depth)
    (hregistry : f.registry = .builtIn) (ht : t.Rooted) {result : FlattenResult}
    (hresult : (f.flatten sys t source contractName).result = .ok result)
    (hsuccess : result.error? = none) (hagain : again.text = result.source.text)
    (hapart : imports source.text ≠ [] → ∀ out,
      f.Answers sys t source contractName (.ok (.text out)) → f.registry.Apart out)
    (hreach : f.OutOfReach sys' t contractName again.text) :
    ∃ result', (f.flatten sys' t again contractName).result = .ok result' ∧
      result'.source = again := by
  have hgives : ∀ run, f.backend.GivesTexts run := by
    intro run
    rw [hbackend]
    exact Backend.givesTexts_importGraph depth run
  by_cases hno : imports again.text = []
  · rw [flatten_of_no_imports f sys' t contractName hno]
    exact ⟨_, rfl, rfl⟩
  · rcases flatten_of_imports t again contractName (hgives sys'.run) hno with
      ⟨fault, -, -, hfailed⟩ | ⟨text', hsucceeds', hresult'⟩
    · exact ⟨_, hfailed, rfl⟩
    · refine ⟨_, hresult', ?_⟩
      by_cases hnone : imports source.text = []
      · -- the source was left alone, so it has no imports in the second call either
        rw [flatten_of_no_imports f sys t contractName hnone] at hresult
        obtain rfl := Except.ok.inj hresult
        rw [hagain] at hno
        exact absurd hnone hno
      · rcases flatten_of_imports t source contractName (hgives sys.run) hnone with
          ⟨fault, -, -, hfailed⟩ | ⟨text, hsucceeds, hflattened⟩
        · obtain rfl := Except.ok.inj (hfailed.symm.trans hresult)
          cases hsuccess
        · obtain rfl := Except.ok.inj (hflattened.symm.trans hresult)
          obtain rfl : again.text = text := hagain
          have hsettled := hsucceeds.settled hbackend hregistry ht (hapart hnone)
          rw [hsucceeds'.eq_text hbackend hsettled hreach]
          rfl

/-! ## When the imports that are left stay out of reach -/

/-- What is asked of a call so that its result stays when it is staged in the same place. If files
are inlined, they are orderly, and the imports that are left stay out of reach. If registered
statements are in the backend's text, they are in place. -/
def StaysFlat (f : Flattener) (sys : System) (t : Tree) (source : ContractSource)
    (contractName : Text) : Prop :=
  ∀ depth directory file staged out e r, f.backend = .importGraph depth →
    f.stage sys.scratch t source.text contractName = .ok (directory, file, staged) →
    flattenGraph depth staged file (.ofLocation f.importRoot) = .ok out →
    staged.resolve file = .ok e → staged.resolve (.ofLocation f.importRoot) = .ok r →
      let order := (walkGraph depth staged file (.ofLocation f.importRoot)).2.sections.map
        fun s => (s.spelling, s.file)
      (order ≠ [] → Flatten.StaysFlat staged ⟨r, e.dropLast⟩ e order) ∧
        ((∃ s ∈ f.registry.statements, s <:+: out) → f.registry.InPlace out)

/-- Statements that are in place are apart. -/
theorem StaysFlat.apart (h : f.StaysFlat sys t source contractName)
    (hbackend : f.backend = .importGraph depth)
    (hanswers : f.Answers sys t source contractName (.ok (.text out))) : f.registry.Apart out := by
  obtain ⟨directory, file, staged, hstage, hgraph⟩ := flattenGraph_of_answers hbackend hanswers
  obtain ⟨e, r, _, _, w⟩ := walked_of_flattenGraph hgraph
  obtain ⟨-, hplace⟩ := h _ _ _ _ _ _ _ hbackend hstage hgraph w.entry_eq w.root_eq
  by_cases hin : ∃ s ∈ f.registry.statements, s <:+: out
  · exact (hplace hin).apart
  · exact Registry.apart_of_none fun s hs hs' => hin ⟨s, hs, hs'⟩

/-- **The imports of the text stay out of reach** if those that the call left do. The registry brings
none in. -/
theorem Succeeds.outOfReach (hbackend : f.backend = .importGraph depth)
    (hregistry : f.registry = .builtIn) (hstays : f.StaysFlat sys t source contractName)
    (h : f.Succeeds sys t source contractName text) : f.OutOfReach sys t contractName text := by
  obtain ⟨out, hanswers, hsubstitute⟩ := h
  obtain ⟨directory, file, staged, hstage, hgraph⟩ := flattenGraph_of_answers hbackend hanswers
  intro directory' file' staged' e r hstage' he hr i hi b hlead
  -- both are staged in the same file, and the trees have the same entries
  obtain ⟨t', l, hl, hends, -, hstages⟩ := exists_stage_eq hstage
  obtain ⟨-, rfl⟩ := hstages _ _ _ _ hstage
  obtain ⟨rfl, rfl⟩ := hstages _ _ _ _ hstage'
  have hsame : Tree.SameNodes (t'.set l (.file (Utf8.encode source.text)))
      (t'.set l (.file (Utf8.encode text))) := Tree.sameNodes_set hl hends
  rw [← hsame.toSameSkeleton.resolve_eq] at he hr
  rw [← leadsTo_eq_of_sameNodes hsame] at hlead
  obtain ⟨hflat, hplace⟩ := hstays _ _ _ _ _ _ _ hbackend hstage hgraph he hr
  rw [hregistry] at hsubstitute hplace
  have himports := Registry.imports_substitute_builtIn hplace hsubstitute
  exact eq_of_leadsTo hgraph he hr hflat (himports.subset hi) hlead

/-! ## A source that is flattened to the end, and one that is not -/

/-- A flattener with libraries in `/l`. -/
def onGraph : Flattener where
  backend := .importGraph
  registry := .builtIn
  importRoot := [['l']]
  scratchDir := none

/-- A tree with the library files `A` and, further down, `C`. -/
def shelfOf (a c : List UInt8) : Tree := ⟨[
  ([['t']], .directory), ([['l']], .directory), ([['l'], ['d']], .directory),
  ([['l'], ['d'], ['e']], .directory), ([['l'], ['A']], .file a),
  ([['l'], ['d'], ['e'], ['C']], .file c)]⟩

/-- The import of `C` leads nowhere from where `C` is. -/
def shelf : Tree := shelfOf (Utf8.encode "contract A {}".toList)
  (Utf8.encode "import '../../l/A';\ncontract C {}".toList)

/-- The path of the staged file. -/
def stagedPath : Path := stagedFile (.ofText "/t/flatten-Contract-0".toList) "Contract".toList

/-- The location of the staged file. -/
def stagedPlace : Location := [['t'], "flatten-Contract-0".toList, "Contract.sol".toList]

/-- The tree with a source that is staged. -/
def shelfWith (text : Text) : Tree :=
  (shelf.set stagedPlace.dropLast .directory).set stagedPlace (.file (Utf8.encode text))

theorem stage_shelfOf (a c : List UInt8) (h : Unencodable.find? .utf8 text = none) :
    onGraph.stage plainSystem.scratch (shelfOf a c) text [] =
      .ok (.ofText "/t/flatten-Contract-0".toList, stagedPath,
        ((shelfOf a c).set stagedPlace.dropLast .directory).set stagedPlace
          (.file (Utf8.encode text))) := by
  have hsafe : safeName [] = "Contract".toList := rfl
  have hopen : openScratch none (shelfOf a c) = .ok (shelfOf a c) := rfl
  have hcreate : createDirectory (plainSystem.scratch.directory none) "Contract".toList
      (shelfOf a c) plainSystem.scratch.endings =
        .ok (.ofText "/t/flatten-Contract-0".toList,
          (shelfOf a c).set stagedPlace.dropLast .directory) := by
    cbv
  have hwrite : ∀ bytes, ((shelfOf a c).set stagedPlace.dropLast .directory).writeFile
      stagedPath bytes =
        .ok (((shelfOf a c).set stagedPlace.dropLast .directory).set stagedPlace
          (.file bytes)) := by
    intro bytes
    cbv
  rw [stagedPath] at hwrite ⊢
  have hscratch : onGraph.scratchDir = none := rfl
  rw [stage]
  simp only [hsafe, hscratch, hopen, hcreate, writeSource, hwrite, h]

theorem stage_shelf (h : Unencodable.find? .utf8 text = none) :
    onGraph.stage plainSystem.scratch shelf text [] =
      .ok (.ofText "/t/flatten-Contract-0".toList, stagedPath, shelfWith text) :=
  stage_shelfOf _ _ h

theorem resolve_shelf (text : Text) : (shelfWith text).resolve stagedPath = .ok stagedPlace := by
  cbv

theorem resolve_shelf_root (text : Text) :
    (shelfWith text).resolve (.ofLocation onGraph.importRoot) = .ok [['l']] := by
  have hroot : onGraph.importRoot = [['l']] := rfl
  rw [hroot]
  cbv

theorem readText_shelf (h : '\r' ∉ text) :
    (shelfWith text).readText (.ofLocation stagedPlace) = .ok text := by
  have hfind : (shelfWith text).find (.ofLocation stagedPlace) =
      .ok (stagedPlace, .file (Utf8.encode text)) := by cbv
  rw [Tree.readText, Tree.readBytes, hfind]
  simp only [Utf8.decode_encode, Text.unifyNewlines_of_no_return h]

/-- A walk from the staged file, as far as it depends on the text. -/
theorem walkGraph_shelf {body : Text} {p : Progress} (h : '\r' ∉ text) (hs : p.sections ≠ [])
    (hinline : ∀ k, inline (shelfWith text) ⟨[['l']], stagedPlace.dropLast⟩ (k + 3) stagedPlace text
      ⟨[stagedPlace], [stagedPlace], []⟩ = (.ok body, p)) :
    walkGraph usualDepth (shelfWith text) stagedPath (.ofLocation onGraph.importRoot) =
      (.ok (assemble "Contract.sol".toList body p.sections), p) := by
  rw [walkGraph_eq_ok (by decide) (resolve_shelf text)
    (resolve_shelf_root text) (readText_shelf h) hinline, if_neg hs]
  rfl

theorem rooted_shelf : shelf.Rooted := by
  refine Tree.rooted_of_entries ?_
  decide

theorem succeeds_onGraph (hbytes : Unencodable.find? .utf8 source.text = none)
    (hgraph : flattenGraph usualDepth (shelfWith source.text) stagedPath
      (.ofLocation onGraph.importRoot) = .ok out)
    (hsubstitute : Registry.builtIn.substitute out = .ok text) :
    onGraph.Succeeds plainSystem shelf source [] text := by
  refine ⟨out, ⟨_, _, _, stage_shelf hbytes, ?_⟩, hsubstitute⟩
  rw [onGraph, Backend.flatten]
  rw [onGraph] at hgraph
  simp only [hgraph]
  rfl

theorem result_onGraph (himports : imports source.text ≠ [])
    (h : onGraph.Succeeds plainSystem shelf source [] text) :
    (onGraph.flatten plainSystem shelf source []).result =
      .ok (.flattened (source.withText text) (findImports text)) := by
  obtain ⟨out, hanswers, hsubstitute⟩ := h
  rw [result_of_answers himports hanswers, hsubstitute]

/-! ### All imports that are left stay out of reach -/

/-- A source that imports `A` and what the registry knows. -/
def near : ContractSource where
  text := "import 'A';\nimport {Context} from \"../utils/Context.sol\";\ncontract M {}\n".toList

theorem return_not_mem_near : '\r' ∉ near.text := by
  unfold near
  simp

/-- The import that is left of it. -/
def nearStays : Import :=
  ⟨"import {Context} from \"../utils/Context.sol\";".toList, "../utils/Context.sol".toList⟩

/-- The backend's text for it. -/
def nearOut : Text :=
  "// File: A\ncontract A {}\n\n// File: Contract.sol\n".toList ++ nearStays.statement ++
    "\ncontract M {}\n".toList

/-- Where the walk ends. -/
def nearWalked : Progress :=
  ⟨[stagedPlace, [['l'], ['A']]], [stagedPlace, [['l'], ['A']]],
    [⟨[['l'], ['A']], ['A'], "contract A {}".toList⟩]⟩

/-- The parts of the text. -/
def nearParts : List (Text × Location) :=
  [(['A'], [['l'], ['A']]), ("Contract.sol".toList, stagedPlace)]

theorem exists_walked_near : ∃ order,
    walkGraph usualDepth (shelfWith near.text) stagedPath (.ofLocation onGraph.importRoot) =
      (.ok nearOut, nearWalked) ∧
    Walked (shelfWith near.text) stagedPath (.ofLocation onGraph.importRoot) nearOut nearWalked
      stagedPlace [['l']] near.text order := by
  have hinline : ∀ k, inline (shelfWith near.text) ⟨[['l']], stagedPlace.dropLast⟩ (k + 3)
      stagedPlace near.text ⟨[stagedPlace], [stagedPlace], []⟩ =
      (.ok ('\n' :: nearStays.statement ++ "\ncontract M {}\n".toList), nearWalked) := by
    intro k
    cbv
  have hwalk := walkGraph_shelf return_not_mem_near (by simp [nearWalked]) hinline
  have hout : assemble "Contract.sol".toList
      ('\n' :: nearStays.statement ++ "\ncontract M {}\n".toList) nearWalked.sections = nearOut := by
    rw [assemble]
    simp only [banner_eq]
    cbv
  rw [hout] at hwalk
  obtain ⟨order, w⟩ := exists_walked hwalk (resolve_shelf near.text)
    (resolve_shelf_root near.text) (readText_shelf return_not_mem_near)
  exact ⟨order, hwalk, w⟩

theorem orderly_near :
    Orderly (shelfWith near.text) ⟨[['l']], stagedPlace.dropLast⟩ stagedPlace := by
  have hpieces : pieces Import.recognise near.text =
      [.found "import 'A';".toList ⟨"import 'A';".toList, ['A']⟩, .plain ['\n'],
        .found nearStays.statement nearStays, .plain ['\n'],
        .plain "contract M {}\n".toList] := by cbv
  have hunlinked : unlinked (shelfWith near.text) ⟨[['l']], stagedPlace.dropLast⟩ stagedPlace =
      '\n' :: nearStays.statement ++ "\ncontract M {}\n".toList := by cbv
  refine ⟨fun text htext l hl => ?_, ?_⟩
  · obtain rfl := Except.ok.inj (htext.symm.trans (readText_shelf return_not_mem_near))
    rw [hpieces] at hl
    obtain rfl | rfl : l = ['\n'] ∨ l = "contract M {}\n".toList := by simpa using hl
    · decide
    · decide
  · rw [hunlinked]
    have hheaders : pieces Header.recognise
        ('\n' :: nearStays.statement ++ "\ncontract M {}\n".toList) =
          [['\n'], nearStays.statement ++ ['\n'], "contract M {}\n".toList].map .plain := by cbv
    refine headersApart_of_pieces hheaders fun i hi => ?_
    have himports : imports ('\n' :: nearStays.statement ++ "\ncontract M {}\n".toList) =
        [nearStays] := by cbv
    rw [himports] at hi
    obtain rfl := List.mem_singleton.mp hi
    cbv

theorem orderly_shelf :
    Orderly (shelfWith near.text) ⟨[['l']], stagedPlace.dropLast⟩ [['l'], ['A']] := by
  have htext : (shelfWith near.text).readText (.ofLocation [['l'], ['A']]) =
      .ok "contract A {}".toList := by cbv
  have hpieces : pieces Import.recognise "contract A {}".toList =
      [.plain "contract A {}".toList] := by cbv
  have hunlinked : unlinked (shelfWith near.text) ⟨[['l']], stagedPlace.dropLast⟩
      [['l'], ['A']] = "contract A {}".toList := by cbv
  refine ⟨fun text htext' l hl => ?_, ?_⟩
  · obtain rfl := Except.ok.inj (htext'.symm.trans htext)
    rw [hpieces] at hl
    obtain rfl : l = "contract A {}".toList := by simpa using hl
    decide
  · rw [hunlinked]
    have hheaders : pieces Header.recognise "contract A {}".toList =
        ["contract A {}".toList].map .plain := by cbv
    refine headersApart_of_pieces hheaders fun i hi => ?_
    have himports : imports "contract A {}".toList = [] := by cbv
    rw [himports] at hi
    cases hi

theorem staying_near : nearParts.flatMap
    (fun s => staying (shelfWith near.text) ⟨[['l']], stagedPlace.dropLast⟩ s.2) =
      [nearStays] := by
  cbv

theorem inPlace_near : Registry.builtIn.InPlace nearOut := by
  have hpieces : pieces Import.recognise nearOut =
      [.plain "// File: A\n".toList, .plain "contract A {}\n".toList, .plain ['\n'],
        .plain "// File: Contract.sol\n".toList, .found nearStays.statement nearStays,
        .plain ['\n'], .plain "contract M {}\n".toList] := by cbv
  have hplain : ∀ l, .plain l ∈ pieces Import.recognise nearOut →
      opensImport l = false ∧ '"' ∉ l := by
    rw [hpieces]
    intro l hl
    simp only [List.mem_cons, Piece.plain.injEq, reduceCtorEq, List.not_mem_nil, or_false,
      false_or] at hl
    rcases hl with rfl | rfl | rfl | rfl | rfl | rfl
    all_goals decide +kernel
  refine ⟨fun l hl => (hplain l hl).1, ?_, ?_, fun l hl => ?_⟩
  · decide +kernel
  · intro i hi
    rw [imports, found, hpieces] at hi
    obtain rfl := List.mem_singleton.mp hi
    rw [Registry.statements, Registry.entries_builtIn]
    decide +kernel
  · exact Registry.covered_of_not_isInfix fun s =>
      Registry.not_isInfix_of_no_quote (hplain l hl).2

theorem staysFlat_near : onGraph.StaysFlat plainSystem shelf near [] := by
  intro depth directory file staged out e r hbackend hstage hgraph he hr
  obtain rfl : usualDepth = depth := Backend.importGraph.inj hbackend
  obtain ⟨rfl, rfl, rfl⟩ : directory = .ofText "/t/flatten-Contract-0".toList ∧
      file = stagedPath ∧ staged = shelfWith near.text := by
    rw [stage_shelf (by cbv)] at hstage
    simpa [eq_comm] using hstage
  obtain rfl := Except.ok.inj (he.symm.trans (resolve_shelf near.text))
  obtain rfl := Except.ok.inj (hr.symm.trans (resolve_shelf_root near.text))
  obtain ⟨order, hwalk, w⟩ := exists_walked_near
  rw [flattenGraph, hwalk] at hgraph
  obtain rfl : nearOut = out := Except.ok.inj hgraph
  rw [hwalk]
  refine ⟨fun _ => ⟨?_, ?_⟩, fun _ => inPlace_near⟩
  · intro s hs
    have hmem : s ∈ nearParts := hs
    rcases List.mem_pair.mp hmem with rfl | rfl
    · exact ⟨orderly_shelf, quiet_caption (by decide)⟩
    · exact ⟨orderly_near, quiet_caption (by decide)⟩
  · intro s hs i hi b hb
    have hmem : i ∈ nearParts.flatMap
        (fun s => staying (shelfWith near.text) ⟨[['l']], stagedPlace.dropLast⟩ s.2) :=
      List.mem_flatMap.mpr ⟨s, hs, hi⟩
    rw [staying_near] at hmem
    obtain rfl := List.mem_singleton.mp hmem
    have hnone : leadsTo (shelfWith near.text) ⟨[['l']], stagedPlace.dropLast⟩ stagedPlace
        (shrinkGaps nearStays.path) = .ok none := by cbv
    cases hb.symm.trans hnone

/-- The source of the registry is put in, and nothing changes any more. -/
theorem flatten_flatten_near : ∃ result,
    (onGraph.flatten plainSystem shelf near []).result = .ok result ∧ result.error? = none ∧
      shelf.Rooted ∧ onGraph.StaysFlat plainSystem shelf near [] ∧
        onGraph.OutOfReach plainSystem shelf [] result.source.text ∧ ∃ result',
          (onGraph.flatten plainSystem shelf result.source []).result = .ok result' ∧
            result'.source = result.source := by
  obtain ⟨order, hwalk, w⟩ := exists_walked_near
  obtain ⟨text, hsubstitute, -⟩ := Registry.substitute_builtIn inPlace_near.apart
  have himports : (imports near.text).length = 1 + 1 := by cbv
  have hsucceeds : onGraph.Succeeds plainSystem shelf near [] text :=
    succeeds_onGraph (by decide +kernel) (congrArg Prod.fst hwalk) hsubstitute
  have hresult := result_onGraph (List.ne_nil_of_length_eq_add_one himports) hsucceeds
  have hreach := hsucceeds.outOfReach rfl rfl staysFlat_near
  exact ⟨_, hresult, rfl, rooted_shelf, staysFlat_near, hreach,
    flatten_flatten rfl rfl rooted_shelf hresult rfl rfl (fun _ _ => staysFlat_near.apart rfl) hreach⟩

/-! ### An import that comes into reach -/

/-- A source that imports `C`. -/
def far : ContractSource where
  text := "import 'd/e/C';\ncontract M {}\n".toList

/-- What is made of it. -/
def farOut : Text :=
  "// File: d/e/C\nimport '../../l/A';\ncontract C {}\n".toList ++
    "\n// File: Contract.sol\ncontract M {}\n".toList

/-- What is made of that. -/
def farOut' : Text :=
  "// File: ../../l/A\ncontract A {}\n\n// File: Contract.sol\n".toList ++
    "// File: d/e/C\n\ncontract C {}\n\n// File: Contract.sol\ncontract M {}\n".toList

theorem return_not_mem_far : '\r' ∉ far.text ∧ '\r' ∉ farOut := by
  unfold far farOut
  simp

theorem flattenGraph_far :
    flattenGraph usualDepth (shelfWith far.text) stagedPath (.ofLocation onGraph.importRoot) =
      .ok farOut := by
  have hinline : ∀ k, inline (shelfWith far.text) ⟨[['l']], stagedPlace.dropLast⟩ (k + 3)
      stagedPlace far.text ⟨[stagedPlace], [stagedPlace], []⟩ =
      (.ok "\ncontract M {}\n".toList,
        ⟨[stagedPlace, [['l'], ['d'], ['e'], ['C']]], [stagedPlace, [['l'], ['d'], ['e'], ['C']]],
          [⟨[['l'], ['d'], ['e'], ['C']], "d/e/C".toList,
            "import '../../l/A';\ncontract C {}".toList⟩]⟩) := by
    intro k
    cbv
  rw [flattenGraph, walkGraph_shelf return_not_mem_far.1 (by simp) hinline, assemble]
  simp only [banner_eq]
  cbv

theorem flattenGraph_farOut :
    flattenGraph usualDepth (shelfWith farOut) stagedPath (.ofLocation onGraph.importRoot) =
      .ok farOut' := by
  have hinline : ∀ k, inline (shelfWith farOut) ⟨[['l']], stagedPlace.dropLast⟩ (k + 3)
      stagedPlace farOut ⟨[stagedPlace], [stagedPlace], []⟩ =
      (.ok "// File: d/e/C\n\ncontract C {}\n\n// File: Contract.sol\ncontract M {}\n".toList,
        ⟨[stagedPlace, [['l'], ['A']]], [stagedPlace, [['l'], ['A']]],
          [⟨[['l'], ['A']], "../../l/A".toList, "contract A {}".toList⟩]⟩) := by
    intro k
    cbv
  rw [flattenGraph, walkGraph_shelf return_not_mem_far.2 (by simp) hinline, assemble]
  simp only [banner_eq]
  cbv

/-- **Flattening is not idempotent.** The import that is left of `C` leads nowhere from there, and to
`A` from the staged file. -/
theorem flatten_not_idempotent : ∃ result result',
    onGraph.backend = .importGraph ∧ onGraph.registry = .builtIn ∧ shelf.Rooted ∧
      (onGraph.flatten plainSystem shelf far []).result = .ok result ∧ result.error? = none ∧
        (onGraph.flatten plainSystem shelf result.source []).result = .ok result' ∧
          result'.source.text ≠ result.source.text := by
  have himports : (imports far.text).length = 0 + 1 := by cbv
  have himports' : (imports farOut).length = 0 + 1 := by cbv
  have hsubstitute : ∀ {out : Text}, '"' ∉ out → Registry.builtIn.substitute out = .ok out :=
    fun h => Registry.substitute_of_none fun s => Registry.not_isInfix_of_no_quote h
  have hfirst := result_onGraph (List.ne_nil_of_length_eq_add_one himports)
    (succeeds_onGraph (by decide +kernel) flattenGraph_far (hsubstitute (by decide +kernel)))
  have hsecond : (onGraph.flatten plainSystem shelf (far.withText farOut) []).result =
      .ok (.flattened (far.withText farOut') (findImports farOut')) :=
    result_onGraph (List.ne_nil_of_length_eq_add_one himports')
      (succeeds_onGraph (by decide +kernel) flattenGraph_farOut (hsubstitute (by decide +kernel)))
  exact ⟨_, _, rfl, rfl, rooted_shelf, hfirst, rfl, hsecond, by decide +kernel⟩

end Flattener

end ContractVerifier
