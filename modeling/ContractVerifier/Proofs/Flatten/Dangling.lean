import ContractVerifier.Proofs.Flatten.AllOrNothing

set_option autoImplicit false

/-! # Sources with imports that lead nowhere

A file none of whose imports leads anywhere is given back as it is read, by the walk and by a call
of a flattener whose registry knows nothing in it. As it is read means with line feeds for all line
ends: what is written with a carriage return does not come back as it was (`returns_are_lost`).

Main statement: `Flattener.flatten_dangling`.
-/

namespace ContractVerifier

/-- Only a text without carriage returns has line feeds for all its line ends. -/
theorem Text.unifyNewlines_eq_iff {t : Text} : unifyNewlines t = t ↔ '\r' ∉ t := by
  constructor
  · intro h
    rw [← h]
    exact return_not_mem_unifyNewlines t
  · exact unifyNewlines_of_no_return

namespace Flatten

open Solidity

variable {t : Tree} {roots : Roots} {here : Location} {text : Text}

/-- No import in the file at `here` that has this text leads anywhere. -/
def Dangling (t : Tree) (roots : Roots) (here : Location) (text : Text) : Prop :=
  ∀ i ∈ imports text, leadsTo t roots here i.path = .ok none

theorem readText_of_readBytes {p : Path} {bytes : List UInt8} {content : Text}
    (hbytes : t.readBytes p = .ok bytes) (hcontent : Utf8.decode bytes = .ok content) :
    t.readText p = .ok (Text.unifyNewlines content) := by
  rw [Tree.readText, hbytes]
  simp only [hcontent]

theorem Dangling.not_imports (h : Dangling t roots here text)
    (htext : t.readText (.ofLocation here) = .ok text) (b : Location) :
    ¬ Imports t roots here b := by
  rintro ⟨text', i, htext', hi, hlead⟩
  obtain rfl := Except.ok.inj (htext.symm.trans htext')
  cases (h i hi).symm.trans hlead

theorem Dangling.settled (h : Dangling t roots here text)
    (htext : t.readText (.ofLocation here) = .ok text) : Settled t roots here :=
  ⟨text, htext, fun i hi => ⟨none, h i hi⟩⟩

/-- **Such a file is given back**, as it is read. It is the only one that can be reached, so nothing
spoils the result. -/
theorem Dangling.flattenGraph (depth : Nat) {entry importRoot : Path} {e r : Location}
    (h : Dangling t ⟨r, e.dropLast⟩ e text) (he : t.resolve entry = .ok e)
    (hr : t.resolve importRoot = .ok r) (htext : t.readText (.ofLocation e) = .ok text) :
    flattenGraph depth t entry importRoot = .ok text := by
  cases hgraph : Flatten.flattenGraph depth t entry importRoot with
  | error x =>
      obtain ⟨l, bytes, hfind⟩ := exists_find_of_readText htext
      have hfile : t.isFile (.ofLocation e) = .ok true := by
        rw [Tree.isFile, hfind]
      rcases spoils_or_deep_of_flattenGraph he hfile hr hgraph with ⟨a, hreaches, hspoils⟩ |
        ⟨-, hdeep⟩
      · rcases hreaches.cases_head with rfl | ⟨b, himports, -⟩
        · exact absurd hspoils (h.settled htext).not_spoils
        · exact absurd himports (h.not_imports htext b)
      · obtain ⟨n, a, hn, hway⟩ := exists_importsIn_of_nestsBeyond hdeep
        cases hway with
        | here => exact absurd hn (Nat.not_lt_zero depth)
        | step first => exact absurd first (h.not_imports htext _)
  | ok out =>
      have hread := readText_of_lonely hgraph he hr
        fun b himports => absurd himports (h.not_imports htext b)
      rw [Except.ok.inj (hread.symm.trans htext)]

end Flatten

namespace Flattener

open Flatten Solidity

variable {depth : Nat} {f : Flattener} {sys : System} {t : Tree} {source : ContractSource}
  {contractName : Text} {directory file : Path} {staged : Tree}

/-- What becomes of a source whose imports lead nowhere from where it is staged is up to the
registry. -/
theorem result_of_dangling {e r : Location} {text : Text}
    (hbackend : f.backend = .importGraph depth)
    (hstage : f.stage sys.scratch t source.text contractName = .ok (directory, file, staged))
    (he : staged.resolve file = .ok e) (hr : staged.resolve (.ofLocation f.importRoot) = .ok r)
    (hread : staged.readText (.ofLocation e) = .ok (Text.unifyNewlines source.text))
    (hdangling : Dangling staged ⟨r, e.dropLast⟩ e (Text.unifyNewlines source.text))
    (himports : imports source.text ≠ [])
    (hsubstitute : f.registry.substitute (Text.unifyNewlines source.text) = .ok text) :
    (f.flatten sys t source contractName).result =
      .ok (.flattened (source.withText text) (findImports text)) := by
  have hanswers : f.Answers sys t source contractName
      (.ok (.text (Text.unifyNewlines source.text))) := by
    refine ⟨directory, file, staged, hstage, ?_⟩
    rw [hbackend, Backend.flatten, hdangling.flattenGraph depth he hr hread]
    rfl
  rw [result_of_answers himports hanswers, hsubstitute]

/-- **Imports that lead nowhere.** If no import of the entry leads anywhere, the walk gives the
entry's content with line feeds for all line ends, which is the content itself exactly if there is
no carriage return in it. So does a call for which the entry was staged, unless a statement that is
registered stands in the text: what is registered is put in. -/
theorem flatten_dangling {depth : Nat} {entry importRoot : Path} {e r : Location}
    {bytes : List UInt8} {content : Text} (he : t.resolve entry = .ok e)
    (hr : t.resolve importRoot = .ok r)
    (hbytes : t.readBytes (.ofLocation e) = .ok bytes)
    (hcontent : Utf8.decode bytes = .ok content)
    (hdangling : Dangling t ⟨r, e.dropLast⟩ e (Text.unifyNewlines content)) :
    flattenGraph depth t entry importRoot = .ok (Text.unifyNewlines content) ∧
    (flattenGraph depth t entry importRoot = .ok content ↔ '\r' ∉ content) ∧
    ∀ (f : Flattener) (sys : System) (t₀ : Tree) (source : ContractSource) (contractName : Text)
      (directory : Path), f.backend = .importGraph depth → .ofLocation f.importRoot = importRoot →
      f.stage sys.scratch t₀ source.text contractName = .ok (directory, entry, t) →
        (imports source.text ≠ [] → ∀ text,
          f.registry.substitute (Text.unifyNewlines source.text) = .ok text →
            (f.flatten sys t₀ source contractName).result =
              .ok (.flattened (source.withText text) (findImports text))) ∧
        ((∀ s ∈ f.registry.statements, ¬ s <:+: Text.unifyNewlines source.text) →
          ∃ result, (f.flatten sys t₀ source contractName).result = .ok result ∧
            result.error? = none ∧
            (result.source = source ↔ '\r' ∉ source.text ∨ imports source.text = [])) := by
  have hread := readText_of_readBytes hbytes hcontent
  have hgraph := hdangling.flattenGraph depth he hr hread
  refine ⟨hgraph, ?_, ?_⟩
  · rw [hgraph, Except.ok.injEq]
    exact Text.unifyNewlines_eq_iff
  intro f sys t₀ source contractName directory hbackend hroot hstage
  -- what was staged is the source
  have hsame : Text.unifyNewlines content = Text.unifyNewlines source.text :=
    readText_of_stage hstage he hread
  rw [hsame] at hread hdangling
  rw [← hroot] at hr
  have hresult : imports source.text ≠ [] → ∀ text,
      f.registry.substitute (Text.unifyNewlines source.text) = .ok text →
        (f.flatten sys t₀ source contractName).result =
          .ok (.flattened (source.withText text) (findImports text)) :=
    fun himports _ => result_of_dangling hbackend hstage he hr hread hdangling himports
  refine ⟨hresult, ?_⟩
  intro hnone
  by_cases himports : imports source.text = []
  · rw [flatten_of_no_imports f sys t₀ contractName himports]
    exact ⟨_, rfl, rfl, iff_of_true rfl (.inr himports)⟩
  · refine ⟨_, hresult himports _ (Registry.substitute_of_none hnone), rfl, ?_⟩
    have htext : (FlattenResult.flattened (source.withText (Text.unifyNewlines source.text))
        (findImports (Text.unifyNewlines source.text))).source = source ↔
          Text.unifyNewlines source.text = source.text := by
      constructor
      · exact fun h => congrArg ContractSource.text h
      · intro h
        rw [h]
        rfl
    rw [htext, Text.unifyNewlines_eq_iff]
    exact ⟨.inl, fun h => h.resolve_right himports⟩

/-! ## Line feeds stay and carriage returns go -/

/-- A source with an import that leads nowhere. -/
def alone : ContractSource where
  text := "import './B';\ncontract M {}\n".toList

/-- The same source, with carriage returns at the ends of its lines. -/
def returning : ContractSource where
  text := "import './B';\r\ncontract M {}\r\n".toList

/-- There is no file `B` beside the staged file. -/
theorem dangling_alone (text : Text) :
    Dangling (shelfWith text) ⟨[['l']], stagedPlace.dropLast⟩ stagedPlace alone.text := by
  have himports : imports alone.text = [⟨"import './B';".toList, "./B".toList⟩] := by cbv
  intro i hi
  rw [himports] at hi
  obtain rfl := List.mem_singleton.mp hi
  cbv

theorem return_not_mem_alone : '\r' ∉ alone.text := by
  unfold alone
  simp

theorem unifyNewlines_alone : Text.unifyNewlines alone.text = alone.text :=
  Text.unifyNewlines_of_no_return return_not_mem_alone

theorem unifyNewlines_returning : Text.unifyNewlines returning.text = alone.text := by
  cbv

theorem not_isInfix_alone {s : Text} (hs : s ∈ onGraph.registry.statements) :
    ¬ s <:+: alone.text :=
  Registry.not_isInfix_of_no_quote (by unfold alone; simp) hs

/-- The text with line feeds comes back. -/
theorem flatten_alone : ∃ result,
    (onGraph.flatten plainSystem shelf alone []).result = .ok result ∧ result.source = alone := by
  have hbytes : (shelfWith alone.text).readBytes (.ofLocation stagedPlace) =
      .ok (Utf8.encode alone.text) := by cbv
  have hdangling := dangling_alone alone.text
  rw [← unifyNewlines_alone] at hdangling
  obtain ⟨-, -, hcalls⟩ := flatten_dangling (resolve_shelf alone.text)
    (resolve_shelf_root alone.text) hbytes (Utf8.decode_encode _) hdangling
  obtain ⟨result, hresult, -, hsource⟩ := (hcalls onGraph plainSystem shelf alone [] _ rfl rfl
    (stage_shelf (by cbv))).2 fun s hs => by
      rw [unifyNewlines_alone]
      exact not_isInfix_alone hs
  exact ⟨result, hresult, hsource.mpr (.inl return_not_mem_alone)⟩

/-- The text with carriage returns does not, neither from the walk nor from the call. -/
theorem returns_are_lost :
    (Utf8.decode (Utf8.encode returning.text) = .ok returning.text ∧
      Dangling (shelfWith returning.text) ⟨[['l']], stagedPlace.dropLast⟩ stagedPlace
        (Text.unifyNewlines returning.text) ∧
      flattenGraph usualDepth (shelfWith returning.text) stagedPath
        (.ofLocation onGraph.importRoot) ≠ .ok returning.text) ∧
    ∃ result, (onGraph.flatten plainSystem shelf returning []).result = .ok result ∧
      result.error? = none ∧ result.source.text ≠ returning.text := by
  have hdangling := dangling_alone returning.text
  have hread : (shelfWith returning.text).readText (.ofLocation stagedPlace) = .ok alone.text := by
    have hbytes : (shelfWith returning.text).readBytes (.ofLocation stagedPlace) =
        .ok (Utf8.encode returning.text) := by cbv
    rw [readText_of_readBytes hbytes (Utf8.decode_encode _), unifyNewlines_returning]
  have hgraph := hdangling.flattenGraph usualDepth (resolve_shelf returning.text)
    (resolve_shelf_root returning.text) hread
  have hne : alone.text ≠ returning.text := by
    unfold alone returning
    simp
  have himports : (imports returning.text).length = 0 + 1 := by cbv
  have hunified := unifyNewlines_returning
  refine ⟨⟨Utf8.decode_encode _, ?_, ?_⟩, ?_⟩
  · rw [hunified]
    exact hdangling
  · rw [hgraph]
    exact fun h => hne (Except.ok.inj h)
  · rw [← hunified] at hread hdangling
    refine ⟨_, result_of_dangling rfl (stage_shelf (by cbv))
      (resolve_shelf returning.text) (resolve_shelf_root returning.text) hread hdangling
      (List.ne_nil_of_length_eq_add_one himports)
      (Registry.substitute_of_none (t := alone.text) fun s hs => not_isInfix_alone hs), rfl, hne⟩

end Flattener

end ContractVerifier
