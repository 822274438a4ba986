import ContractVerifier.Flatten.Flattener
import ContractVerifier.Proofs.Files.Written

set_option autoImplicit false

/-! # Where a source is staged

Whatever the source is, it is staged in the same file (`exists_stage_eq`). The directory of the call
is made where nothing was, so in a tree whose entries all stand in directories nothing is in it, and
the staged file is no link: it has the contract's name (`getLast?_of_stage`).
-/

namespace ContractVerifier

open Flatten

namespace Flatten

variable {t t' : Tree} {file directory : Path}

theorem writeFile_of_writeSource {text : Text} (h : writeSource file text t = .ok t') :
    t.writeFile file (Utf8.encode text) = .ok t' := by
  rw [writeSource] at h
  split at h
  · cases h
  · rename_i t'' hwrite
    split at h
    · cases h
    · rwa [← Except.ok.inj h]

theorem name_stagedFile (directory : Path) (safe : Text) :
    (stagedFile directory safe).name = safe ++ ".sol".toList := by
  simp [stagedFile, Path.join, Path.name]

theorem isName_sol (safe : Text) : Tree.IsName (safe ++ ".sol".toList) := by
  refine ⟨?_, ?_, ?_⟩
  all_goals
    intro h
    have hlength := congrArg List.length h
    simp at hlength

theorem name_stagedFile_ne (directory : Path) (safe : Text) :
    (stagedFile directory safe).name ≠ ['.'] := by
  rw [name_stagedFile]
  exact (isName_sol safe).2.1

theorem return_not_mem_safeName (contractName : Text) : '\r' ∉ safeName contractName := by
  rw [safeName]
  split
  · simp
  · intro hmem
    obtain ⟨c, -, hc⟩ := List.mem_map.mp hmem
    split at hc
    · rename_i hword
      rw [hc] at hword
      exact absurd hword (by decide)
    · exact absurd hc (by decide)

theorem name_ofText_ne (text : Text) : (Path.ofText text).name ≠ ['.'] :=
  Path.name_ne_of_not_mem (by simp) (Path.dot_not_mem_ofText text)

/-- Every entry still stands in a directory when the scratch directory was made. -/
theorem rooted_of_openScratch {configured : Option Text} (ht : t.Rooted)
    (h : openScratch configured t = .ok t') : t'.Rooted := by
  unfold openScratch at h
  split at h
  · exact ht.makeDirectories h
  · exact Except.ok.inj h ▸ ht

theorem makeDirectory_of_createDirectory {scratch safe : Text} {endings : List Text}
    (h : createDirectory scratch safe t endings = .ok (directory, t')) :
    t.makeDirectory directory = .ok t' ∧ directory.name ≠ ['.'] := by
  induction endings with
  | nil => cases h
  | cons ending endings ih =>
      rw [createDirectory] at h
      split at h
      · rename_i t'' hmake
        obtain ⟨rfl, rfl⟩ := Prod.mk.inj (Except.ok.inj h)
        refine ⟨?_, name_ofText_ne _⟩
        unfold makeDirectoryAt at hmake
        split at hmake
        · cases hmake
        · split at hmake
          · cases hmake
          · split at hmake
            · cases hmake
            · exact hmake
      · exact ih h
      · cases h

end Flatten

namespace Flattener

variable {f : Flattener} {scratch : Scratch} {t staged : Tree} {text contractName : Text}
  {directory file : Path}

/-- The steps of staging, one after another. -/
theorem steps_of_stage (h : f.stage scratch t text contractName = .ok (directory, file, staged)) :
    ∃ opened made, openScratch f.scratchDir t = .ok opened ∧
      createDirectory (scratch.directory f.scratchDir) (safeName contractName) opened
        scratch.endings = .ok (directory, made) ∧
      file = stagedFile directory (safeName contractName) ∧
      made.writeFile file (Utf8.encode text) = .ok staged := by
  unfold stage at h
  simp only at h
  split at h
  · cases h
  rename_i opened hopen
  split at h
  · cases h
  rename_i directory' made hcreate
  split at h
  · cases h
  rename_i written hwrite
  obtain ⟨rfl, rfl, rfl⟩ := by simpa using h
  exact ⟨opened, made, hopen, hcreate, rfl, writeFile_of_writeSource hwrite⟩

/-- **Another text is staged in the same file**, if it can be staged at all, and the trees differ in
that file only. -/
theorem exists_stage_eq
    (h : f.stage scratch t text contractName = .ok (directory, file, staged)) :
    ∃ (t' : Tree) (l : Location), l ≠ [] ∧ t'.Ends l ∧
      (∀ text', (t'.set l (.file (Utf8.encode text'))).find file =
        .ok (l, .file (Utf8.encode text'))) ∧
      ∀ text' directory' file' staged',
        f.stage scratch t text' contractName = .ok (directory', file', staged') →
          file' = file ∧ staged' = t'.set l (.file (Utf8.encode text')) := by
  obtain ⟨opened, made, hopen, hcreate, rfl, hwrite⟩ := steps_of_stage h
  obtain ⟨l, hl, hends, hset⟩ := Tree.exists_writeFile_eq (name_stagedFile_ne _ _) hwrite
  refine ⟨made, l, hl, hends, fun text' => (hset _).2, ?_⟩
  intro text' directory' file' staged' h'
  obtain ⟨opened', made', hopen', hcreate', rfl, hwrite'⟩ := steps_of_stage h'
  obtain rfl := Except.ok.inj (hopen.symm.trans hopen')
  obtain ⟨rfl, rfl⟩ := Prod.mk.inj (Except.ok.inj (hcreate.symm.trans hcreate'))
  exact ⟨rfl, Except.ok.inj (hwrite'.symm.trans (hset _).1)⟩

/-- The staged file is found, with the bytes of the text. -/
theorem exists_find_of_stage
    (h : f.stage scratch t text contractName = .ok (directory, file, staged)) :
    ∃ l, staged.find file = .ok (l, .file (Utf8.encode text)) := by
  obtain ⟨t', l, -, -, hfind, hstages⟩ := exists_stage_eq h
  obtain ⟨-, rfl⟩ := hstages _ _ _ _ h
  exact ⟨l, hfind text⟩

/-- What is read of it is the text, with line feeds for all line ends. -/
theorem readText_of_stage {e : Location} {read : Text}
    (h : f.stage scratch t text contractName = .ok (directory, file, staged))
    (he : staged.resolve file = .ok e) (hread : staged.readText (.ofLocation e) = .ok read) :
    read = Text.unifyNewlines text := by
  obtain ⟨l, hfind⟩ := exists_find_of_stage h
  obtain ⟨hl, hsettled⟩ := Tree.resolve_of_find hfind
  obtain rfl := Except.ok.inj (hl.symm.trans he)
  obtain ⟨u, hu, rfl⟩ :=
    Tree.readText_of_node? hsettled (Tree.find_eq_ok_iff.mp hfind).2.2.1 hread
  rw [Except.ok.inj ((Utf8.decode_encode text).symm.trans hu)]

/-- **The staged file has the contract's name**, if every entry of the tree stands in a directory. -/
theorem getLast?_of_stage (ht : t.Rooted) {e : Location}
    (h : f.stage scratch t text contractName = .ok (directory, file, staged))
    (he : staged.resolve file = .ok e) :
    e.getLast? = some (safeName contractName ++ ".sol".toList) := by
  obtain ⟨opened, made, hopen, hcreate, rfl, hwrite⟩ := steps_of_stage h
  have hopened : opened.Rooted := rooted_of_openScratch ht hopen
  obtain ⟨hmake, hname⟩ := makeDirectory_of_createDirectory hcreate
  obtain ⟨d, n, hd, hfree, rfl, hdirectory⟩ := Tree.exists_of_makeDirectory hname hmake
  obtain ⟨l, hl, hends, hset⟩ := Tree.exists_writeFile_eq (name_stagedFile_ne _ _) hwrite
  obtain rfl := Except.ok.inj ((hset _).1.symm.trans hwrite)
  obtain ⟨hresolve, -⟩ := Tree.resolve_of_find (hset (Utf8.encode text)).2
  obtain rfl := Except.ok.inj (hresolve.symm.trans he)
  obtain ⟨-, -, -, links, -, harrives⟩ := Tree.find_eq_ok_iff.mp (hset (Utf8.encode text)).2
  -- the path leads through the new directory
  obtain ⟨mid, m, k, hmid, hlast, -⟩ := harrives.of_append rfl
  obtain ⟨rfl, -⟩ := hmid.unique (Tree.arrives_set hl hends hdirectory)
  -- in which nothing is, so the file is no link
  have hempty : opened.node? (d ++ [safeName contractName ++ ".sol".toList]) = none :=
    hopened.node?_eq_none hfree _
  have hplain : ((opened.set d .directory).set l (.file (Utf8.encode text))).link?
      (d ++ [safeName contractName ++ ".sol".toList]) = none := by
    rw [Tree.link?, Tree.node?_set hl, Tree.node?_set hd]
    by_cases hsame : d ++ [safeName contractName ++ ".sol".toList] = l
    · rw [if_pos hsame]
    · rw [if_neg hsame, if_neg (by simp), hempty]
  rw [hlast.eq_of_name (isName_sol _) hplain, List.getLast?_concat]

theorem return_not_mem_of_stage (ht : t.Rooted) {e : Location}
    (h : f.stage scratch t text contractName = .ok (directory, file, staged))
    (he : staged.resolve file = .ok e) : '\r' ∉ (e.getLast?).getD [] := by
  rw [getLast?_of_stage ht h he, Option.getD_some, List.mem_append, not_or]
  exact ⟨return_not_mem_safeName contractName, by simp⟩

end Flattener

end ContractVerifier
