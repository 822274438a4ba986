import ContractVerifier.Flatten.Traces
import ContractVerifier.Proofs.Flatten.Concurrent

set_option autoImplicit false

/-! # Staging leaves nothing behind

A source is staged in a directory of its own, directly in the scratch directory (`Housed`). When the
directory is removed, with all that a backend has left in it, the tree is what it was when the
scratch directory was opened (`node?_flattenLeaving`), whatever came of the call.

So a scratch directory that was there has the entries it had, and one that had to be made has none.
Only a path that goes up can lead to a directory that was there by way of one that had to be made,
and the latter stays.
-/

namespace ContractVerifier

open Flatten

namespace Flatten

/-! ## Names -/

theorem isWord_of_mem_safeName {contractName : Text} {c : Char} (h : c ∈ safeName contractName) :
    Text.isWord c := by
  rw [safeName] at h
  split at h
  · have hword : "Contract".toList.all Text.isWord := by decide
    exact List.all_eq_true.mp hword c h
  · obtain ⟨c', -, rfl⟩ := List.mem_map.mp h
    split
    · assumption
    · decide

theorem safeName_ne_nil (contractName : Text) : safeName contractName ≠ [] := by
  rw [safeName]
  split
  · decide
  · rename_i hname
    simpa using hname

theorem parent_stagedFile (directory : Path) (safe : Text) :
    (stagedFile directory safe).parent = directory := by
  show Path.mk directory.anchor (directory.names ++ [safe ++ ".sol".toList]).dropLast = directory
  rw [List.dropLast_concat]

/-- The path of a name in a directory starts where that of the directory does. -/
theorem anchorOf_pathIn {directory name : Text} {c : Char} (hdirectory : directory ≠ [])
    (hname : name.head? = some c) (hc : c ≠ '/') :
    Path.anchorOf (pathIn directory name) = Path.anchorOf directory := by
  obtain ⟨rest, rfl⟩ := List.head?_eq_some_iff.mp hname
  -- the slash that is put in does not stand among the leading ones
  rcases directory with _ | ⟨d, _ | ⟨e, _ | ⟨g, more⟩⟩⟩
  · exact absurd rfl hdirectory
  · by_cases hd : d = '/' <;> simp [pathIn, Path.anchorOf, hd, hc]
  · by_cases hd : d = '/' <;> by_cases he : e = '/' <;> simp [pathIn, Path.anchorOf, hd, he, hc]
  · by_cases hd : d = '/' <;> by_cases he : e = '/' <;> by_cases hg : g = '/' <;>
      (rw [pathIn]; split <;> simp [Path.anchorOf, hd, he, hg])

end Flatten

/-! ## Removing a directory -/

namespace Flatten

variable {opened own : Tree} {room : Path} {place : Location}

/-- A directory that was made is removed with all that is in it. -/
theorem node?_removeDirectory (hrooted : opened.Rooted) (hname : room.name ≠ ['.'])
    (hvacant : opened.vacancy room = .ok place)
    (houtside : ∀ l, ¬ place <+: l → own.node? l = opened.node? l)
    (hdirectory : own.node? place = some .directory) (l : Location) :
    (removeDirectory room own).node? l = opened.node? l := by
  obtain ⟨-, -, hfree, parent, hplace, -⟩ := Tree.vacancy_eq_ok hvacant
  have hnone : ∀ {k}, place <+: k → opened.node? k = none := hrooted.node?_eq_none_of_below hfree
  have hfind : own.find room = .ok (place, .directory) :=
    Tree.find_of_vacancy hname hvacant
      (fun k hk => houtside k fun hbelow => hk (hnone hbelow)) hdirectory
  rw [removeDirectory, hfind]
  show (own.removeAll place).node? l = _
  rw [Tree.node?_removeAll (by simp [hplace])]
  split
  · rename_i hbelow
    exact (hnone hbelow).symm
  · rename_i hbelow
    exact houtside l hbelow

end Flatten

namespace Flattener

variable {f : Flattener} {sys : System} {t opened made staged : Tree} {source : ContractSource}
  {contractName : Text} {directory : Path} {base : Location}

/-! ## How staging ends -/

/-- How staging a source ends. -/
inductive StagingEnds (f : Flattener) (scratch : Scratch) (t : Tree) (text contractName : Text) :
    Except (Fault × Tree) (Path × Path × Tree) → Prop
  | closed {fault : FileFault} {left : Tree}
      (opens : openScratch f.scratchDir t = .error (fault, left)) :
      StagingEnds f scratch t text contractName (.error (.file fault, left))
  | full {opened : Tree} {fault : Fault} (opens : openScratch f.scratchDir t = .ok opened) :
      StagingEnds f scratch t text contractName (.error (fault, opened))
  | unwritten {opened made : Tree} {directory : Path} {fault : Fault}
      (opens : openScratch f.scratchDir t = .ok opened)
      (makes : createDirectory (scratch.directory f.scratchDir) (safeName contractName) opened
        scratch.endings = .ok (directory, made)) :
      StagingEnds f scratch t text contractName (.error (fault, removeDirectory directory made))
  | staged {opened made staged : Tree} {directory : Path}
      (opens : openScratch f.scratchDir t = .ok opened)
      (makes : createDirectory (scratch.directory f.scratchDir) (safeName contractName) opened
        scratch.endings = .ok (directory, made))
      (writes : writeSource (stagedFile directory (safeName contractName)) text made =
        .ok staged) :
      StagingEnds f scratch t text contractName
        (.ok (directory, stagedFile directory (safeName contractName), staged))

theorem stagingEnds (f : Flattener) (scratch : Scratch) (t : Tree) (text contractName : Text) :
    StagingEnds f scratch t text contractName (f.stage scratch t text contractName) := by
  unfold stage
  simp only
  split
  · rename_i hopen
    exact .closed hopen
  · rename_i hopen
    split
    · exact .full hopen
    · rename_i hmake
      split
      · exact .unwritten hopen hmake
      · rename_i hwrite
        exact .staged hopen hmake hwrite

/-- The directory is made in its vacant place, under one of the names that are tried. -/
theorem exists_task_of_createDirectory {endings : List Text} (source : ContractSource)
    (h : createDirectory (sys.scratch.directory f.scratchDir) (safeName contractName) opened
      endings = .ok (directory, made)) :
    ∃ ending ∈ endings, directory = f.room sys ⟨source, contractName, ending⟩ := by
  induction endings with
  | nil => cases h
  | cons ending endings ih =>
      rw [createDirectory] at h
      split at h
      · obtain ⟨rfl, -⟩ := Prod.mk.inj (Except.ok.inj h)
        exact ⟨ending, List.mem_cons_self, rfl⟩
      · obtain ⟨other, hother, hdirectory⟩ := ih h
        exact ⟨other, List.mem_cons_of_mem _ hother, hdirectory⟩
      · cases h

theorem exists_home_of_createDirectory {scratch safe : Text} {endings : List Text}
    (hrooted : opened.Rooted)
    (h : createDirectory scratch safe opened endings = .ok (directory, made)) :
    directory.name ≠ ['.'] ∧ ∃ place, made = opened.set place .directory ∧
      Home opened directory place made := by
  obtain ⟨hmake, hname⟩ := makeDirectory_of_createDirectory h
  obtain ⟨place, hvacant, rfl, -⟩ := Tree.find_of_makeDirectory hname hmake
  exact ⟨hname, place, rfl, .of_vacancy hrooted hvacant⟩

/-! ## Where a source is staged -/

/-- How a task's source is staged: in a directory directly in the scratch directory, where nothing
was before, and in it there is nothing but the file with the text. -/
structure Housed (f : Flattener) (sys : System) (task : Task) (opened staged : Tree)
    (base : Location) : Prop where
  scratch : opened.find (.ofText (sys.scratch.directory f.scratchDir)) = .ok (base, .directory)
  vacant : ∀ l, task.place base <+: l → opened.node? l = none
  holds : staged.find (task.file (f.room sys task)) =
    .ok (task.place base ++ [fileName task], .file (Utf8.encode task.source.text))
  nothingElse : ∀ l, task.place base <+: l → staged.node? l ≠ none →
    l = task.place base ∨ l = task.place base ++ [fileName task]
  elsewhere : ∀ l, ¬ task.place base <+: l → staged.node? l = opened.node? l

/-- A task's directory is made in the scratch directory. -/
theorem exists_find_scratch {task : Task} {place : Location} (hslash : '/' ∉ task.ending)
    (h : opened.vacancy (f.room sys task) = .ok place) :
    ∃ base, place = task.place base ∧
      opened.find (.ofText (sys.scratch.directory f.scratchDir)) = .ok (base, .directory) := by
  obtain ⟨base, hplace, hfind⟩ := Tree.exists_find_parent_of_vacancy h
  rw [name_room hslash] at hplace
  refine ⟨base, hplace, ?_⟩
  have hnames : (f.room sys task).parent.names =
      (Path.ofText (sys.scratch.directory f.scratchDir)).names := dropLast_names_room hslash
  by_cases hempty : sys.scratch.directory f.scratchDir = []
  · -- an empty path leads to the same place from here as from the root
    obtain ⟨-, -, hnode, n, hn, harrives⟩ := Tree.find_eq_ok_iff.mp hfind
    rw [hnames, hempty] at harrives
    rw [hempty]
    exact Tree.find_eq_ok_iff.mpr ⟨by decide, by decide, hnode, n, hn, harrives⟩
  · have hfirst : task.directoryName.head? = some 'f' := rfl
    have hanchor : (f.room sys task).parent.anchor =
        (Path.ofText (sys.scratch.directory f.scratchDir)).anchor :=
      anchorOf_pathIn hempty hfirst (by decide)
    have hparent : (f.room sys task).parent = .ofText (sys.scratch.directory f.scratchDir) :=
      congrArg₂ Path.mk hanchor hnames
    rwa [hparent] at hfind

/-- The staged file is the only thing in a task's directory. -/
theorem housed_of_writeSource {task : Task} (hrooted : opened.Rooted) (hslash : '/' ∉ task.ending)
    (hvacant : opened.vacancy (f.room sys task) = .ok (task.place base))
    (hscratch : opened.find (.ofText (sys.scratch.directory f.scratchDir)) =
      .ok (base, .directory))
    (hwrite : writeSource (task.file (f.room sys task)) task.source.text
      (opened.set (task.place base) .directory) = .ok staged) :
    Home opened (f.room sys task) (task.place base) staged ∧ f.Housed sys task opened staged base := by
  have hname : (f.room sys task).name ≠ ['.'] := name_room_ne hslash
  have hplace : task.place base ≠ [] := by simp [Task.place]
  have hmade : Home opened (f.room sys task) (task.place base)
      (opened.set (task.place base) .directory) := .of_vacancy hrooted hvacant
  have hfree : (opened.set (task.place base) .directory).node?
      (task.place base ++ [fileName task]) = none := by
    rw [Tree.node?_set_of_ne hplace (by simp)]
    exact hmade.none_below hrooted (List.prefix_append ..)
  have hfind := hmade.find hrooted hname
  have hstaged : staged = (opened.set (task.place base) .directory).set
      (task.place base ++ [fileName task]) (.file (Utf8.encode task.source.text)) := by
    rcases writeSource_alike task.source.text hfind hfree hfind hfree with
      ⟨fault, hfault, -⟩ | ⟨hwritten, -⟩
    · cases hfault.symm.trans hwrite
    · exact (Except.ok.inj (hwritten.symm.trans hwrite)).symm
  have home : Home opened (f.room sys task) (task.place base) staged :=
    hstaged ▸ hmade.set_file _ _
  refine ⟨home, hscratch, fun l => home.none_below hrooted, ?_, fun l hl hnode => ?_,
    home.outside⟩
  · -- the path of the file goes through the directory
    obtain ⟨l, -, -, hset⟩ := Tree.exists_writeFile_eq (name_stagedFile_ne _ _)
      (writeFile_of_writeSource hwrite)
    have hfile := (hset (Utf8.encode task.source.text)).2
    obtain rfl := Except.ok.inj ((hset _).1.symm.trans (writeFile_of_writeSource hwrite))
    obtain ⟨-, -, -, n, -, harrives⟩ := Tree.find_eq_ok_iff.mp hfile
    obtain ⟨-, -, -, m, -, habove⟩ := Tree.find_eq_ok_iff.mp (home.find hrooted hname)
    obtain ⟨mid, m', k, hmid, hlast, -⟩ := harrives.of_append rfl
    obtain ⟨rfl, -⟩ := hmid.unique habove
    have hl : l = task.place base ++ [fileName task] :=
      hlast.eq_of_name (isName_sol _) (home.plain _ (List.prefix_append ..))
    rwa [hl] at hfile ⊢
  · rw [hstaged, Tree.node?_set (by simp)] at hnode
    by_cases hfile : l = task.place base ++ [fileName task]
    · exact .inr hfile
    · rw [if_neg hfile, Tree.node?_set hplace] at hnode
      by_cases hroom : l = task.place base
      · exact .inl hroom
      · rw [if_neg hroom] at hnode
        exact absurd (home.none_below hrooted hl) hnode

/-- **A source that is staged is housed on its own**, under one of the names that are tried. -/
theorem exists_housed {file : Path} (ht : t.Rooted) (hslash : ∀ e ∈ sys.scratch.endings, '/' ∉ e)
    (h : f.stage sys.scratch t source.text contractName = .ok (directory, file, staged)) :
    ∃ opened base, ∃ ending ∈ sys.scratch.endings,
      let task : Task := ⟨source, contractName, ending⟩
      openScratch f.scratchDir t = .ok opened ∧ directory = f.room sys task ∧
        file = task.file directory ∧ Home opened directory (task.place base) staged ∧
        f.Housed sys task opened staged base := by
  have hends := stagingEnds f sys.scratch t source.text contractName
  rw [h] at hends
  cases hends with
  | @staged opened made _ _ hopen hmake hwrite =>
      have hrooted : opened.Rooted := rooted_of_openScratch ht hopen
      obtain ⟨ending, hending, rfl⟩ := exists_task_of_createDirectory source hmake
      obtain ⟨hname, place, rfl, home⟩ := exists_home_of_createDirectory hrooted hmake
      obtain ⟨base, rfl, hscratch⟩ := exists_find_scratch (hslash ending hending) home.vacant
      obtain ⟨home', housed⟩ :=
        housed_of_writeSource hrooted (hslash ending hending) home.vacant hscratch hwrite
      exact ⟨opened, base, ending, hending, hopen, rfl, rfl, home', housed⟩

/-! ## What is left -/

/-- A source that cannot be staged leaves nothing behind but what opening the scratch directory
does. -/
theorem node?_of_stage_error {fault : Fault} {left : Tree} (ht : t.Rooted)
    (h : f.stage sys.scratch t source.text contractName = .error (fault, left)) :
    (∃ fault, openScratch f.scratchDir t = .error (fault, left)) ∨
      ∃ opened, openScratch f.scratchDir t = .ok opened ∧ ∀ l, left.node? l = opened.node? l := by
  have hends := stagingEnds f sys.scratch t source.text contractName
  rw [h] at hends
  cases hends with
  | closed hopen => exact .inl ⟨_, hopen⟩
  | full hopen => exact .inr ⟨_, hopen, fun _ => rfl⟩
  | @unwritten opened made directory _ hopen hmake =>
      have hrooted : opened.Rooted := rooted_of_openScratch ht hopen
      obtain ⟨hname, place, rfl, home⟩ := exists_home_of_createDirectory hrooted hmake
      exact .inr ⟨opened, hopen,
        node?_removeDirectory hrooted hname home.vacant home.outside home.directory⟩

/-- The three ways a call can go: there is nothing to stage, it cannot be staged, or it is staged
and the backend is asked. -/
theorem flattenLeaving_cases (f : Flattener) (sys : System) (traces : Traces) (t : Tree)
    (source : ContractSource) (contractName : Text) :
    let call := f.flattenLeaving sys traces t source contractName
    (Solidity.imports source.text = [] ∧ call.staged = none ∧ call.tree = t) ∨
    (call.staged = none ∧ ∃ fault,
      f.stage sys.scratch t source.text contractName = .error (fault, call.tree)) ∨
    ∃ directory file staged,
      f.stage sys.scratch t source.text contractName = .ok (directory, file, staged) ∧
        call.staged = some file ∧
        call.tree = removeDirectory directory (traces staged file (.ofLocation f.importRoot)) := by
  by_cases himports : Solidity.imports source.text = []
  · have hcall : f.flattenLeaving sys traces t source contractName =
        ⟨.ok (.untouched source), none, t⟩ := by
      rw [flattenLeaving, flatten_of_no_imports f sys t contractName himports]
    rw [hcall]
    exact .inl ⟨himports, rfl, rfl⟩
  cases hstage : f.stage sys.scratch t source.text contractName with
  | error e =>
      obtain ⟨fault, left⟩ := e
      have hcall : f.flattenLeaving sys traces t source contractName =
          ⟨.ok (.failed source fault.describe), none, left⟩ := by
        simp only [flattenLeaving, flatten, if_neg himports, hstage]
      rw [hcall]
      exact .inr (.inl ⟨rfl, fault, rfl⟩)
  | ok place =>
      obtain ⟨directory, file, staged⟩ := place
      have hstaged : (f.flatten sys t source contractName).staged = some file := by
        simp only [flatten, if_neg himports, hstage]
        cases f.backend.flatten sys.run staged file (.ofLocation f.importRoot) <;> rfl
      refine .inr (.inr ⟨directory, file, staged, rfl, ?_⟩)
      simp only [flattenLeaving, hstaged, hstage]
      exact ⟨trivial, trivial⟩

/-- Opening a scratch directory that is there, or none, changes nothing. -/
theorem openScratch_of_isDirectory (s : Scratch)
    (h : f.scratchDir = none ∨ t.isDirectory (.ofText (s.directory f.scratchDir)) = .ok true) :
    openScratch f.scratchDir t = .ok t := by
  cases hd : f.scratchDir with
  | none => rfl
  | some d =>
      rw [hd] at h
      obtain ⟨l, hfind⟩ := Tree.isDirectory_iff.mp (h.resolve_left nofun)
      exact Tree.makeDirectories_of_find (name_ofText_ne d) hfind

/-- In a scratch directory that had to be made nothing is, if its path does not go up. -/
theorem node?_below_of_openScratch {d : Text} (ht : t.Rooted)
    (hup : ['.', '.'] ∉ (Path.ofText d).names) (hnot : t.isDirectory (.ofText d) ≠ .ok true)
    (hopen : openScratch (some d) t = .ok opened)
    (hfind : opened.find (.ofText d) = .ok (base, .directory)) {l : Location} (hl : base <+: l)
    (hne : l ≠ base) : opened.node? l = none := by
  rcases (Tree.makes_of_makeDirectoriesUp hopen).new_above ht (proper_ofText hup) hfind with
    rfl | ⟨hfree, hchanged⟩
  · exact absurd (Tree.isDirectory_iff.mpr ⟨base, hfind⟩) hnot
  · by_contra hnode
    have hnone : t.node? l = none := ht.node?_eq_none_of_below hfree hl
    have hlength := (hchanged l (by rwa [hnone])).length_le
    exact hne (hl.eq_of_length_le hlength).symm

/-- A tree is what making the scratch directory leaves, whether it can be made or not. -/
def LeftByOpening (f : Flattener) (t left : Tree) : Prop :=
  openScratch f.scratchDir t = .ok left ∨
    ∃ fault, openScratch f.scratchDir t = .error (fault, left)

/-- **What a call leaves** is what opening the scratch directory does, if it has anything to do. -/
theorem node?_flattenLeaving (f : Flattener) {traces : Traces} (ht : t.Rooted)
    (hslash : ∀ e ∈ sys.scratch.endings, '/' ∉ e) (htraces : traces.StayInside)
    (source : ContractSource) (contractName : Text) :
    let call := f.flattenLeaving sys traces t source contractName
    (Solidity.imports source.text = [] ∧ ∀ l, call.tree.node? l = t.node? l) ∨
      ∃ left, f.LeftByOpening t left ∧ ∀ l, call.tree.node? l = left.node? l := by
  intro call
  rcases flattenLeaving_cases f sys traces t source contractName with
    ⟨himports, -, htree⟩ | ⟨-, fault, hstage⟩ | ⟨directory, file, staged, hstage, -, htree⟩
  · exact .inl ⟨himports, fun l => by rw [htree]⟩
  · refine .inr ?_
    rcases node?_of_stage_error ht hstage with ⟨fault, hopen⟩ | ⟨opened, hopen, hsame⟩
    · exact ⟨_, .inr ⟨fault, hopen⟩, fun _ => rfl⟩
    · exact ⟨opened, .inl hopen, hsame⟩
  · obtain ⟨opened, base, ending, hending, hopen, rfl, rfl, home, -⟩ :=
      exists_housed ht hslash hstage
    have hrooted : opened.Rooted := rooted_of_openScratch ht hopen
    let task : Task := ⟨source, contractName, ending⟩
    have hname : (f.room sys task).name ≠ ['.'] := name_room_ne (hslash ending hending)
    have hparent : staged.find (task.file (f.room sys task)).parent =
        .ok (task.place base, .directory) := by
      rw [Task.file, parent_stagedFile]
      exact home.find hrooted hname
    have hsame := htraces staged _ (.ofLocation f.importRoot) _ hparent
    refine .inr ⟨opened, .inl hopen, fun l => ?_⟩
    rw [htree]
    refine node?_removeDirectory hrooted hname home.vacant (fun k hk => ?_) ?_ l
    · rw [hsame k fun hbelow => absurd hbelow hk, home.outside k hk]
    · rw [hsame _ fun _ => rfl, home.directory]

/-- Nothing is left if opening the scratch directory changes nothing. -/
theorem LeftByOpening.eq {left : Tree} (h : f.LeftByOpening t left)
    (hopen : openScratch f.scratchDir t = .ok t) : left = t := by
  rcases h with h | ⟨fault, h⟩
  · exact (Except.ok.inj (hopen.symm.trans h)).symm
  · cases hopen.symm.trans h

/-- A scratch directory that is found afterwards and was not there is empty, if its path does not go
up. -/
theorem LeftByOpening.node?_below {left : Tree} (h : f.LeftByOpening t left) (ht : t.Rooted)
    {s : Scratch}
    (hnot : t.isDirectory (.ofText (s.directory f.scratchDir)) ≠ .ok true)
    (hup : ['.', '.'] ∉ (Path.ofText (s.directory f.scratchDir)).names)
    (hfind : left.find (.ofText (s.directory f.scratchDir)) = .ok (base, .directory))
    {l : Location} (hl : base <+: l) (hne : l ≠ base) : left.node? l = none := by
  rcases h with hopen | ⟨fault, hopen⟩
  · cases hd : f.scratchDir with
    | none =>
        rw [hd] at hopen
        obtain rfl := Except.ok.inj hopen
        exact absurd (Tree.isDirectory_iff.mpr ⟨base, hfind⟩) hnot
    | some d =>
        rw [hd] at hopen hnot hup hfind
        exact node?_below_of_openScratch ht hup hnot hopen hfind hl hne
  · -- it was refused, and so it is not found
    obtain ⟨fault', hagain⟩ := openScratch_again hopen
    exact absurd hfind (find_ne_of_openScratch hagain s base)

/-! ## The result -/

/-- **Staging is contained and leaves nothing behind**, whatever the contract's name and the source
are, whatever comes of the call, and whatever a backend writes into the call's directory. The file
that the backend is given stands alone in a directory that is new, directly in the scratch directory,
and it holds the text; both have the contract's name, made into word characters.

Afterwards the tree is what it was except for what making the scratch directory leaves. So nothing
has changed if the scratch directory was there or none is configured; and one that had to be made has
no entries, unless its path goes up. -/
theorem staging_contained {traces : Traces} (ht : t.Rooted)
    (hslash : ∀ e ∈ sys.scratch.endings, '/' ∉ e) (htraces : traces.StayInside)
    (source : ContractSource) (contractName : Text) :
    let call := f.flattenLeaving sys traces t source contractName
    let scratch := Path.ofText (sys.scratch.directory f.scratchDir)
    (safeName contractName ≠ [] ∧ ∀ c ∈ safeName contractName, Text.isWord c) ∧
    (∀ file, call.staged = some file → ∃ opened staged base, ∃ ending ∈ sys.scratch.endings,
      let task : Task := ⟨source, contractName, ending⟩
      openScratch f.scratchDir t = .ok opened ∧ file = task.file (f.room sys task) ∧
        f.stage sys.scratch t source.text contractName = .ok (f.room sys task, file, staged) ∧
        f.Housed sys task opened staged base) ∧
    ((∀ l, call.tree.node? l = t.node? l) ∨
      ∃ left, f.LeftByOpening t left ∧ ∀ l, call.tree.node? l = left.node? l) ∧
    (f.scratchDir = none ∨ t.isDirectory scratch = .ok true →
      ∀ l, call.tree.node? l = t.node? l) ∧
    (t.isDirectory scratch ≠ .ok true → ['.', '.'] ∉ scratch.names → ∀ base,
      call.tree.find scratch = .ok (base, .directory) →
        ∀ l, base <+: l → l ≠ base → call.tree.node? l = none) := by
  intro call scratch
  have hleft := (node?_flattenLeaving f ht hslash htraces source contractName).imp_left And.right
  refine ⟨⟨safeName_ne_nil contractName, fun c => isWord_of_mem_safeName⟩, fun file hfile => ?_,
    hleft, fun hthere => ?_, fun hnot hup base hfind l hl hne => ?_⟩
  · rcases flattenLeaving_cases f sys traces t source contractName with
      ⟨-, hnone, -⟩ | ⟨hnone, -⟩ | ⟨directory, file', staged, hstage, hstaged, -⟩
    · cases hfile.symm.trans hnone
    · cases hfile.symm.trans hnone
    · obtain rfl := Option.some.inj (hfile.symm.trans hstaged)
      obtain ⟨opened, base, ending, hending, hopen, rfl, rfl, -, housed⟩ :=
        exists_housed ht hslash hstage
      exact ⟨opened, staged, base, ending, hending, hopen, rfl, hstage, housed⟩
  · rcases hleft with hsame | ⟨left, hleft, hsame⟩
    · exact hsame
    · rw [hleft.eq (openScratch_of_isDirectory sys.scratch hthere)] at hsame
      exact hsame
  · rcases hleft with hsame | ⟨left, hleft, hsame⟩
    · rw [Tree.find_congr hsame] at hfind
      exact absurd (Tree.isDirectory_iff.mpr ⟨base, hfind⟩) hnot
    · rw [Tree.find_congr hsame] at hfind
      rw [hsame, hleft.node?_below ht hnot hup hfind hl hne]

/-! ## A backend that writes, and a scratch directory that goes up -/

/-- The traces of a backend that writes a file beside the one it is given. -/
def besides : Traces := fun t file _ =>
  match t.find file.parent with
  | .ok (l, _) => t.set (l ++ ["out".toList]) (.file [])
  | .error _ => t

theorem stayInside_besides : besides.StayInside := by
  intro t file importRoot place hfind l hl
  have hne : l ≠ place ++ ["out".toList] := by
    rintro rfl
    have hsame := hl (List.prefix_append ..)
    simp at hsame
  rw [besides, hfind]
  show (t.set (place ++ ["out".toList]) (.file [])).node? l = _
  rw [Tree.node?_set_of_ne (by simp) hne]

/-- A contract whose name is a path is staged under another name. -/
theorem isOk_stage_guest (r : Registry) :
    safeName "../M".toList = "___M".toList ∧
      ((leaving r).stage plainSystem.scratch plainTree guest.text "../M".toList).isOk := by
  have hsafe : safeName "../M".toList = "___M".toList := by decide +kernel
  refine ⟨hsafe, ?_⟩
  rw [stage, hsafe]
  cbv

/-- And nothing is left of it. -/
theorem guest_contained :
    let call := (leaving .builtIn).flattenLeaving plainSystem besides plainTree guest "../M".toList
    plainTree.Rooted ∧ (∀ e ∈ plainSystem.scratch.endings, '/' ∉ e) ∧ besides.StayInside ∧
      (∃ file, call.staged = some file ∧ file.name = "___M.sol".toList) ∧
      ∀ l, call.tree.node? l = plainTree.node? l := by
  intro call
  have hrooted : plainTree.Rooted := Tree.rooted_of_entries (by decide)
  have hslash : ∀ e ∈ plainSystem.scratch.endings, '/' ∉ e := by decide
  obtain ⟨-, hstaged, -, hthere, -⟩ := staging_contained (f := leaving .builtIn) hrooted hslash
    stayInside_besides guest "../M".toList
  obtain ⟨hsafe, hstage⟩ := isOk_stage_guest .builtIn
  refine ⟨hrooted, hslash, stayInside_besides, ?_, hthere (.inl rfl)⟩
  rcases flattenLeaving_cases (leaving .builtIn) plainSystem besides plainTree guest
    "../M".toList with ⟨hnone, -⟩ | ⟨-, fault, hfault⟩ | ⟨directory, file, staged, -, hfile, -⟩
  · exact absurd hnone imports_guest
  · rw [hfault] at hstage
    cases hstage
  · obtain ⟨opened, staged, base, ending, -, -, rfl, -⟩ := hstaged file hfile
    refine ⟨_, hfile, ?_⟩
    rw [Task.file, name_stagedFile, hsafe]
    rfl

/-- A scratch directory that was there has one entry more afterwards: the directory that its path
leads through. -/
theorem upward_leaves_entry :
    let call := upward.flatten plainSystem bareTree alone []
    bareTree.find (.ofText "/s".toList) = .ok ([['s']], .directory) ∧
      call.tree.find (.ofText (plainSystem.scratch.directory upward.scratchDir)) =
        .ok ([['s']], .directory) ∧
      bareTree.node? [['s'], ['x']] = none ∧ call.tree.node? [['s'], ['x']] = some .directory := by
  intro call
  have hrooted : bareTree.Rooted := Tree.rooted_of_entries (by decide)
  have hsame : ∀ l, call.tree.node? l = (bareTree.set [['s'], ['x']] .directory).node? l := by
    have hnothing : Traces.StayInside fun t _ _ => t := fun _ _ _ _ _ _ _ => rfl
    have hslash : ∀ e ∈ plainSystem.scratch.endings, '/' ∉ e := by decide
    have hleft := node?_flattenLeaving upward hrooted hslash hnothing alone []
    rw [flattenLeaving_nothing] at hleft
    rcases hleft with ⟨hnone, -⟩ | ⟨left, hopen | ⟨fault, hopen⟩, hsame⟩
    · exact absurd hnone (imports_pair false)
    · obtain rfl := Except.ok.inj (hopen.symm.trans makeRoom_upward.1)
      exact hsame
    · cases hopen.symm.trans makeRoom_upward.1
  have hfind : (bareTree.set [['s'], ['x']] .directory).find (.ofText "/s/x/..".toList) =
      .ok ([['s']], .directory) := by cbv
  refine ⟨by cbv, ?_, rfl, ?_⟩
  · rw [Tree.find_congr hsame]
    exact hfind
  · rw [hsame]
    rfl

end Flattener

end ContractVerifier
