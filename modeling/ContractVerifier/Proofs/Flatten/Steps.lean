import ContractVerifier.Flatten.Interleaving
import ContractVerifier.Proofs.Files.Directories
import ContractVerifier.Proofs.Flatten.Staging

set_option autoImplicit false

/-! # The steps of a call

A call alone comes through the phases of `Flatten/Interleaving.lean` one after another (`Alone`),
and after five steps it has returned what `Flattener.flatten` gives and left the tree that it leaves
(`advance_iterate_five`).

Each of the steps that use the tree is looked at in two trees: making the directory asks only
whether its place is vacant (`makeRoom_alike`), and writing the source asks only whether its place in
the directory is (`writeSource_alike`).
-/

namespace ContractVerifier

open Flatten

namespace Flatten

variable {t t' : Tree} {place : Location}

/-! ## The path of a call's directory -/

/-- The path of a name in a directory has the names of the directory before it. -/
theorem names_pathIn {name : Text} (hname : Tree.IsName name) (hslash : '/' ∉ name)
    (directory : Text) :
    (Path.ofText (pathIn directory name)).names = (Path.ofText directory).names ++ [name] := by
  have hkeep : [name].filter (fun n => n ≠ [] ∧ n ≠ ['.']) = [name] := by
    simp [hname.1, hname.2.1]
  have hsplit : ∀ before : Text, Path.namesOf (before ++ '/' :: name) =
      Path.namesOf before ++ [name] := by
    intro before
    rw [Path.namesOf, Path.namesOf, Text.split_append, Text.split_of_not_mem hslash,
      List.filter_append, hkeep]
  show Path.namesOf (pathIn directory name) = Path.namesOf directory ++ [name]
  rw [pathIn]
  split
  · -- the slash is there already
    rename_i hlast
    obtain ⟨before, rfl⟩ := List.getLast?_eq_some_iff.mp hlast
    have hbefore : Path.namesOf (before ++ ['/']) = Path.namesOf before := by
      have hnothing : Text.split '/' [] = [[]] := Text.split_of_not_mem (by simp)
      rw [Path.namesOf, Path.namesOf, Text.split_append, List.filter_append, hnothing]
      simp
    rw [hbefore, List.append_assoc]
    exact hsplit before
  · exact hsplit directory

theorem slash_not_mem_safeName (contractName : Text) : '/' ∉ safeName contractName := by
  rw [safeName]
  split
  · simp
  · intro hmem
    obtain ⟨c, -, hc⟩ := List.mem_map.mp hmem
    split at hc
    · rename_i hword
      rw [hc] at hword
      exact absurd hword (by decide)
    · exact absurd hc (by decide)

/-- A fault that names a path as it is written. -/
def complaint (path : Text) : FileFault → FileFault
  | .refused e _ => .refused e path
  | fault => fault

/-- What becomes of making a directory at a path that can be used. -/
theorem makeDirectoryAt_eq {path : Text} (hzero : ¬ path.contains '\x00')
    (hlong : ¬ Tree.maxPath < (Utf8.encode path).length) :
    makeDirectoryAt t path = (t.makeDirectory (.ofText path)).mapError (complaint path) := by
  rw [makeDirectoryAt, if_neg hzero, if_neg hlong]
  cases t.makeDirectory (.ofText path) with
  | ok made => rfl
  | error fault => cases fault <;> rfl

/-- What a call without another name is told when its directory is not made. -/
def refusal : FileFault → Fault
  | .refused .alreadyThere _ => .namesTaken
  | fault => .file fault

namespace Task

variable {task : Task}

theorem isName_directoryName (task : Task) : Tree.IsName task.directoryName := by
  have hlength : 2 < task.directoryName.length := by
    have hbegin : "flatten-".toList.length = 8 := rfl
    unfold directoryName
    rw [List.length_append, List.length_append, hbegin]
    omega
  refine ⟨?_, ?_, ?_⟩
  all_goals
    intro h
    rw [h] at hlength
    simp at hlength

theorem slash_not_mem_directoryName (h : '/' ∉ task.ending) : '/' ∉ task.directoryName := by
  have hbegin : '/' ∉ "flatten-".toList := by decide
  have hsafe : '/' ∉ safeName task.contractName := slash_not_mem_safeName _
  unfold directoryName
  simp only [List.mem_append, List.mem_cons, not_or]
  exact ⟨⟨hbegin, hsafe⟩, by decide, h⟩

end Task

end Flatten

namespace Flattener

variable {f : Flattener} {sys : System} {task : Task} {t t' opened : Tree} {place : Location}
  {directory : Path}

/-- The path of a task's directory. -/
def room (f : Flattener) (sys : System) (task : Task) : Path :=
  .ofText (pathIn (sys.scratch.directory f.scratchDir) task.directoryName)

theorem names_room (h : '/' ∉ task.ending) :
    (f.room sys task).names =
      (Path.ofText (sys.scratch.directory f.scratchDir)).names ++ [task.directoryName] :=
  names_pathIn task.isName_directoryName (task.slash_not_mem_directoryName h) _

theorem name_room (h : '/' ∉ task.ending) : (f.room sys task).name = task.directoryName := by
  rw [Path.name, names_room h, List.getLast?_concat]
  rfl

theorem dropLast_names_room (h : '/' ∉ task.ending) : (f.room sys task).names.dropLast =
    (Path.ofText (sys.scratch.directory f.scratchDir)).names := by
  rw [names_room h, List.dropLast_concat]

/-! ## Making the directory -/

/-- What becomes of making a task's directory in a tree depends on the path's vacant place there, or
the path cannot be used at all. -/
inductive MakesRoom (f : Flattener) (sys : System) (task : Task) : Prop
  | never (fault : Fault) (h : ∀ t, f.makeRoom sys task t = .error fault)
  | inPlace
      (made : ∀ t place, t.vacancy (f.room sys task) = .ok place →
        f.makeRoom sys task t = .ok (f.room sys task, t.set place .directory))
      (taken : ∀ t path, t.vacancy (f.room sys task) = .error (.refused .alreadyThere path) →
        f.makeRoom sys task t = .error .namesTaken)
      (refused : ∀ e, ∃ fault, ∀ t, t.vacancy (f.room sys task) = .error e →
        f.makeRoom sys task t = .error fault)

theorem makeRoom_eq (t : Tree) : f.makeRoom sys task t =
    ((makeDirectoryAt t (pathIn (sys.scratch.directory f.scratchDir)
      task.directoryName)).mapError refusal).map fun made => (f.room sys task, made) := by
  have hname : task.directoryName =
      "flatten-".toList ++ safeName task.contractName ++ '-' :: task.ending := rfl
  rw [makeRoom, createDirectory, room, hname]
  cases makeDirectoryAt t (pathIn (sys.scratch.directory f.scratchDir)
      ("flatten-".toList ++ safeName task.contractName ++ '-' :: task.ending)) with
  | ok made => rfl
  | error fault =>
      cases fault with
      | refused e _ => cases e <;> rfl
      | _ => rfl

theorem makesRoom (f : Flattener) (sys : System) (task : Task) : MakesRoom f sys task := by
  generalize hpath : pathIn (sys.scratch.directory f.scratchDir) task.directoryName = path
  have hroom : f.room sys task = .ofText path := congrArg Path.ofText hpath
  by_cases hzero : path.contains '\x00'
  · refine .never (.file .zeroCharacter) fun t => ?_
    rw [makeRoom_eq, hpath, makeDirectoryAt, if_pos hzero]
    rfl
  by_cases hlong : Tree.maxPath < (Utf8.encode path).length
  · refine .never (.file (.refused .nameTooLong path)) fun t => ?_
    rw [makeRoom_eq, hpath, makeDirectoryAt, if_neg hzero, if_pos hlong]
    rfl
  have hmake : ∀ t, f.makeRoom sys task t =
      (((t.makeDirectory (f.room sys task)).mapError (complaint path)).mapError refusal).map
        fun made => (f.room sys task, made) := by
    intro t
    rw [makeRoom_eq, hpath, makeDirectoryAt_eq hzero hlong, hroom]
  refine .inPlace (fun t place h => ?_) (fun t text h => ?_)
    fun e => ⟨refusal (complaint path e), fun t h => ?_⟩
  all_goals
    rw [hmake, Tree.makeDirectory, h]
    rfl

/-- The directory that is made is at the task's path, in its vacant place. -/
theorem makeRoom_eq_ok (h : f.makeRoom sys task t = .ok (directory, t')) :
    directory = f.room sys task ∧
      ∃ place, t.vacancy (f.room sys task) = .ok place ∧ t' = t.set place .directory := by
  cases makesRoom f sys task with
  | never _ hnever => cases h.symm.trans (hnever t)
  | inPlace made _ refused =>
      cases hvacancy : t.vacancy (f.room sys task) with
      | ok place =>
          obtain ⟨hdirectory, htree⟩ :=
            Prod.mk.inj (Except.ok.inj (h.symm.trans (made t place hvacancy)))
          exact ⟨hdirectory, place, rfl, htree⟩
      | error e =>
          obtain ⟨fault, hfault⟩ := refused e
          cases h.symm.trans (hfault t hvacancy)

/-- **A directory is made in both trees or in none**, with the same fault, if its place is vacant in
both or in none. -/
theorem makeRoom_alike (hused : f.makeRoom sys task t' ≠ .error .namesTaken)
    (h : t'.vacancy (f.room sys task) ≠ .error (.refused .alreadyThere (f.room sys task).text) →
      t'.vacancy (f.room sys task) = t.vacancy (f.room sys task)) :
    (∃ fault, f.makeRoom sys task t' = .error fault ∧ f.makeRoom sys task t = .error fault) ∨
      ∃ place, t'.vacancy (f.room sys task) = .ok place ∧ t.vacancy (f.room sys task) = .ok place ∧
        f.makeRoom sys task t' = .ok (f.room sys task, t'.set place .directory) ∧
          f.makeRoom sys task t = .ok (f.room sys task, t.set place .directory) := by
  cases makesRoom f sys task with
  | never _ hnever => exact .inl ⟨_, hnever t', hnever t⟩
  | inPlace made taken refused =>
      have hsame := h fun hthere => hused (taken t' _ hthere)
      cases hvacancy : t.vacancy (f.room sys task) with
      | ok place =>
          rw [hvacancy] at hsame
          exact .inr ⟨place, hsame, rfl, made t' place hsame, made t place hvacancy⟩
      | error e =>
          rw [hvacancy] at hsame
          obtain ⟨fault, hfault⟩ := refused e
          exact .inl ⟨fault, hfault t' hsame, hfault t hvacancy⟩

/-- If the place is the same, a refusal is. -/
theorem makeRoom_eq_error {fault : Fault}
    (h : t'.vacancy (f.room sys task) = t.vacancy (f.room sys task))
    (hfault : f.makeRoom sys task t' = .error fault) : f.makeRoom sys task t = .error fault := by
  cases makesRoom f sys task with
  | never fault' hnever => rw [hnever, ← hnever t', hfault]
  | inPlace made taken refused =>
      cases hvacancy : t.vacancy (f.room sys task) with
      | ok place => cases hfault.symm.trans (made t' place (h.trans hvacancy))
      | error e =>
          obtain ⟨fault', hsame⟩ := refused e
          rw [hsame t hvacancy, ← hsame t' (h.trans hvacancy), hfault]

/-! ## Writing the source -/

/-- The name of a task's file. -/
def fileName (task : Task) : Text := safeName task.contractName ++ ".sol".toList

/-- What becomes of writing a task's file that is not there yet. -/
theorem writeSource_eq (text : Text) (hfind : t.find directory = .ok (place, .directory))
    (hfree : t.node? (place ++ [fileName task]) = none) :
    writeSource (task.file directory) text t =
      if (task.file directory).text.contains '\x00' then .error (.file .zeroCharacter)
      else if Tree.maxPath < (Utf8.encode (task.file directory).text).length then
        .error (.file (.refused .nameTooLong (task.file directory).text))
      else if Tree.maxName < (Utf8.encode (task.file directory).name).length then
        .error (.file (.refused .nameTooLong (task.file directory).text))
      else
        match Unencodable.find? .utf8 text with
        | some u => .error (.unencodable u)
        | none => .ok (t.set (place ++ [fileName task]) (.file (Utf8.encode text))) := by
  obtain ⟨-, -, hplace, n, hn, harrives⟩ := Tree.find_eq_ok_iff.mp hfind
  have hname : (task.file directory).name = fileName task := name_stagedFile directory _
  have hisName : Tree.IsName (task.file directory).name := hname ▸ isName_sol _
  have habove : (task.file directory).names.dropLast = directory.names := List.dropLast_concat
  rw [← habove] at harrives
  rw [← hname] at hfree
  have hwhere := Tree.find_eq_of_free harrives hn hplace hisName hfree
  have hvacancy := Tree.vacancy_eq harrives hn hplace hisName
  simp only [hfree, Option.isSome_none, Bool.false_eq_true, if_false] at hvacancy
  rw [writeSource, Tree.writeFile, hwhere]
  -- what is refused is refused when the file is looked for, and otherwise it is not found
  split_ifs with hzero hlong hshort
  · rfl
  · rfl
  · rfl
  · rw [if_neg hzero, if_neg hlong, if_neg hshort] at hvacancy
    simp only [hvacancy, hname]
    rfl

/-- **A file is written in both trees or in none**, with the same fault. -/
theorem writeSource_alike (text : Text) (hfind : t.find directory = .ok (place, .directory))
    (hfree : t.node? (place ++ [fileName task]) = none)
    (hfind' : t'.find directory = .ok (place, .directory))
    (hfree' : t'.node? (place ++ [fileName task]) = none) :
    (∃ fault, writeSource (task.file directory) text t' = .error fault ∧
        writeSource (task.file directory) text t = .error fault) ∨
      writeSource (task.file directory) text t' =
          .ok (t'.set (place ++ [fileName task]) (.file (Utf8.encode text))) ∧
        writeSource (task.file directory) text t =
          .ok (t.set (place ++ [fileName task]) (.file (Utf8.encode text))) := by
  rw [writeSource_eq text hfind hfree, writeSource_eq text hfind' hfree']
  split_ifs
  · exact .inl ⟨_, rfl, rfl⟩
  · exact .inl ⟨_, rfl, rfl⟩
  · exact .inl ⟨_, rfl, rfl⟩
  · split
    · exact .inl ⟨_, rfl, rfl⟩
    · exact .inr ⟨rfl, rfl⟩

/-! ## A call alone -/

/-- Staging, step by step. -/
theorem stage_system (hopen : openScratch f.scratchDir t = .ok opened) :
    f.stage (task.system sys).scratch t task.source.text task.contractName =
      match f.makeRoom sys task opened with
      | .error fault => .error (fault, opened)
      | .ok (directory, made) =>
        match writeSource (task.file directory) task.source.text made with
        | .error fault => .error (fault, removeDirectory directory made)
        | .ok staged => .ok (directory, task.file directory, staged) := by
  unfold stage
  simp only [hopen]
  rfl

/-- What a call comes to that nobody disturbs: its phase and the tree then. -/
inductive Alone (f : Flattener) (sys : System) (task : Task) (t : Tree) : Phase → Tree → Prop
  | begun : Alone f sys task t .begun t
  | opened {opened : Tree} (imports : Solidity.imports task.source.text ≠ [])
      (opens : openScratch f.scratchDir t = .ok opened) : Alone f sys task t .opened opened
  | made {opened made : Tree} {directory : Path} (before : Alone f sys task t .opened opened)
      (makes : f.makeRoom sys task opened = .ok (directory, made)) :
      Alone f sys task t (.made directory) made
  | unwritten {made : Tree} {directory : Path} {fault : Fault}
      (before : Alone f sys task t (.made directory) made)
      (writes : writeSource (task.file directory) task.source.text made = .error fault) :
      Alone f sys task t (.answered directory (.error fault)) made
  | staged {made staged : Tree} {directory : Path}
      (before : Alone f sys task t (.made directory) made)
      (writes : writeSource (task.file directory) task.source.text made = .ok staged) :
      Alone f sys task t (.staged directory) staged
  | answered {staged : Tree} {directory : Path}
      (before : Alone f sys task t (.staged directory) staged) :
      Alone f sys task t (.answered directory (f.ask sys task directory staged)) staged
  | returned : Alone f sys task t
      (.returned (f.flatten (task.system sys) t task.source task.contractName).result)
      (f.flatten (task.system sys) t task.source task.contractName).tree

namespace Alone

variable {phase : Phase} {own : Tree}

/-- What was made is the task's directory, in its vacant place. -/
theorem exists_of_made (h : Alone f sys task t (.made directory) own) :
    ∃ opened place, Solidity.imports task.source.text ≠ [] ∧
      openScratch f.scratchDir t = .ok opened ∧ directory = f.room sys task ∧
      f.makeRoom sys task opened = .ok (directory, own) ∧
      opened.vacancy (f.room sys task) = .ok place ∧ own = opened.set place .directory := by
  cases h with
  | made before makes =>
      cases before with
      | opened himports hopen =>
          obtain ⟨hdirectory, place, hvacancy, hmade⟩ := makeRoom_eq_ok makes
          exact ⟨_, place, himports, hopen, hdirectory, makes, hvacancy, hmade⟩

/-- Staging ends like this if the source can be written. -/
theorem stage_eq (h : Alone f sys task t (.staged directory) own) :
    f.stage (task.system sys).scratch t task.source.text task.contractName =
      .ok (directory, task.file directory, own) := by
  cases h with
  | staged before writes =>
      obtain ⟨opened, place, -, hopen, -, makes, -⟩ := before.exists_of_made
      simp only [stage_system hopen, makes, writes]

theorem returned_of_flatten_eq (call : Call)
    (h : f.flatten (task.system sys) t task.source task.contractName = call) :
    Alone f sys task t (.returned call.result) call.tree :=
  h ▸ .returned

/-- A call returns what flattening gives. -/
theorem result_eq {result : Except Fault FlattenResult}
    (h : Alone f sys task t (.returned result) own) :
    result = (f.flatten (task.system sys) t task.source task.contractName).result := by
  cases h
  rfl

/-- A call fails if its source is not staged. -/
theorem returned_of_stage_eq_error {fault : Fault}
    (himports : Solidity.imports task.source.text ≠ [])
    (h : f.stage (task.system sys).scratch t task.source.text task.contractName =
      .error (fault, own)) :
    Alone f sys task t (.returned (.ok (.failed task.source fault.describe))) own := by
  refine returned_of_flatten_eq ⟨_, none, own⟩ ?_
  rw [flatten, if_neg himports, h]

/-- **A step of a call alone** leads to the next phase. -/
theorem advance (h : Alone f sys task t phase own) :
    Alone f sys task t (f.advance sys task (phase, own)).1 (f.advance sys task (phase, own)).2 := by
  cases h with
  | begun =>
      rw [Flattener.advance]
      by_cases himports : Solidity.imports task.source.text = []
      · rw [if_pos himports]
        refine returned_of_flatten_eq ⟨_, none, t⟩ ?_
        rw [flatten, if_pos himports]
      · rw [if_neg himports]
        cases hopen : openScratch f.scratchDir t with
        | error refusal =>
            obtain ⟨e, left⟩ := refusal
            refine returned_of_stage_eq_error himports ?_
            unfold stage
            simp only [hopen]
        | ok opened => exact .opened himports hopen
  | opened himports hopen =>
      rw [Flattener.advance]
      cases hmake : f.makeRoom sys task own with
      | error fault =>
          refine returned_of_stage_eq_error himports ?_
          simp only [stage_system hopen, hmake]
      | ok room =>
          obtain ⟨directory, made⟩ := room
          exact .made (.opened himports hopen) hmake
  | @made _ _ directory before makes =>
      rw [Flattener.advance]
      cases hwrite : writeSource (task.file directory) task.source.text own with
      | error fault => exact .unwritten (.made before makes) hwrite
      | ok staged => exact .staged (.made before makes) hwrite
  | unwritten before writes =>
      rw [Flattener.advance]
      obtain ⟨opened, place, himports, hopen, -, makes, -⟩ := before.exists_of_made
      refine returned_of_stage_eq_error himports ?_
      simp only [stage_system hopen, makes, writes]
  | staged before writes => exact .answered (.staged before writes)
  | @answered _ directory before =>
      rw [Flattener.advance]
      have himports : Solidity.imports task.source.text ≠ [] := by
        cases before with
        | staged before _ =>
            obtain ⟨-, -, himports, -⟩ := before.exists_of_made
            exact himports
      have hflatten : f.flatten (task.system sys) t task.source task.contractName =
          ⟨f.conclude task (f.ask sys task directory own), some (task.file directory),
            removeDirectory directory own⟩ := by
        have hask : f.backend.flatten (task.system sys).run own (task.file directory)
            (.ofLocation f.importRoot) = f.ask sys task directory own := rfl
        rw [flatten, if_neg himports, before.stage_eq]
        simp only [hask]
        cases f.ask sys task directory own <;> rfl
      exact returned_of_flatten_eq _ hflatten
  | returned => exact .returned

end Alone

/-! ## The number of steps -/

end Flattener

namespace Flatten

/-- How many steps it takes to a phase. -/
def Phase.rank : Phase → Nat
  | begun => 0
  | opened => 1
  | made _ => 2
  | staged _ => 3
  | answered .. => 4
  | returned _ => 5

theorem Phase.exists_of_rank {phase : Phase} (h : 5 ≤ phase.rank) :
    ∃ result, phase = .returned result := by
  cases phase with
  | returned result => exact ⟨result, rfl⟩
  | begun => exact absurd h (by decide)
  | opened => exact absurd h (by decide)
  | _ => exact absurd h (by simp [rank])

end Flatten

namespace Flattener

/-- A step leads to a later phase, as long as there is one. -/
theorem rank_advance (f : Flattener) (sys : System) (task : Task) (phase : Phase) (t : Tree) :
    min 5 (phase.rank + 1) ≤ (f.advance sys task (phase, t)).1.rank := by
  cases phase with
  | begun =>
      rw [advance]
      split
      · exact Nat.min_le_left ..
      · split
        · exact Nat.min_le_left ..
        · exact Nat.min_le_right ..
  | opened =>
      rw [advance]
      split
      · exact Nat.min_le_left ..
      · exact Nat.min_le_right ..
  | made =>
      rw [advance]
      split
      · show min 5 3 ≤ 4
        omega
      · exact Nat.min_le_right ..
  | staged => exact Nat.min_le_right ..
  | answered => exact Nat.min_le_right ..
  | returned => exact Nat.min_le_left ..

variable {f : Flattener} {sys : System} {task : Task} {t : Tree}

theorem Alone.iterate (f : Flattener) (sys : System) (task : Task) (t : Tree) (n : Nat) :
    Alone f sys task t ((f.advance sys task)^[n] (.begun, t)).1
      ((f.advance sys task)^[n] (.begun, t)).2 := by
  induction n with
  | zero => exact .begun
  | succ n ih =>
      rw [Function.iterate_succ_apply']
      exact ih.advance

theorem rank_iterate (f : Flattener) (sys : System) (task : Task) (s : Phase × Tree) (n : Nat) :
    min 5 n ≤ ((f.advance sys task)^[n] s).1.rank := by
  induction n with
  | zero => exact Nat.zero_le _
  | succ n ih =>
      have hstep : min 5 (((f.advance sys task)^[n] s).1.rank + 1) ≤
          (f.advance sys task ((f.advance sys task)^[n] s)).1.rank :=
        rank_advance f sys task _ _
      rw [Function.iterate_succ_apply']
      omega

/-- **Five steps are a whole call.** -/
theorem advance_iterate_five (f : Flattener) (sys : System) (task : Task) (t : Tree) :
    (f.advance sys task)^[5] (.begun, t) =
      (.returned (f.flatten (task.system sys) t task.source task.contractName).result,
        (f.flatten (task.system sys) t task.source task.contractName).tree) := by
  have halone := Alone.iterate f sys task t 5
  obtain ⟨result, hresult⟩ := Phase.exists_of_rank (rank_iterate f sys task (.begun, t) 5)
  generalize (f.advance sys task)^[5] (.begun, t) = s at halone hresult
  obtain ⟨phase, own⟩ := s
  obtain rfl : phase = .returned result := hresult
  cases halone
  rfl

end Flattener

end ContractVerifier
