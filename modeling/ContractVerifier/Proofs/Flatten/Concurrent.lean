import ContractVerifier.Proofs.Flatten.Dangling
import ContractVerifier.Proofs.Flatten.Neighbours

set_option autoImplicit false

/-! # Calls do not disturb each other

Whatever the order in which calls take their steps, every one of them comes to what it comes to
alone (`Interleaving.exists_together`), and after five steps it has returned. Hence all calls return
what they return alone, and the scratch directory has the entries again that it had, if it was there
or its path does not go up: `interleaving_undisturbed`.

If the scratch directory cannot be made, no call gets further, and the sources stay as they are.
What was made on the way stays, and so a call can complain of another path than it does alone
(`calls_can_differ`).
-/

namespace ContractVerifier.Flatten

variable {ι : Type} [DecidableEq ι] {f : Flattener} {sys : System} {tasks : ι → Task}
  {t opened left : Tree} {base : Location} {schedule : List ι} {c : Calls ι} {own : ι → Tree}

/-! ## Runs -/

/-- **All calls come to what they come to alone**, in any order of their steps. -/
theorem Interleaving.exists_together (h : Interleaving f sys tasks t schedule c)
    (site : Site f sys tasks t opened base) (hbackend : ∀ k, f.Undisturbed sys t (tasks k)) :
    ∃ own, Together f sys tasks t opened base c own := by
  induction h with
  | start => exact ⟨fun _ => t, fun _ => .begun, .unopened rfl fun _ => .inl rfl⟩
  | move k _ unused ih =>
      obtain ⟨own, htogether⟩ := ih
      exact ⟨_, htogether.move site (hbackend k) unused⟩

/-- A call that takes steps gets on. -/
theorem Interleaving.rank_le (h : Interleaving f sys tasks t schedule c) (k : ι) :
    min 5 (schedule.count k) ≤ (c.phase k).rank := by
  induction h with
  | start => exact Nat.zero_le _
  | @move schedule c j _ _ ih =>
      rw [List.count_append]
      by_cases hjk : k = j
      · have hstep := f.rank_advance sys (tasks j) (c.phase j) c.tree
        rw [hjk] at ih ⊢
        rw [Calls.phase_move_self, List.count_singleton_self]
        omega
      · rw [Calls.phase_move_of_ne hjk, List.count_singleton, beq_false_of_ne (Ne.symm hjk)]
        exact ih

/-- A call that takes no step is where it was. -/
theorem Interleaving.phase_of_not_mem (h : Interleaving f sys tasks t schedule c) {k : ι}
    (hk : k ∉ schedule) : c.phase k = .begun := by
  induction h with
  | start => rfl
  | move j _ _ ih =>
      rw [List.mem_append, List.mem_singleton, not_or] at hk
      rw [Calls.phase_move_of_ne hk.2]
      exact ih hk.1

/-- When all calls that take steps have returned, the others have not begun. -/
theorem Interleaving.finished (h : Interleaving f sys tasks t schedule c)
    (hreturned : ∀ k ∈ schedule, ∃ result, c.phase k = .returned result) (k : ι) :
    c.phase k = .begun ∨ ∃ result, c.phase k = .returned result := by
  by_cases hk : k ∈ schedule
  · exact .inr (hreturned k hk)
  · exact .inl (h.phase_of_not_mem hk)

/-! ## A scratch directory that cannot be made -/

/-- It cannot be made afterwards either. -/
theorem openScratch_again {configured : Option Text} {fault : FileFault}
    (h : openScratch configured t = .error (fault, left)) :
    ∃ fault', openScratch configured left = .error (fault', left) := by
  unfold openScratch at h ⊢
  split at h
  · exact Tree.makeDirectories_again (Path.dot_not_mem_ofText _) h
  · cases h

/-- A call alone fails with the reason, if it has anything to do. -/
theorem result_of_refused {fault : FileFault} (task : Task)
    (hopen : openScratch f.scratchDir t = .error (fault, left)) :
    (f.flatten (task.system sys) t task.source task.contractName).result =
      if Solidity.imports task.source.text = [] then .ok (.untouched task.source)
      else .ok (.failed task.source (Fault.file fault).describe) := by
  rw [Flattener.flatten]
  by_cases himports : Solidity.imports task.source.text = []
  · rw [if_pos himports, if_pos himports]
  · rw [if_neg himports, if_neg himports, Flattener.stage, hopen]

/-- The first step of a call is its last. -/
theorem advance_of_refused {fault : FileFault} (sys : System) (task : Task)
    (hopen : openScratch f.scratchDir t = .error (fault, left)) :
    f.advance sys task (.begun, t) =
      (.returned (f.flatten (task.system sys) t task.source task.contractName).result,
        if Solidity.imports task.source.text = [] then t else left) := by
  rw [result_of_refused task hopen, Flattener.advance]
  by_cases himports : Solidity.imports task.source.text = []
  · rw [if_pos himports, if_pos himports, if_pos himports]
  · rw [if_neg himports, if_neg himports, if_neg himports, hopen]

/-- No call gets further than to its first step. It returns what it returns alone, at the start or
in what another call has left. -/
theorem Interleaving.refused (h : Interleaving f sys tasks t schedule c) {fault : FileFault}
    (hopen : openScratch f.scratchDir t = .error (fault, left)) :
    (c.tree = t ∨ c.tree = left) ∧ ∀ k, c.phase k = .begun ∨
      ∃ tree, (tree = t ∨ tree = left) ∧ c.phase k = .returned
        (f.flatten ((tasks k).system sys) tree (tasks k).source (tasks k).contractName).result := by
  induction h with
  | start => exact ⟨.inl rfl, fun _ => .inl rfl⟩
  | @move schedule c k _ _ ih =>
      obtain ⟨htree, hphases⟩ := ih
      obtain ⟨fault', hrefused⟩ :
          ∃ fault', openScratch f.scratchDir c.tree = .error (fault', left) := by
        rcases htree with htree | htree
        · rw [htree]
          exact ⟨fault, hopen⟩
        · rw [htree]
          exact openScratch_again hopen
      have hmoved : ((c.move f sys tasks k).tree = t ∨ (c.move f sys tasks k).tree = left) ∧
          ∃ tree, (tree = t ∨ tree = left) ∧ (c.move f sys tasks k).phase k = .returned
            (f.flatten ((tasks k).system sys) tree (tasks k).source
              (tasks k).contractName).result := by
        rw [Calls.tree_move, Calls.phase_move_self]
        rcases hphases k with hk | ⟨tree, htree', hk⟩
        · rw [hk, advance_of_refused sys (tasks k) hrefused]
          refine ⟨?_, c.tree, htree, rfl⟩
          show (if _ then _ else _) = t ∨ (if _ then _ else _) = left
          split
          · exact htree
          · exact .inr rfl
        · rw [hk, Flattener.advance]
          exact ⟨htree, tree, htree', rfl⟩
      refine ⟨hmoved.1, fun j => ?_⟩
      by_cases hjk : j = k
      · rw [hjk]
        exact .inr hmoved.2
      · rw [Calls.phase_move_of_ne hjk]
        exact hphases j

/-- **Only the reason can be another one**: that why the scratch directory cannot be made now. -/
theorem Interleaving.result_of_refused (h : Interleaving f sys tasks t schedule c)
    {fault : FileFault} (hopen : openScratch f.scratchDir t = .error (fault, left)) {k : ι}
    {result : Except Fault FlattenResult} (hk : c.phase k = .returned result) :
    result = (f.flatten ((tasks k).system sys) t (tasks k).source (tasks k).contractName).result ∨
      ∃ again, openScratch f.scratchDir left = .error (again, left) ∧
        (f.flatten ((tasks k).system sys) t (tasks k).source (tasks k).contractName).result =
          .ok (.failed (tasks k).source (Fault.file fault).describe) ∧
        result = .ok (.failed (tasks k).source (Fault.file again).describe) := by
  rcases (h.refused hopen).2 k with hbegun | ⟨tree, rfl | rfl, hreturned⟩
  · cases hk.symm.trans hbegun
  · exact .inl (Phase.returned.inj (hk.symm.trans hreturned))
  · obtain rfl := Phase.returned.inj (hk.symm.trans hreturned)
    obtain ⟨again, hagain⟩ := openScratch_again hopen
    rw [Flatten.result_of_refused _ hagain, Flatten.result_of_refused _ hopen]
    by_cases himports : Solidity.imports (tasks k).source.text = []
    · rw [if_pos himports, if_pos himports]
      exact .inl rfl
    · rw [if_neg himports, if_neg himports]
      exact .inr ⟨again, hagain, rfl, rfl⟩

/-- The second of two calls tells why the scratch directory cannot be made after the first. -/
theorem exists_refused_again {fault again : FileFault} (sys : System) (tasks : ι → Task) {j k : ι}
    (hjk : k ≠ j)
    (hopen : openScratch f.scratchDir t = .error (fault, left))
    (hagain : openScratch f.scratchDir left = .error (again, left))
    (hj : Solidity.imports (tasks j).source.text ≠ [])
    (hk : Solidity.imports (tasks k).source.text ≠ []) :
    ∃ c, Interleaving f sys tasks t [j, k] c ∧
      c.phase k = .returned (.ok (.failed (tasks k).source (Fault.file again).describe)) := by
  have hfirst := advance_of_refused sys (tasks j) hopen
  have hsecond := advance_of_refused sys (tasks k) hagain
  rw [if_neg hj] at hfirst
  rw [Flatten.result_of_refused _ hagain, if_neg hk] at hsecond
  refine ⟨_, .move k (.move j .start nofun) fun hopened => ?_, ?_⟩
  · rw [Calls.phase_move_of_ne hjk] at hopened
    cases hopened
  · rw [Calls.phase_move_self, Calls.phase_move_of_ne hjk, Calls.tree_move]
    show (f.advance sys (tasks k) (.begun, (f.advance sys (tasks j) (.begun, t)).2)).1 = _
    rw [hfirst, hsecond]

/-! ## Any order is possible -/

/-- If the names of the directories are different and not in use, the steps can be taken in any
order. -/
theorem exists_interleaving (ht : t.Rooted) (hslash : ∀ k, '/' ∉ (tasks k).ending)
    (hbackend : ∀ k, f.Undisturbed sys t (tasks k))
    (hnames : ∀ j k, (tasks j).directoryName = (tasks k).directoryName → j = k)
    (hfree : ∀ opened, openScratch f.scratchDir t = .ok opened →
      ∀ k, f.makeRoom sys (tasks k) opened ≠ .error .namesTaken) (schedule : List ι) :
    ∃ c, Interleaving f sys tasks t schedule c := by
  induction schedule using List.reverseRecOn with
  | nil => exact ⟨_, .start⟩
  | append_singleton schedule k ih =>
      obtain ⟨c, h⟩ := ih
      refine ⟨_, h.move k fun hk htaken => ?_⟩
      cases hopen : openScratch f.scratchDir t with
      | error refusal =>
          rcases (h.refused hopen).2 k with hbegun | ⟨tree, -, hreturned⟩
          · cases hk.symm.trans hbegun
          · cases hk.symm.trans hreturned
      | ok opened =>
          obtain ⟨base, site⟩ := exists_site ht hopen hslash
          obtain ⟨own, htogether⟩ := h.exists_together site hbackend
          have hspread : Spread tasks opened base c own :=
            htogether.spread (by rw [hk]; simp) (by rw [hk]; simp)
          rcases hspread.vacancy_eq site htogether.alone k with hsame | ⟨-, j, hj, hname⟩
          · exact hfree opened hopen k (Flattener.makeRoom_eq_error hsame htaken)
          · -- only the call itself can have its name, and it has no directory yet
            rw [hnames j k hname, hk] at hj
            cases hj

/-- A call can take all its steps while the others wait. -/
theorem Interleaving.run (h : Interleaving f sys tasks t schedule c) {k : ι}
    (hk : c.phase k = .begun)
    (hfree : ∀ opened, openScratch f.scratchDir c.tree = .ok opened →
      f.makeRoom sys (tasks k) opened ≠ .error .namesTaken) (n : Nat) :
    ∃ c', Interleaving f sys tasks t (schedule ++ List.replicate n k) c' ∧
      (c'.phase k, c'.tree) = (f.advance sys (tasks k))^[n] (.begun, c.tree) ∧
        ∀ j, j ≠ k → c'.phase j = c.phase j := by
  induction n with
  | zero =>
      refine ⟨c, ?_, ?_, fun _ _ => rfl⟩
      · rw [List.replicate_zero, List.append_nil]
        exact h
      · rw [hk]
        rfl
  | succ n ih =>
      obtain ⟨c', h', hstate, hothers⟩ := ih
      have halone := Flattener.Alone.iterate f sys (tasks k) c.tree n
      rw [← hstate] at halone
      refine ⟨c'.move f sys tasks k, ?_, ?_, fun j hjk => ?_⟩
      · rw [List.replicate_succ', ← List.append_assoc]
        refine h'.move k fun hopened => ?_
        simp only [hopened] at halone
        cases halone with
        | opened _ hopen => exact hfree _ hopen
      · rw [Function.iterate_succ_apply', ← hstate, Calls.phase_move_self, Calls.tree_move]
      · rw [Calls.phase_move_of_ne hjk, hothers j hjk]

/-! ## What is left -/

/-- If a call has anything to do, it is what opening the scratch directory gives. -/
theorem Interleaving.node?_eq (h : Interleaving f sys tasks t schedule c) (ht : t.Rooted)
    (hslash : ∀ k, '/' ∉ (tasks k).ending) (hbackend : ∀ k, f.Undisturbed sys t (tasks k))
    (hopen : openScratch f.scratchDir t = .ok opened)
    (hreturned : ∀ k ∈ schedule, ∃ result, c.phase k = .returned result) {k : ι}
    (hk : k ∈ schedule) (himports : Solidity.imports (tasks k).source.text ≠ []) (l : Location) :
    c.tree.node? l = opened.node? l := by
  obtain ⟨base, site⟩ := exists_site ht hopen hslash
  obtain ⟨own, htogether⟩ := h.exists_together site hbackend
  have hbegun : c.phase k ≠ .begun := by
    obtain ⟨result, hresult⟩ := hreturned k hk
    rw [hresult]
    exact Phase.noConfusion
  exact (htogether.spread_of_imports himports hbegun).node?_eq (h.finished hreturned) l

/-- The scratch directory was there, or its path does not go up, or none is configured. -/
def GoesStraight (configured : Option Text) (t : Tree) : Prop :=
  ∀ d, configured = some d →
    t.isDirectory (.ofText d) = .ok true ∨ ['.', '.'] ∉ (Path.ofText d).names

/-- A path that does not go up consists of names. -/
theorem proper_ofText {d : Text} (hup : ['.', '.'] ∉ (Path.ofText d).names) :
    Tree.Proper (Path.ofText d).names := by
  intro name hname
  have hkept := List.of_mem_filter hname
  simp only [ne_eq, decide_eq_true_eq] at hkept
  exact ⟨hkept.1, hkept.2, fun hname' => hup (hname' ▸ hname)⟩

/-- Opening the scratch directory puts nothing in it. -/
theorem GoesStraight.node?_eq {configured : Option Text} (h : GoesStraight configured t)
    (ht : t.Rooted) (hopen : openScratch configured t = .ok opened) {s : Scratch} {l : Location}
    (hfind : opened.find (.ofText (s.directory configured)) = .ok (base, .directory))
    (hl : base <+: l) (hne : l ≠ base) : opened.node? l = t.node? l := by
  cases configured with
  | none =>
      obtain rfl := Except.ok.inj hopen
      rfl
  | some d =>
      exact Tree.node?_below_of_makeDirectories ht (Path.dot_not_mem_ofText d)
        ((h d rfl).imp_right proper_ofText) hopen hfind hl hne

/-- What cannot be made is not there. -/
theorem find_ne_of_openScratch {configured : Option Text} {fault : FileFault}
    (hopen : openScratch configured t = .error (fault, left)) (s : Scratch) (l : Location) :
    t.find (.ofText (s.directory configured)) ≠ .ok (l, .directory) := by
  intro hfind
  cases configured with
  | none => cases hopen
  | some d => cases hopen.symm.trans (Tree.makeDirectories_of_find (name_ofText_ne d) hfind)

/-! ## The result -/

/-- **Calls do not disturb each other.** Each of them has returned when it has taken five steps, and
what it returns is what it returns alone; only if the scratch directory cannot be made, a call that
fails can give another reason why not. When all have returned, the tree is the same as at the start,
except for what opening the scratch directory leaves. So the scratch directory has the entries that
it had at the start, if it was there or its path does not go up. -/
theorem interleaving_undisturbed (ht : t.Rooted) (hslash : ∀ k, '/' ∉ (tasks k).ending)
    (hbackend : ∀ k, f.Undisturbed sys t (tasks k))
    (h : Interleaving f sys tasks t schedule c) :
    (∀ k, 5 ≤ schedule.count k → ∃ result, c.phase k = .returned result) ∧
    (∀ k result, c.phase k = .returned result →
      match openScratch f.scratchDir t with
      | .ok _ => result = (f.flatten ((tasks k).system sys) t (tasks k).source
          (tasks k).contractName).result
      | .error (fault, left) =>
          result = (f.flatten ((tasks k).system sys) t (tasks k).source
            (tasks k).contractName).result ∨
          ∃ again, openScratch f.scratchDir left = .error (again, left) ∧
            (f.flatten ((tasks k).system sys) t (tasks k).source (tasks k).contractName).result =
              .ok (.failed (tasks k).source (Fault.file fault).describe) ∧
            result = .ok (.failed (tasks k).source (Fault.file again).describe)) ∧
    ((∀ k ∈ schedule, ∃ result, c.phase k = .returned result) →
      ((∀ l, c.tree.node? l = t.node? l) ∨ ∃ left,
        (openScratch f.scratchDir t = .ok left ∨
          ∃ fault, openScratch f.scratchDir t = .error (fault, left)) ∧
        ∀ l, c.tree.node? l = left.node? l) ∧
      (GoesStraight f.scratchDir t → ∀ base,
        c.tree.find (.ofText (sys.scratch.directory f.scratchDir)) = .ok (base, .directory) →
          ∀ l, base <+: l → l ≠ base → c.tree.node? l = t.node? l)) := by
  refine ⟨fun k hk => ?_, ?_⟩
  · have hrank := h.rank_le k
    exact Phase.exists_of_rank (by omega)
  cases hopen : openScratch f.scratchDir t with
  | ok opened =>
      obtain ⟨base, site⟩ := exists_site ht hopen hslash
      obtain ⟨own, htogether⟩ := h.exists_together site hbackend
      refine ⟨fun k result hk => ?_, fun hreturned => ?_⟩
      · have halone := htogether.alone k
        rw [hk] at halone
        exact halone.result_eq
      · cases htogether.shares with
        | unopened htree => exact ⟨.inl fun l => by rw [htree], fun _ _ _ l _ _ => by rw [htree]⟩
        | spread hspread =>
            have hsame := hspread.node?_eq (h.finished hreturned)
            refine ⟨.inr ⟨opened, .inl rfl, hsame⟩, fun hstraight base hfind l hl hne => ?_⟩
            rw [Tree.find_congr hsame] at hfind
            rw [hsame, hstraight.node?_eq ht hopen hfind hl hne]
  | error refusal =>
      obtain ⟨fault, left⟩ := refusal
      obtain ⟨htree, -⟩ := h.refused hopen
      refine ⟨fun k result hk => h.result_of_refused hopen hk,
        fun _ => ⟨?_, fun _ base hfind => ?_⟩⟩
      · rcases htree with htree | htree
        · exact .inl fun l => by rw [htree]
        · exact .inr ⟨left, .inr ⟨fault, rfl⟩, fun l => by rw [htree]⟩
      · -- the scratch directory is not there
        rcases htree with htree | htree
        · rw [htree] at hfind
          exact absurd hfind (find_ne_of_openScratch hopen _ _)
        · obtain ⟨fault', hagain⟩ := openScratch_again hopen
          rw [htree] at hfind
          exact absurd hfind (find_ne_of_openScratch hagain _ _)

/-! ## Two calls for one source -/

section Pair

open Flattener

/-- Two calls for the same source and the same contract. -/
def pair (second : Bool) : Task := ⟨alone, [], if second then ['1'] else ['0']⟩

/-- The place of the directory of each. -/
def pairPlace (second : Bool) : Location :=
  [['t'], if second then "flatten-Contract-1".toList else "flatten-Contract-0".toList]

/-- The place of the file of each. -/
def pairFile (second : Bool) : Location := pairPlace second ++ ["Contract.sol".toList]

/-- The tree in which one of them alone has staged its file. -/
def pairTree (second : Bool) (bytes : List UInt8) : Tree :=
  (plainTree.set (pairPlace second) .directory).set (pairFile second) (.file bytes)

variable (second : Bool) (bytes : List UInt8)

/-- The source is staged where a directory is made for it. -/
theorem stage_of_createDirectory {f : Flattener} {t t' : Tree} (hf : f.scratchDir = none)
    (hcreate : createDirectory "/t".toList (safeName []) t [(pair second).ending] =
      .ok (.ofLocation (pairPlace second), t'))
    (hwrite : ∀ bytes, t'.writeFile (stagedFile (.ofLocation (pairPlace second)) (safeName []))
      bytes = .ok (t'.set (pairFile second) (.file bytes))) :
    f.stage ((pair second).system plainSystem).scratch t (pair second).source.text
      (pair second).contractName =
        .ok (.ofLocation (pairPlace second), .ofLocation (pairFile second),
          t'.set (pairFile second) (.file (Utf8.encode alone.text))) := by
  have hopen : openScratch f.scratchDir t = .ok t := by
    rw [hf]
    rfl
  have hmake : f.makeRoom plainSystem (pair second) t =
      .ok (.ofLocation (pairPlace second), t') := by
    rw [Flattener.makeRoom, hf]
    exact hcreate
  have hencodes : Unencodable.find? .utf8 alone.text = none := by cbv
  have hwritten : writeSource ((pair second).file (.ofLocation (pairPlace second)))
      (pair second).source.text t' =
        .ok (t'.set (pairFile second) (.file (Utf8.encode alone.text))) := by
    have hplaced : t'.writeFile ((pair second).file (.ofLocation (pairPlace second)))
        (Utf8.encode alone.text) = .ok (t'.set (pairFile second)
          (.file (Utf8.encode alone.text))) := hwrite _
    have htext : (pair second).source.text = alone.text := rfl
    rw [writeSource, htext, hplaced, hencodes]
  rw [Flattener.stage_system hopen, hmake]
  simp only [hwritten]
  rfl

theorem stage_pair : onGraph.stage ((pair second).system plainSystem).scratch plainTree
    (pair second).source.text (pair second).contractName =
      .ok (.ofLocation (pairPlace second), .ofLocation (pairFile second),
        pairTree second (Utf8.encode alone.text)) := by
  refine stage_of_createDirectory second rfl ?_ fun bytes => ?_
  · cases second
    · cbv
    · cbv
  · cases second
    · cbv
    · cbv

theorem find_pair : (pairTree second bytes).find (.ofLocation (pairPlace second)) =
    .ok (pairPlace second, .directory) := by
  cases second
  · cbv
  · cbv

theorem resolve_pair :
    (pairTree second bytes).resolve (.ofLocation (pairFile second)) = .ok (pairFile second) := by
  cases second
  · cbv
  · cbv

theorem resolve_pair_root :
    (pairTree second bytes).resolve (.ofLocation [['l']]) = .ok [['l']] := by
  cases second
  · cbv
  · cbv

theorem readText_pair :
    (pairTree second (Utf8.encode alone.text)).readText (.ofLocation (pairFile second)) =
      .ok alone.text := by
  have hbytes : ∀ bytes, (pairTree second bytes).readBytes (.ofLocation (pairFile second)) =
      .ok bytes := by
    intro bytes
    cases second
    · cbv
    · cbv
  rw [readText_of_readBytes (hbytes _) (Utf8.decode_encode _), unifyNewlines_alone]

/-- The import stands for `B` in the call's own directory, where nothing is. -/
theorem candidate_pair :
    let path := candidate ⟨[['l']], (pairFile second).dropLast⟩ (pairFile second) "./B".toList
    followsFully (pairTree second bytes) path = true ∧
      (pairTree second bytes).resolve path = .ok (pairPlace second ++ [['B']]) ∧
      (pairTree second bytes).isFile (.ofLocation (pairPlace second ++ [['B']])) = .ok false := by
  cases second
  · refine ⟨?_, ?_, ?_⟩ <;> cbv
  · refine ⟨?_, ?_, ?_⟩ <;> cbv

theorem imports_alone :
    Solidity.imports alone.text = [⟨"import './B';".toList, "./B".toList⟩] := by cbv

theorem imports_pair : Solidity.imports (pair second).source.text ≠ [] := by
  show Solidity.imports alone.text ≠ []
  rw [imports_alone]
  exact List.cons_ne_nil _ _

theorem dangling_pair :
    Dangling (pairTree second bytes) ⟨[['l']], (pairFile second).dropLast⟩ (pairFile second)
      alone.text := by
  obtain ⟨-, hresolve, hfile⟩ := candidate_pair second bytes
  intro i hi
  rw [imports_alone, List.mem_singleton] at hi
  rw [hi, leadsTo, hresolve]
  simp only [hfile]
  rfl

theorem walksOff_pair :
    WalksOff (pairTree second (Utf8.encode alone.text)) [['t']] (.ofLocation (pairFile second))
      (.ofLocation [['l']]) := by
  have hfollows : ∀ bytes, followsFully (pairTree second bytes) (.ofLocation [['l']]) = true := by
    intro bytes
    cases second
    · cbv
    · cbv
  refine ⟨hfollows _, fun e r he hr a text hreaches htext i hi => ?_⟩
  obtain rfl := Except.ok.inj ((resolve_pair second _).symm.trans he)
  obtain rfl := Except.ok.inj ((resolve_pair_root second _).symm.trans hr)
  have hread := readText_pair second
  rcases hreaches.cases_head with rfl | ⟨b, himports, -⟩
  · obtain rfl := Except.ok.inj (hread.symm.trans htext)
    rw [imports_alone, List.mem_singleton] at hi
    rw [hi]
    obtain ⟨hfollowed, hresolve, -⟩ := candidate_pair second (Utf8.encode alone.text)
    refine ⟨hfollowed, fun l hl name hname => ?_⟩
    obtain rfl := Except.ok.inj (hresolve.symm.trans hl)
    -- what is above it is the call's directory, and that is there
    have hlength : ([['t']] ++ [name]).length = (pairPlace second).length := rfl
    have hplace : [['t']] ++ [name] = pairPlace second :=
      (List.prefix_of_prefix_length_le hname (List.prefix_append ..) hlength.le).eq_of_length
        hlength
    rw [hplace, (Tree.find_eq_ok_iff.mp (find_pair second _)).2.2.1]
    exact Option.some_ne_none _
  · exact absurd himports ((dangling_pair second _).not_imports hread b)

theorem undisturbed_pair : onGraph.Undisturbed plainSystem plainTree (pair second) := by
  refine undisturbed_importGraph rfl fun directory file staged place hstage hfind => ?_
  rw [stage_pair] at hstage
  cases hstage
  obtain rfl : pairPlace second = place :=
    congrArg Prod.fst (Except.ok.inj ((find_pair second _).symm.trans hfind))
  exact walksOff_pair second

/-- A call alone comes to the end, with the import left. -/
theorem result_pair : (onGraph.flatten ((pair second).system plainSystem) plainTree
    (pair second).source (pair second).contractName).result =
      .ok (.flattened alone ["import './B';".toList]) := by
  have hread := readText_pair second
  have hdangling := dangling_pair second (Utf8.encode alone.text)
  have hsubstitute : onGraph.registry.substitute alone.text = .ok alone.text :=
    Registry.substitute_of_none fun s hs => not_isInfix_alone hs
  rw [← unifyNewlines_alone] at hread hdangling hsubstitute
  rw [result_of_dangling rfl (stage_pair second) (resolve_pair second _)
    (resolve_pair_root second _) hread hdangling (imports_pair second) hsubstitute]
  show Except.ok (FlattenResult.flattened (alone.withText (Text.unifyNewlines alone.text))
    (Solidity.findImports (Text.unifyNewlines alone.text))) = _
  rw [unifyNewlines_alone, Solidity.findImports, imports_alone]
  rfl

theorem directoryName_pair (j k : Bool) (h : (pair j).directoryName = (pair k).directoryName) :
    j = k := by
  have hending : (pair j).ending = (pair k).ending := by
    unfold Task.directoryName at h
    exact (List.cons.inj (List.append_cancel_left h)).2
  revert hending
  cases j
  · cases k <;> decide
  · cases k <;> decide

theorem slash_not_mem_pair : '/' ∉ (pair second).ending := by
  cases second <;> decide

/-- The two calls take their steps in turn, and both come to the end. -/
theorem pair_undisturbed :
    ∃ c, Interleaving onGraph plainSystem pair plainTree
        [false, true, true, false, false, true, true, false, false, true] c ∧
      (plainTree.Rooted ∧ (∀ k, '/' ∉ (pair k).ending) ∧
        ∀ k, onGraph.Undisturbed plainSystem plainTree (pair k)) ∧
      (∀ k, c.phase k = .returned (.ok (.flattened alone ["import './B';".toList]))) ∧
      ∀ l, c.tree.node? l = plainTree.node? l := by
  have hrooted : plainTree.Rooted := Tree.rooted_of_entries (by decide)
  obtain ⟨c, h⟩ := exists_interleaving hrooted slash_not_mem_pair undisturbed_pair
    directoryName_pair (fun opened hopen k htaken => by
      obtain rfl : plainTree = opened := Except.ok.inj hopen
      have hstage := stage_pair k
      rw [Flattener.stage_system hopen, htaken] at hstage
      cases hstage) [false, true, true, false, false, true, true, false, false, true]
  obtain ⟨hend, hresult, htree⟩ :=
    interleaving_undisturbed hrooted slash_not_mem_pair undisturbed_pair h
  have hreturned : ∀ k, ∃ result, c.phase k = .returned result := by
    intro k
    refine hend k ?_
    cases k <;> decide
  refine ⟨c, h, ⟨hrooted, slash_not_mem_pair, undisturbed_pair⟩, fun k => ?_, fun l => ?_⟩
  · obtain ⟨result, hk⟩ := hreturned k
    rw [hk, ← result_pair k]
    exact congrArg Phase.returned (hresult k result hk)
  · rcases (htree fun k _ => hreturned k).1 with hsame | ⟨left, hleft | ⟨fault, hleft⟩, hsame⟩
    · exact hsame l
    · obtain rfl : plainTree = left := Except.ok.inj hleft
      exact hsame l
    · cases hleft

end Pair

/-! ## Scratch directories that go up -/

section Upward

open Flattener

/-- A flattener whose backend has its answer ready, with the scratch directory `s`. -/
def upward : Flattener where
  backend := .constant (.text alone.text)
  registry := .builtIn
  importRoot := [['l']]
  scratchDir := some "/s/x/..".toList

/-- The same flattener with a scratch directory below `f`. -/
def sideward : Flattener := { upward with scratchDir := some "/s/../f/x".toList }

/-- A tree with nothing but the directory `s`. -/
def bareTree : Tree := ⟨[([['s']], .directory)]⟩

/-- A tree with nothing but the file `f`. -/
def blockedTree : Tree := ⟨[([['f']], .file [])]⟩

/-- The way to the scratch directory of `upward` is made, and then there is room for the calls. -/
theorem makeRoom_upward : openScratch upward.scratchDir bareTree =
      .ok (bareTree.set [['s'], ['x']] .directory) ∧
    ∀ k, upward.makeRoom plainSystem (pair k) (bareTree.set [['s'], ['x']] .directory) ≠
      .error .namesTaken := by
  have hopen : openScratch (some "/s/x/..".toList) bareTree =
      .ok (bareTree.set [['s'], ['x']] .directory) := by cbv
  have hmake : ∀ k, (createDirectory "/s/x/..".toList (safeName [])
      (bareTree.set [['s'], ['x']] .directory) [(pair k).ending]).isOk = true := by
    intro k
    cases k
    · cbv
    · cbv
  refine ⟨hopen, fun k htaken => ?_⟩
  have hok : (upward.makeRoom plainSystem (pair k)
      (bareTree.set [['s'], ['x']] .directory)).isOk = true := hmake k
  rw [htaken] at hok
  cases hok

/-- Both calls return, and the way to the scratch directory stays. -/
theorem exists_interleaving_upward :
    ∃ c, Interleaving upward plainSystem pair bareTree
        [false, true, true, false, false, true, true, false, false, true] c ∧
      (∀ k, ∃ result, c.phase k = .returned result) ∧
      c.tree.find (.ofText "/s/x/..".toList) = .ok ([['s']], .directory) ∧
      bareTree.node? [['s'], ['x']] = none ∧ c.tree.node? [['s'], ['x']] = some .directory := by
  obtain ⟨hopen, hmake⟩ := makeRoom_upward
  have hrooted : bareTree.Rooted := Tree.rooted_of_entries (by decide)
  have hbackend : ∀ k, upward.Undisturbed plainSystem bareTree (pair k) :=
    fun _ _ _ _ _ _ _ _ _ => rfl
  have hfree : ∀ opened, openScratch upward.scratchDir bareTree = .ok opened →
      ∀ k, upward.makeRoom plainSystem (pair k) opened ≠ .error .namesTaken := by
    intro opened hopen'
    obtain rfl := Except.ok.inj (hopen.symm.trans hopen')
    exact hmake
  obtain ⟨c, h⟩ := exists_interleaving hrooted slash_not_mem_pair hbackend directoryName_pair
    hfree [false, true, true, false, false, true, true, false, false, true]
  have hreturned : ∀ k, ∃ result, c.phase k = .returned result := by
    intro k
    refine Phase.exists_of_rank (Nat.le_trans ?_ (h.rank_le k))
    cases k <;> decide
  have hsame := h.node?_eq hrooted slash_not_mem_pair hbackend hopen
    (fun k _ => hreturned k) (by decide) (imports_pair true)
  have hfind : (bareTree.set [['s'], ['x']] .directory).find (.ofText "/s/x/..".toList) =
      .ok ([['s']], .directory) := by cbv
  refine ⟨c, h, hreturned, ?_, rfl, ?_⟩
  · rw [Tree.find_congr hsame, hfind]
  · rw [hsame]
    rfl

/-- The first time the file is in the way when `s` is made, and the second time the path leads
through it. -/
theorem openScratch_sideward : openScratch sideward.scratchDir blockedTree =
      .error (.refused .alreadyThere "/s/../f".toList, blockedTree.set [['s']] .directory) ∧
    openScratch sideward.scratchDir (blockedTree.set [['s']] .directory) =
      .error (.refused .notDirectory "/s/../f/x".toList, blockedTree.set [['s']] .directory) := by
  have hopen : openScratch (some "/s/../f/x".toList) blockedTree =
      .error (.refused .alreadyThere "/s/../f".toList, blockedTree.set [['s']] .directory) := by
    cbv
  have hagain : openScratch (some "/s/../f/x".toList) (blockedTree.set [['s']] .directory) =
      .error (.refused .notDirectory "/s/../f/x".toList, blockedTree.set [['s']] .directory) := by
    cbv
  exact ⟨hopen, hagain⟩

/-- The second call gives the second reason, which it does not give alone. -/
theorem exists_interleaving_sideward :
    ∃ c, Interleaving sideward plainSystem pair blockedTree [false, true] c ∧
      ∃ result, c.phase true = .returned result ∧
        result ≠ (sideward.flatten ((pair true).system plainSystem) blockedTree (pair true).source
          (pair true).contractName).result := by
  obtain ⟨hopen, hagain⟩ := openScratch_sideward
  obtain ⟨c, h, hphase⟩ := exists_refused_again plainSystem pair (by decide : true ≠ false)
    hopen hagain (imports_pair false) (imports_pair true)
  refine ⟨c, h, _, hphase, ?_⟩
  rw [result_of_refused _ hopen, if_neg (imports_pair true)]
  intro hsame
  injection hsame with hsame
  injection hsame with _ hsame
  revert hsame
  decide +kernel

/-- A flattener with its libraries where its scratch directory is. Its backend fails if the
directory of the first call is there. -/
def inward : Flattener := { onGraph with
  importRoot := [['t']]
  backend := .other fun t _ _ =>
    if (t.node? (pairPlace false)).isSome then .error .namesTaken else .ok (.text []) }

/-- The tree with the directory of the first call. -/
def firstTree : Tree := plainTree.set (pairPlace false) .directory

/-- The backend looks at nothing but the libraries. -/
theorem secluded_inward (second : Bool) : inward.Secluded plainSystem plainTree (pair second) := by
  intro directory file staged place _ _ t' _ _ hroot
  have hroot : SameBelow staged t' [['t']] := hroot
  have hsame : staged.node? (pairPlace false) = t'.node? (pairPlace false) :=
    hroot _ (List.prefix_append ..)
  show (if (t'.node? (pairPlace false)).isSome then _ else _) =
    if (staged.node? (pairPlace false)).isSome then _ else _
  rw [hsame]

/-- There is room for both calls. -/
theorem makeRoom_inward :
    inward.makeRoom plainSystem (pair false) plainTree =
        .ok (.ofLocation (pairPlace false), firstTree) ∧
      inward.makeRoom plainSystem (pair true) firstTree =
        .ok (.ofLocation (pairPlace true), firstTree.set (pairPlace true) .directory) := by
  have hfirst : createDirectory "/t".toList (safeName []) plainTree [['0']] =
      .ok (.ofLocation (pairPlace false), firstTree) := by cbv
  have hsecond : createDirectory "/t".toList (safeName []) firstTree [['1']] =
      .ok (.ofLocation (pairPlace true), firstTree.set (pairPlace true) .directory) := by cbv
  exact ⟨hfirst, hsecond⟩

/-- The first call makes its directory. -/
theorem advance_inward : (inward.advance plainSystem (pair false))^[2] (.begun, plainTree) =
    (.made (.ofLocation (pairPlace false)), firstTree) := by
  have hopen : openScratch inward.scratchDir plainTree = .ok plainTree := rfl
  rw [Function.iterate_succ_apply, Function.iterate_one, Flattener.advance,
    if_neg (imports_pair false), hopen]
  simp only
  rw [Flattener.advance, makeRoom_inward.1]

/-- The second call fails then, which it does not alone. -/
theorem result_inward :
    (inward.flatten ((pair true).system plainSystem) firstTree (pair true).source
        (pair true).contractName).result = .ok (.failed alone Fault.namesTaken.describe) ∧
      (inward.flatten ((pair true).system plainSystem) plainTree (pair true).source
        (pair true).contractName).result =
          .ok (.flattened (alone.withText []) (Solidity.findImports [])) := by
  have hthere : inward.stage ((pair true).system plainSystem).scratch firstTree
      (pair true).source.text (pair true).contractName =
        .ok (.ofLocation (pairPlace true), .ofLocation (pairFile true),
          (firstTree.set (pairPlace true) .directory).set (pairFile true)
            (.file (Utf8.encode alone.text))) := by
    refine stage_of_createDirectory true rfl ?_ fun bytes => ?_
    · cbv
    · cbv
  have hanswers : inward.Answers ((pair true).system plainSystem) plainTree (pair true).source
      (pair true).contractName (.ok (.text [])) := ⟨_, _, _, stage_pair true, rfl⟩
  have hsubstitute : inward.registry.substitute [] = .ok [] :=
    Registry.substitute_of_none (t := []) fun s hs =>
      Registry.not_isInfix_of_no_quote (by decide) hs
  constructor
  · rw [flatten, if_neg (imports_pair true), hthere]
    rfl
  · rw [result_of_answers (imports_pair true) hanswers, hsubstitute]
    rfl

/-- The second call comes between the first one making its directory and removing it. -/
theorem exists_interleaving_inward :
    ∃ c, Interleaving inward plainSystem pair plainTree
        [false, false, true, true, true, true, true] c ∧
      (∀ k, inward.Secluded plainSystem plainTree (pair k)) ∧
      ∃ result, c.phase true = .returned result ∧
        result ≠ (inward.flatten ((pair true).system plainSystem) plainTree (pair true).source
          (pair true).contractName).result := by
  obtain ⟨hfails, hsucceeds⟩ := result_inward
  have hfree : ∀ opened, openScratch inward.scratchDir plainTree = .ok opened →
      inward.makeRoom plainSystem (pair false) opened ≠ .error .namesTaken := by
    intro opened hopen htaken
    obtain rfl : plainTree = opened := Except.ok.inj hopen
    cases makeRoom_inward.1.symm.trans htaken
  have hstart : Interleaving inward plainSystem pair plainTree [] (.start plainTree) := .start
  obtain ⟨c, h, hfirst, hothers⟩ := hstart.run (k := false) rfl hfree 2
  rw [Calls.start, advance_inward] at hfirst
  obtain ⟨-, htree⟩ := Prod.mk.inj hfirst
  obtain ⟨c', h', hsecond, -⟩ := h.run (k := true) (hothers true (by decide))
    (fun opened hopen htaken => by
      obtain rfl : c.tree = opened := Except.ok.inj hopen
      rw [htree] at htaken
      cases makeRoom_inward.2.symm.trans htaken) 5
  rw [htree, Flattener.advance_iterate_five, hfails] at hsecond
  refine ⟨c', h', secluded_inward, _, (Prod.mk.inj hsecond).1, ?_⟩
  rw [hsucceeds]
  rintro ⟨⟩

/-- When two calls have returned, there can be an entry in the scratch directory that was not there
at the start, and a call can give another reason than it gives alone. If the libraries are in the
scratch directory, a call can fail that does not alone, although the backend looks at nothing but
the libraries. -/
theorem calls_can_differ :
    (∃ c, Interleaving upward plainSystem pair bareTree
        [false, true, true, false, false, true, true, false, false, true] c ∧
      (∀ k, ∃ result, c.phase k = .returned result) ∧
      c.tree.find (.ofText "/s/x/..".toList) = .ok ([['s']], .directory) ∧
      bareTree.node? [['s'], ['x']] = none ∧ c.tree.node? [['s'], ['x']] = some .directory) ∧
    (∃ c, Interleaving sideward plainSystem pair blockedTree [false, true] c ∧
      ∃ result, c.phase true = .returned result ∧
        result ≠ (sideward.flatten ((pair true).system plainSystem) blockedTree (pair true).source
          (pair true).contractName).result) ∧
    ∃ c, Interleaving inward plainSystem pair plainTree
        [false, false, true, true, true, true, true] c ∧
      (∀ k, inward.Secluded plainSystem plainTree (pair k)) ∧
      ∃ result, c.phase true = .returned result ∧
        result ≠ (inward.flatten ((pair true).system plainSystem) plainTree (pair true).source
          (pair true).contractName).result :=
  ⟨exists_interleaving_upward, exists_interleaving_sideward, exists_interleaving_inward⟩

end Upward

end ContractVerifier.Flatten
