import ContractVerifier.Proofs.Flatten.Steps

set_option autoImplicit false

/-! # Calls that share a tree

Calls that take their steps at the same time share the scratch directory. A call that has made its
directory is **live** until it removes it, and its place is a name in the scratch directory that no
other live call has. What stands there is what the call has put there, and elsewhere the tree is
what it was when the scratch directory was opened (`Spread`). So to every live call the others are
guests (`Spread.hosts_own`), and every step of a call does what it does alone (`Together.inStep`), as
long as guests do not disturb the backend (`Flattener.Undisturbed`).
-/

namespace ContractVerifier

open Flatten

namespace Flatten

/-! ## Where a call's directory stands -/

/-- The place of a task's directory, if the scratch directory stands at `base`. -/
def Task.place (task : Task) (base : Location) : Location := base ++ [task.directoryName]

/-- No two tasks have a location in their places unless these are the same. -/
theorem Task.directoryName_eq {task task' : Task} {base l : Location}
    (h : task.place base <+: l) (h' : task'.place base <+: l) :
    task.directoryName = task'.directoryName := by
  have hlength : (task.place base).length = (task'.place base).length := by simp [place]
  have hsame : task.place base = task'.place base :=
    (List.prefix_of_prefix_length_le h h' hlength.le).eq_of_length hlength
  simpa [place] using hsame

/-- Whether a call's directory is there. -/
def Phase.isLive : Phase → Bool
  | made _ => true
  | staged _ => true
  | answered .. => true
  | _ => false

/-- A tree with a call's directory, beside what was there when the scratch directory was opened. -/
structure Home (opened : Tree) (room : Path) (place : Location) (own : Tree) : Prop where
  vacant : opened.vacancy room = .ok place
  outside : ∀ l, ¬ place <+: l → own.node? l = opened.node? l
  directory : own.node? place = some .directory
  plain : ∀ l, place <+: l → own.link? l = none

namespace Home

variable {opened own : Tree} {room : Path} {place l : Location}

/-- Nothing stood in the call's place. -/
theorem none_below (h : Home opened room place own) (hrooted : opened.Rooted)
    (hl : place <+: l) : opened.node? l = none :=
  hrooted.node?_eq_none_of_below (Tree.vacancy_eq_ok h.vacant).2.2.1 hl

theorem node?_eq (h : Home opened room place own) (hrooted : opened.Rooted)
    (hl : opened.node? l ≠ none) : own.node? l = opened.node? l :=
  h.outside l fun hbelow => hl (h.none_below hrooted hbelow)

/-- The call's path leads to its directory. -/
theorem find (h : Home opened room place own) (hrooted : opened.Rooted)
    (hname : room.name ≠ ['.']) :
    own.find room = .ok (place, .directory) :=
  Tree.find_of_vacancy hname h.vacant (fun _ => h.node?_eq hrooted) h.directory

/-- The directory that was just made. -/
theorem of_vacancy (hrooted : opened.Rooted) (h : opened.vacancy room = .ok place) :
    Home opened room place (opened.set place .directory) := by
  obtain ⟨-, -, hfree, parent, hplace, -⟩ := Tree.vacancy_eq_ok h
  have hne : place ≠ [] := by simp [hplace]
  refine ⟨h, fun l hl => ?_, Tree.node?_set_self hne, fun l hl => ?_⟩
  · rw [Tree.node?_set_of_ne hne]
    rintro rfl
    exact hl (List.prefix_refl l)
  · rw [Tree.link?, Tree.node?_set hne]
    by_cases hlp : l = place
    · rw [if_pos hlp]
    · rw [if_neg hlp, hrooted.node?_eq_none_of_below hfree hl]

/-- A file in the directory. -/
theorem set_file (h : Home opened room place own) (name : Text) (bytes : List UInt8) :
    Home opened room place (own.set (place ++ [name]) (.file bytes)) := by
  have hne : place ++ [name] ≠ [] := by simp
  refine ⟨h.vacant, fun l hl => ?_, ?_, fun l hl => ?_⟩
  · rw [Tree.node?_set_of_ne hne, h.outside l hl]
    rintro rfl
    exact hl (List.prefix_append ..)
  · rw [Tree.node?_set_of_ne hne (by simp), h.directory]
  · rw [Tree.link?, Tree.node?_set hne]
    by_cases hlp : l = place ++ [name]
    · rw [if_pos hlp]
    · rw [if_neg hlp]
      exact h.plain l hl

end Home

end Flatten

namespace Flattener

/-- The answer of the backend for a task's staged source does not depend on what else comes to stand
in the scratch directory. -/
def Undisturbed (f : Flattener) (sys : System) (t : Tree) (task : Task) : Prop :=
  ∀ directory file staged place,
    f.stage (task.system sys).scratch t task.source.text task.contractName =
      .ok (directory, file, staged) →
    staged.find directory = .ok (place, .directory) →
      ∀ t', staged.Hosts t' place.dropLast →
        f.backend.flatten sys.run t' file (.ofLocation f.importRoot) =
          f.backend.flatten sys.run staged file (.ofLocation f.importRoot)

variable {f : Flattener} {sys : System} {t opened own : Tree} {task : Task} {phase : Phase}
  {base : Location}

theorem name_room_ne (hslash : '/' ∉ task.ending) : (f.room sys task).name ≠ ['.'] := by
  rw [name_room hslash]
  exact task.isName_directoryName.2.1

/-- In the directory that was just made nothing is. -/
theorem Alone.exists_home_of_made {directory : Path}
    (h : Alone f sys task t (.made directory) own)
    (hopen : openScratch f.scratchDir t = .ok opened) (hrooted : opened.Rooted) :
    ∃ place, Home opened (f.room sys task) place own ∧ directory = f.room sys task ∧
      ∀ name, own.node? (place ++ [name]) = none := by
  obtain ⟨opened', place, -, hopen', hdirectory, -, hvacancy, rfl⟩ := h.exists_of_made
  obtain rfl := Except.ok.inj (hopen.symm.trans hopen')
  obtain ⟨-, -, hfree, parent, hplace, -⟩ := Tree.vacancy_eq_ok hvacancy
  refine ⟨place, .of_vacancy hrooted hvacancy, hdirectory, fun name => ?_⟩
  rw [Tree.node?_set_of_ne (by simp [hplace]) (by simp)]
  exact hrooted.node?_eq_none hfree name

/-- The file is written into the directory. -/
theorem Alone.exists_home_of_staged {directory : Path}
    (h : Alone f sys task t (.staged directory) own)
    (hopen : openScratch f.scratchDir t = .ok opened) (hrooted : opened.Rooted)
    (hslash : '/' ∉ task.ending) :
    ∃ place, Home opened (f.room sys task) place own ∧ directory = f.room sys task := by
  cases h with
  | staged before writes =>
      obtain ⟨place, home, rfl, hfree⟩ := before.exists_home_of_made hopen hrooted
      have hfind := home.find hrooted (name_room_ne hslash)
      rcases writeSource_alike task.source.text hfind (hfree _) hfind (hfree _) with
        ⟨fault, hfault, -⟩ | ⟨hwritten, -⟩
      · cases hfault.symm.trans writes
      · obtain rfl := Except.ok.inj (hwritten.symm.trans writes)
        exact ⟨place, home.set_file _ _, rfl⟩

theorem Alone.exists_home (h : Alone f sys task t phase own) (hlive : phase.isLive = true)
    (hopen : openScratch f.scratchDir t = .ok opened) (hrooted : opened.Rooted)
    (hslash : '/' ∉ task.ending) : ∃ place, Home opened (f.room sys task) place own := by
  have hmade : ∀ {directory own}, Alone f sys task t (.made directory) own →
      ∃ place, Home opened (f.room sys task) place own := fun h => by
    obtain ⟨place, home, -⟩ := h.exists_home_of_made hopen hrooted
    exact ⟨place, home⟩
  have hstaged : ∀ {directory own}, Alone f sys task t (.staged directory) own →
      ∃ place, Home opened (f.room sys task) place own := fun h => by
    obtain ⟨place, home, -⟩ := h.exists_home_of_staged hopen hrooted hslash
    exact ⟨place, home⟩
  cases h with
  | begun => cases hlive
  | opened => cases hlive
  | made before makes => exact hmade (.made before makes)
  | unwritten before => exact hmade before
  | staged before writes => exact hstaged (.staged before writes)
  | answered before => exact hstaged before
  | returned => cases hlive

end Flattener

namespace Flatten

section

variable {ι : Type} {f : Flattener} {sys : System} {tasks : ι → Task} {t opened : Tree}
  {base : Location} {c c' : Calls ι} {own own' : ι → Tree}

/-- The scratch directory was opened, and it stands at `base` if directories can be made in it. -/
structure Site (f : Flattener) (sys : System) (tasks : ι → Task) (t opened : Tree)
    (base : Location) : Prop where
  opens : openScratch f.scratchDir t = .ok opened
  rooted : opened.Rooted
  endings : ∀ k, '/' ∉ (tasks k).ending
  place_eq : ∀ k place, opened.vacancy (f.room sys (tasks k)) = .ok place →
    place = (tasks k).place base

theorem exists_site (ht : t.Rooted) (hopen : openScratch f.scratchDir t = .ok opened)
    (hslash : ∀ k, '/' ∉ (tasks k).ending) : ∃ base, Site f sys tasks t opened base := by
  have hrooted := rooted_of_openScratch ht hopen
  by_cases h : ∃ k place, opened.vacancy (f.room sys (tasks k)) = .ok place
  · obtain ⟨k, place, hvacancy⟩ := h
    obtain ⟨-, -, -, base, -, -, -, -, -, n, -, harrives⟩ := Tree.vacancy_eq_ok hvacancy
    refine ⟨base, hopen, hrooted, hslash, fun j place hj => ?_⟩
    obtain ⟨-, -, -, parent, hplace, -, -, -, -, m, -, harrives'⟩ := Tree.vacancy_eq_ok hj
    -- the names before the last are those of the scratch directory
    rw [Flattener.dropLast_names_room (hslash k)] at harrives
    rw [Flattener.dropLast_names_room (hslash j)] at harrives'
    obtain ⟨rfl, -⟩ := harrives.unique harrives'
    rw [hplace, Flattener.name_room (hslash j)]
    rfl
  · exact ⟨[], hopen, hrooted, hslash, fun k place hk => absurd ⟨k, place, hk⟩ h⟩

theorem Site.home (site : Site f sys tasks t opened base) {k : ι} {phase : Phase} {own : Tree}
    (h : f.Alone sys (tasks k) t phase own) (hlive : phase.isLive = true) :
    Home opened (f.room sys (tasks k)) ((tasks k).place base) own := by
  obtain ⟨place, home⟩ := h.exists_home hlive site.opens site.rooted (site.endings k)
  exact site.place_eq k place home.vacant ▸ home

/-- The scratch directory is not made again, whatever stands in it. -/
theorem Site.openScratch_eq (site : Site f sys tasks t opened base) {tree : Tree}
    (hhosts : opened.Hosts tree base) : openScratch f.scratchDir tree = .ok tree := by
  have hopen := site.opens
  unfold openScratch at hopen ⊢
  split
  · rename_i d hd
    rw [hd] at hopen
    have hname : (Path.ofText d).name ≠ ['.'] := name_ofText_ne d
    obtain ⟨l, hfind⟩ := (Tree.makes_of_makeDirectoriesUp hopen).exists_find hname
    exact Tree.makeDirectories_of_find hname (hhosts.find_eq hfind)
  · rfl

/-- **How the calls share the tree**: live calls have different names, in its place each has what it
has alone, and elsewhere is what was there when the scratch directory was opened. -/
structure Spread (tasks : ι → Task) (opened : Tree) (base : Location) (c : Calls ι)
    (own : ι → Tree) : Prop where
  apart : ∀ j k, (c.phase j).isLive = true → (c.phase k).isLive = true →
    (tasks j).directoryName = (tasks k).directoryName → j = k
  inside : ∀ k, (c.phase k).isLive = true → ∀ l, (tasks k).place base <+: l →
    c.tree.node? l = (own k).node? l
  outside : ∀ l, (∀ k, (c.phase k).isLive = true → ¬ (tasks k).place base <+: l) →
    c.tree.node? l = opened.node? l

namespace Spread

variable (h : Spread tasks opened base c own)

include h

/-- Where the tree is not as it was, a live call has its place. -/
theorem exists_live {l : Location} (hl : c.tree.node? l ≠ opened.node? l) :
    ∃ k, (c.phase k).isLive = true ∧ (tasks k).place base <+: l := by
  by_contra hnone
  exact hl (h.outside l fun k hk hbelow => hnone ⟨k, hk, hbelow⟩)

/-- All that is new are guests in the scratch directory. -/
theorem hosts (site : Site f sys tasks t opened base)
    (halone : ∀ k, f.Alone sys (tasks k) t (c.phase k) (own k)) : opened.Hosts c.tree base := by
  refine ⟨fun l hl => ?_, fun l => ?_⟩
  · obtain ⟨k, hk, hbelow⟩ := h.exists_live hl
    exact ⟨(tasks k).directoryName, hbelow, fun j hj =>
      (site.home (halone k) hk).none_below site.rooted hj⟩
  · by_cases hl : c.tree.node? l = opened.node? l
    · rw [Tree.link?, Tree.link?, hl]
    · obtain ⟨k, hk, hbelow⟩ := h.exists_live hl
      have home := site.home (halone k) hk
      have hown := home.plain l hbelow
      rw [Tree.link?, ← h.inside k hk l hbelow] at hown
      rw [Tree.link?, Tree.link?, hown, home.none_below site.rooted hbelow]

/-- To a live call all the others are guests. -/
theorem hosts_own (site : Site f sys tasks t opened base)
    (halone : ∀ k, f.Alone sys (tasks k) t (c.phase k) (own k)) {k : ι}
    (hk : (c.phase k).isLive = true) : (own k).Hosts c.tree base := by
  have home := site.home (halone k) hk
  have hhosts := h.hosts site halone
  have hinside := h.inside k hk
  refine ⟨fun l hl => ?_, fun l => ?_⟩
  · have hnot : ¬ (tasks k).place base <+: l := fun hbelow => hl (hinside l hbelow)
    have hnew : c.tree.node? l ≠ opened.node? l := by rwa [← home.outside l hnot]
    obtain ⟨j, hj, hbelow⟩ := h.exists_live hnew
    refine ⟨(tasks j).directoryName, hbelow, fun m hm => ?_⟩
    -- the places of two calls have nothing in common
    have hnot' : ¬ (tasks k).place base <+: m := by
      intro hm'
      have hsame : j = k := h.apart j k hj hk (Task.directoryName_eq hm hm')
      exact hnot (hsame ▸ hbelow)
    rw [home.outside m hnot']
    exact (site.home (halone j) hj).none_below site.rooted hm
  · by_cases hbelow : (tasks k).place base <+: l
    · rw [Tree.link?, Tree.link?, hinside l hbelow]
    · rw [hhosts.link?_eq, Tree.link?, Tree.link?, home.outside l hbelow]

/-- A live call finds its directory. -/
theorem find (site : Site f sys tasks t opened base)
    (halone : ∀ k, f.Alone sys (tasks k) t (c.phase k) (own k)) {k : ι}
    (hk : (c.phase k).isLive = true) :
    c.tree.find (f.room sys (tasks k)) = .ok ((tasks k).place base, .directory) := by
  have home := site.home (halone k) hk
  refine Tree.find_of_vacancy (Flattener.name_room_ne (site.endings k)) home.vacant
    (fun _ => (h.hosts site halone).node?_eq) ?_
  rw [h.inside k hk _ (List.prefix_refl _), home.directory]

/-- The place for a directory is vacant, or taken by a live call, if it was vacant; otherwise the
answer is the same. -/
theorem vacancy_eq (site : Site f sys tasks t opened base)
    (halone : ∀ k, f.Alone sys (tasks k) t (c.phase k) (own k)) (k : ι) :
    c.tree.vacancy (f.room sys (tasks k)) = opened.vacancy (f.room sys (tasks k)) ∨
      c.tree.vacancy (f.room sys (tasks k)) =
        .error (.refused .alreadyThere (f.room sys (tasks k)).text) ∧
      ∃ j, (c.phase j).isLive = true ∧
        (tasks j).directoryName = (tasks k).directoryName := by
  by_cases hlive : ∃ j, (c.phase j).isLive = true
  · obtain ⟨j, hj⟩ := hlive
    -- a live call tells where the scratch directory is
    have home := site.home (halone j) hj
    obtain ⟨-, -, -, parent, hplace, hparent, -, -, -, n, hn, harrives⟩ :=
      Tree.vacancy_eq_ok home.vacant
    obtain rfl : base = parent := by
      rw [Flattener.name_room (site.endings j)] at hplace
      exact List.append_cancel_right hplace
    have hhosts := h.hosts site halone
    have hparent' : c.tree.node? base = some .directory := by
      rw [hhosts.node?_eq (by simp [hparent]), hparent]
    have hname : Tree.IsName (f.room sys (tasks k)).name := by
      rw [Flattener.name_room (site.endings k)]
      exact (tasks k).isName_directoryName
    rw [Flattener.dropLast_names_room (site.endings j),
      ← Flattener.dropLast_names_room (site.endings k)] at harrives
    rw [Tree.vacancy_eq harrives hn hparent hname,
      Tree.vacancy_eq (hhosts.arrives harrives) hn hparent' hname,
      Flattener.name_room (site.endings k)]
    by_cases hsame : c.tree.node? (base ++ [(tasks k).directoryName]) =
        opened.node? (base ++ [(tasks k).directoryName])
    · exact .inl (by rw [hsame])
    · obtain ⟨i, hi, hbelow⟩ := h.exists_live hsame
      have hnone := (site.home (halone i) hi).none_below site.rooted hbelow
      have hthere : (c.tree.node? (base ++ [(tasks k).directoryName])).isSome = true := by
        rw [Option.isSome_iff_ne_none]
        exact fun h => hsame (h.trans hnone.symm)
      have htaken : (tasks i).directoryName = (tasks k).directoryName :=
        Task.directoryName_eq hbelow (List.prefix_refl _)
      split_ifs
      · exact .inl rfl
      · exact .inl rfl
      · exact .inl rfl
      · exact .inr ⟨rfl, i, hi, htaken⟩
      · exact .inr ⟨rfl, i, hi, htaken⟩
  · left
    refine Tree.vacancy_congr (fun l => h.outside l fun j hj => absurd ⟨j, hj⟩ hlive) _

/-- A step that leaves the tree and the live calls as they are. -/
theorem of_same (hlive : ∀ k, (c'.phase k).isLive = (c.phase k).isLive)
    (htree : c'.tree = c.tree) (hown : ∀ k, (c.phase k).isLive = true → own' k = own k) :
    Spread tasks opened base c' own' := by
  refine ⟨fun j k hj hk => ?_, fun k hk l hl => ?_, fun l hl => ?_⟩
  · rw [hlive] at hj hk
    exact h.apart j k hj hk
  · rw [hlive] at hk
    rw [htree, hown k hk, h.inside k hk l hl]
  · rw [htree]
    exact h.outside l fun k hk => hl k ((hlive k).trans hk)

/-- A step of one call that changes the tree in its place only, where no other live call is. -/
theorem of_place (k : ι) (hothers : ∀ j, j ≠ k → (c.phase j).isLive = true →
      (tasks j).directoryName ≠ (tasks k).directoryName)
    (hphase : ∀ j, j ≠ k → c'.phase j = c.phase j) (hown : ∀ j, j ≠ k → own' j = own j)
    (hoff : ∀ l, ¬ (tasks k).place base <+: l → c'.tree.node? l = c.tree.node? l)
    (hlive : (c'.phase k).isLive = true → ∀ l, (tasks k).place base <+: l →
      c'.tree.node? l = (own' k).node? l)
    (hgone : (c'.phase k).isLive = false → ∀ l, (tasks k).place base <+: l →
      c'.tree.node? l = opened.node? l) :
    Spread tasks opened base c' own' := by
  refine ⟨fun i j hi hj hname => ?_, fun j hj l hl => ?_, fun l hl => ?_⟩
  · -- two live calls of one name: neither is `k`, unless both are
    by_cases hik : i = k
    · by_cases hjk : j = k
      · rw [hik, hjk]
      · rw [hphase j hjk] at hj
        exact absurd (hik ▸ hname.symm) (hothers j hjk hj)
    · rw [hphase i hik] at hi
      by_cases hjk : j = k
      · exact absurd (hjk ▸ hname) (hothers i hik hi)
      · rw [hphase j hjk] at hj
        exact h.apart i j hi hj hname
  · by_cases hjk : j = k
    · subst hjk
      exact hlive hj l hl
    · rw [hphase j hjk] at hj
      have hnot : ¬ (tasks k).place base <+: l := fun hbelow =>
        hothers j hjk hj (Task.directoryName_eq hl hbelow)
      rw [hoff l hnot, hown j hjk, h.inside j hj l hl]
  · by_cases hbelow : (tasks k).place base <+: l
    · have hdead : (c'.phase k).isLive = false := by
        rw [← Bool.not_eq_true]
        exact fun hk => hl k hk hbelow
      exact hgone hdead l hbelow
    · rw [hoff l hbelow]
      refine h.outside l fun j hj => ?_
      by_cases hjk : j = k
      · exact hjk ▸ hbelow
      · exact hl j (by rwa [hphase j hjk])

end Spread

/-- Before the scratch directory is opened no call has had anything to do, and then they share the
tree. -/
inductive Shares (tasks : ι → Task) (t opened : Tree) (base : Location) (c : Calls ι)
    (own : ι → Tree) : Prop
  | unopened (tree : c.tree = t)
      (phases : ∀ k, c.phase k = .begun ∨
        Solidity.imports (tasks k).source.text = [] ∧ ∃ result, c.phase k = .returned result)
  | spread (h : Spread tasks opened base c own)

/-- **Together as alone**: every call is in a phase that it comes to alone. -/
structure Together (f : Flattener) (sys : System) (tasks : ι → Task) (t opened : Tree)
    (base : Location) (c : Calls ι) (own : ι → Tree) : Prop where
  alone : ∀ k, f.Alone sys (tasks k) t (c.phase k) (own k)
  shares : Shares tasks t opened base c own

/-- A call that is on its way shares the tree. -/
theorem Together.spread (h : Together f sys tasks t opened base c own) {k : ι}
    (hbegun : c.phase k ≠ .begun) (hreturned : ∀ result, c.phase k ≠ .returned result) :
    Spread tasks opened base c own := by
  cases h.shares with
  | unopened htree hphases =>
      rcases hphases k with hk | ⟨-, result, hk⟩
      · exact absurd hk hbegun
      · exact absurd hk (hreturned result)
  | spread hspread => exact hspread

/-- A call with something to do that has taken a step shares the tree. -/
theorem Together.spread_of_imports (h : Together f sys tasks t opened base c own) {k : ι}
    (himports : Solidity.imports (tasks k).source.text ≠ []) (hbegun : c.phase k ≠ .begun) :
    Spread tasks opened base c own := by
  cases h.shares with
  | unopened htree hphases =>
      rcases hphases k with hk | ⟨hnothing, -⟩
      · exact absurd hk hbegun
      · exact absurd hnothing himports
  | spread hspread => exact hspread

/-- When all calls have returned, the tree is what it was when the scratch directory was opened. -/
theorem Spread.node?_eq (h : Spread tasks opened base c own)
    (hreturned : ∀ k, c.phase k = .begun ∨ ∃ result, c.phase k = .returned result) (l : Location) :
    c.tree.node? l = opened.node? l := by
  refine h.outside l fun k hk => ?_
  rcases hreturned k with hbegun | ⟨result, hresult⟩
  · rw [hbegun] at hk
    cases hk
  · rw [hresult] at hk
    cases hk

end

section

variable {ι : Type} [DecidableEq ι] {f : Flattener} {sys : System} {tasks : ι → Task}
  {t opened : Tree} {base : Location} {c : Calls ι} {own : ι → Tree}

/-- The trees of the calls alone when one of them takes a step. -/
def ownAfter (f : Flattener) (sys : System) (tasks : ι → Task) (c : Calls ι) (own : ι → Tree)
    (k : ι) : ι → Tree :=
  fun j => if j = k then (f.advance sys (tasks k) (c.phase k, own k)).2 else own j

/-- A step of one call leads to the phase that it leads to alone, and the tree stays shared. -/
structure InStep (f : Flattener) (sys : System) (tasks : ι → Task) (t opened : Tree)
    (base : Location) (c : Calls ι) (own : ι → Tree) (k : ι) : Prop where
  phase_eq : (f.advance sys (tasks k) (c.phase k, c.tree)).1 =
    (f.advance sys (tasks k) (c.phase k, own k)).1
  shares : Shares tasks t opened base (c.move f sys tasks k) (ownAfter f sys tasks c own k)

theorem Calls.phase_move_self (k : ι) : (c.move f sys tasks k).phase k =
    (f.advance sys (tasks k) (c.phase k, c.tree)).1 :=
  if_pos rfl

theorem Calls.phase_move_of_ne {j k : ι} (h : j ≠ k) :
    (c.move f sys tasks k).phase j = c.phase j :=
  if_neg h

theorem Calls.tree_move (k : ι) :
    (c.move f sys tasks k).tree = (f.advance sys (tasks k) (c.phase k, c.tree)).2 :=
  rfl

theorem ownAfter_self (k : ι) : ownAfter f sys tasks c own k k =
    (f.advance sys (tasks k) (c.phase k, own k)).2 :=
  if_pos rfl

theorem ownAfter_of_ne {j k : ι} (h : j ≠ k) : ownAfter f sys tasks c own k j = own j :=
  if_neg h

/-! ## One step -/

section

variable {k : ι} {phase' : Phase} {tree' own' : Tree}

/-- A step before the scratch directory is opened. -/
theorem InStep.of_unopened (htree : c.tree = t)
    (hphases : ∀ k, c.phase k = .begun ∨
      Solidity.imports (tasks k).source.text = [] ∧ ∃ result, c.phase k = .returned result)
    (himports : Solidity.imports (tasks k).source.text = []) {result : Except Fault FlattenResult}
    (htogether : f.advance sys (tasks k) (c.phase k, c.tree) = (.returned result, c.tree))
    (halone : f.advance sys (tasks k) (c.phase k, own k) = (.returned result, own')) :
    InStep f sys tasks t opened base c own k := by
  refine ⟨by rw [htogether, halone], .unopened ?_ fun j => ?_⟩
  · rw [Calls.tree_move, htogether, htree]
  · by_cases hjk : j = k
    · rw [hjk, Calls.phase_move_self, htogether]
      exact .inr ⟨himports, result, rfl⟩
    · rw [Calls.phase_move_of_ne hjk]
      exact hphases j

/-- A step that leaves the tree as it is. -/
theorem InStep.of_same (h : Spread tasks opened base c own)
    (htogether : f.advance sys (tasks k) (c.phase k, c.tree) = (phase', c.tree))
    (halone : f.advance sys (tasks k) (c.phase k, own k) = (phase', own'))
    (hlive : phase'.isLive = (c.phase k).isLive)
    (hown : (c.phase k).isLive = true → own' = own k) :
    InStep f sys tasks t opened base c own k := by
  refine ⟨by rw [htogether, halone], .spread (h.of_same (fun j => ?_) ?_ fun j hj => ?_)⟩
  · by_cases hjk : j = k
    · rw [hjk, Calls.phase_move_self, htogether, hlive]
    · rw [Calls.phase_move_of_ne hjk]
  · rw [Calls.tree_move, htogether]
  · by_cases hjk : j = k
    · subst hjk
      rw [ownAfter_self, halone, hown hj]
    · rw [ownAfter_of_ne hjk]

/-- A step that changes the tree in the call's place. -/
theorem InStep.of_place (h : Spread tasks opened base c own)
    (htogether : f.advance sys (tasks k) (c.phase k, c.tree) = (phase', tree'))
    (halone : f.advance sys (tasks k) (c.phase k, own k) = (phase', own'))
    (hothers : ∀ j, j ≠ k → (c.phase j).isLive = true →
      (tasks j).directoryName ≠ (tasks k).directoryName)
    (hoff : ∀ l, ¬ (tasks k).place base <+: l → tree'.node? l = c.tree.node? l)
    (hlive : phase'.isLive = true → ∀ l, (tasks k).place base <+: l →
      tree'.node? l = own'.node? l)
    (hgone : phase'.isLive = false → ∀ l, (tasks k).place base <+: l →
      tree'.node? l = opened.node? l) :
    InStep f sys tasks t opened base c own k := by
  have htree : (c.move f sys tasks k).tree = tree' := by rw [Calls.tree_move, htogether]
  have hphase : (c.move f sys tasks k).phase k = phase' := by
    rw [Calls.phase_move_self, htogether]
  refine ⟨by rw [htogether, halone], .spread (h.of_place k hothers
    (fun j => Calls.phase_move_of_ne) (fun j => ownAfter_of_ne) ?_ ?_ ?_)⟩
  · rwa [htree]
  · rwa [htree, hphase, ownAfter_self, halone]
  · rwa [htree, hphase]

/-- What has returned does nothing. -/
theorem Together.inStep_returned (h : Together f sys tasks t opened base c own)
    {result : Except Fault FlattenResult} (hk : c.phase k = .returned result) :
    InStep f sys tasks t opened base c own k := by
  have hstep : ∀ tree, f.advance sys (tasks k) (c.phase k, tree) = (.returned result, tree) := by
    intro tree
    rw [hk, Flattener.advance]
  cases h.shares with
  | unopened htree hphases =>
      have himports : Solidity.imports (tasks k).source.text = [] := by
        rcases hphases k with hbegun | ⟨himports, -⟩
        · cases hk.symm.trans hbegun
        · exact himports
      exact .of_unopened htree hphases himports (hstep _) (hstep _)
  | spread hspread =>
      refine .of_same hspread (hstep _) (hstep _) ?_ fun _ => rfl
      rw [hk]

end

section

variable (site : Site f sys tasks t opened base) (h : Together f sys tasks t opened base c own)
  {k : ι}

include site h

/-- The scratch directory is opened, or it is there. -/
theorem Together.inStep_begun (hk : c.phase k = .begun) :
    InStep f sys tasks t opened base c own k := by
  have hown : own k = t := by
    have halone := h.alone k
    rw [hk] at halone
    cases halone
    rfl
  have hdead : (c.phase k).isLive ≠ true := by simp [hk, Phase.isLive]
  by_cases himports : Solidity.imports (tasks k).source.text = []
  · -- nothing is to be done, and nothing is done
    have hstep : ∀ tree, f.advance sys (tasks k) (c.phase k, tree) =
        (.returned (.ok (.untouched (tasks k).source)), tree) := by
      intro tree
      rw [hk, Flattener.advance, if_pos himports]
    cases h.shares with
    | unopened htree hphases => exact .of_unopened htree hphases himports (hstep _) (hstep _)
    | spread hspread =>
        refine .of_same hspread (hstep _) (hstep _) ?_ fun hlive => absurd hlive hdead
        simp [hk, Phase.isLive]
  · have hstep : ∀ tree tree', openScratch f.scratchDir tree = .ok tree' →
        f.advance sys (tasks k) (c.phase k, tree) = (.opened, tree') := by
      intro tree tree' hopen
      rw [hk, Flattener.advance, if_neg himports, hopen]
    have halone : f.advance sys (tasks k) (c.phase k, own k) = (.opened, opened) :=
      hstep _ _ (hown ▸ site.opens)
    cases h.shares with
    | unopened htree hphases =>
        -- this is the first call with something to do, and no call is live yet
        have htogether : f.advance sys (tasks k) (c.phase k, c.tree) = (.opened, opened) :=
          hstep _ _ (htree ▸ site.opens)
        have hnone : ∀ j, ((c.move f sys tasks k).phase j).isLive ≠ true := by
          intro j
          by_cases hjk : j = k
          · rw [hjk, Calls.phase_move_self, htogether]
            simp [Phase.isLive]
          · rw [Calls.phase_move_of_ne hjk]
            rcases hphases j with hj | ⟨-, result, hj⟩
            · simp [hj, Phase.isLive]
            · simp [hj, Phase.isLive]
        refine ⟨by rw [htogether, halone], .spread ⟨?_, ?_, ?_⟩⟩
        · exact fun i j hi => absurd hi (hnone i)
        · exact fun j hj => absurd hj (hnone j)
        · intro l _
          rw [Calls.tree_move, htogether]
    | spread hspread =>
        have htogether : f.advance sys (tasks k) (c.phase k, c.tree) = (.opened, c.tree) :=
          hstep _ _ (site.openScratch_eq (hspread.hosts site h.alone))
        refine .of_same hspread htogether halone ?_ fun hlive => absurd hlive hdead
        simp [hk, Phase.isLive]

/-- The directory of a call is made beside those of the others. -/
theorem Together.inStep_opened (hk : c.phase k = .opened)
    (hused : f.makeRoom sys (tasks k) c.tree ≠ .error .namesTaken) :
    InStep f sys tasks t opened base c own k := by
  have hspread : Spread tasks opened base c own := h.spread (by rw [hk]; simp) (by rw [hk]; simp)
  have hown : own k = opened := by
    have halone := h.alone k
    rw [hk] at halone
    cases halone with
    | opened himports hopen => exact Except.ok.inj (hopen.symm.trans site.opens)
  have hdead : (c.phase k).isLive ≠ true := by rw [hk]; simp [Phase.isLive]
  rcases Flattener.makeRoom_alike (t := opened) hused fun hne =>
    (hspread.vacancy_eq site h.alone k).resolve_right fun hthere => hne hthere.1 with
    ⟨fault, hfault, hfault'⟩ | ⟨place, hvacancy, hvacancy', hmade, hmade'⟩
  · have htogether : f.advance sys (tasks k) (c.phase k, c.tree) =
        (.returned (.ok (.failed (tasks k).source fault.describe)), c.tree) := by
      rw [hk, Flattener.advance, hfault]
    have halone : f.advance sys (tasks k) (c.phase k, own k) =
        (.returned (.ok (.failed (tasks k).source fault.describe)), opened) := by
      rw [hk, hown, Flattener.advance, hfault']
    exact .of_same hspread htogether halone (by rw [hk]; rfl) fun hlive => absurd hlive hdead
  · obtain rfl := site.place_eq k place hvacancy'
    obtain ⟨-, -, hfree, parent, hplace, -⟩ := Tree.vacancy_eq_ok hvacancy
    have hne : (tasks k).place base ≠ [] := by simp [hplace]
    have htogether : f.advance sys (tasks k) (c.phase k, c.tree) =
        (.made (f.room sys (tasks k)), c.tree.set ((tasks k).place base) .directory) := by
      rw [hk, Flattener.advance, hmade]
    have halone : f.advance sys (tasks k) (c.phase k, own k) =
        (.made (f.room sys (tasks k)), opened.set ((tasks k).place base) .directory) := by
      rw [hk, hown, Flattener.advance, hmade']
    -- no live call has this name, because its directory would be in the way
    have hothers : ∀ j, (c.phase j).isLive = true →
        (tasks j).directoryName ≠ (tasks k).directoryName := by
      intro j hj hname
      have hplaces : (tasks j).place base = (tasks k).place base := by
        rw [Task.place, Task.place, hname]
      have hdirectory := (site.home (h.alone j) hj).directory
      rw [← hspread.inside j hj _ (List.prefix_refl _), hplaces, hfree] at hdirectory
      cases hdirectory
    refine .of_place hspread htogether halone (fun j _ => hothers j) (fun l hl => ?_)
      (fun _ l hl => ?_) fun hgone => by cases hgone
    · rw [Tree.node?_set_of_ne hne]
      rintro rfl
      exact hl (List.prefix_refl _)
    · rw [Tree.node?_set hne, Tree.node?_set hne]
      have hsame : c.tree.node? l = opened.node? l := hspread.outside l fun j hj hbelow =>
        hothers j hj (Task.directoryName_eq hbelow hl)
      rw [hsame]

/-- The source is written in the call's directory. -/
theorem Together.inStep_made {directory : Path} (hk : c.phase k = .made directory) :
    InStep f sys tasks t opened base c own k := by
  have hspread : Spread tasks opened base c own := h.spread (by rw [hk]; simp) (by rw [hk]; simp)
  have hlive : (c.phase k).isLive = true := by rw [hk]; rfl
  have hmade := h.alone k
  rw [hk] at hmade
  obtain ⟨place, home, rfl, hfree⟩ := hmade.exists_home_of_made site.opens site.rooted
  obtain rfl := site.place_eq k place home.vacant
  have hinside := hspread.inside k hlive
  have hfree' : ∀ name, c.tree.node? ((tasks k).place base ++ [name]) = none := by
    intro name
    rw [hinside _ (List.prefix_append ..), hfree]
  have hfind := home.find site.rooted (Flattener.name_room_ne (site.endings k))
  rcases Flattener.writeSource_alike (tasks k).source.text hfind
      (hfree (Flattener.fileName (tasks k))) (hspread.find site h.alone hlive) (hfree' _) with
    ⟨fault, hfault, hfault'⟩ | ⟨hwritten, hwritten'⟩
  · have htogether : f.advance sys (tasks k) (c.phase k, c.tree) =
        (.answered (f.room sys (tasks k)) (.error fault), c.tree) := by
      rw [hk, Flattener.advance, hfault]
    have halone : f.advance sys (tasks k) (c.phase k, own k) =
        (.answered (f.room sys (tasks k)) (.error fault), own k) := by
      rw [hk, Flattener.advance, hfault']
    refine .of_same hspread htogether halone ?_ fun _ => rfl
    rw [hlive]
    rfl
  · generalize hfile : (tasks k).place base ++ [Flattener.fileName (tasks k)] = file at *
    generalize Utf8.encode (tasks k).source.text = bytes at *
    have htogether : f.advance sys (tasks k) (c.phase k, c.tree) =
        (.staged (f.room sys (tasks k)), c.tree.set file (.file bytes)) := by
      rw [hk, Flattener.advance, hwritten]
    have halone : f.advance sys (tasks k) (c.phase k, own k) =
        (.staged (f.room sys (tasks k)), (own k).set file (.file bytes)) := by
      rw [hk, Flattener.advance, hwritten']
    have hne : file ≠ [] := by simp [← hfile]
    refine .of_place hspread htogether halone (fun j hjk hj hname => ?_) (fun l hl => ?_)
      (fun _ l hl => ?_) fun hgone => by cases hgone
    · exact hjk (hspread.apart j k hj hlive hname)
    · rw [Tree.node?_set_of_ne hne]
      rintro rfl
      exact hl (hfile ▸ List.prefix_append ..)
    · rw [Tree.node?_set hne, Tree.node?_set hne, hinside l hl]

/-- The backend's answer is the same. -/
theorem Together.inStep_staged (hbackend : f.Undisturbed sys t (tasks k)) {directory : Path}
    (hk : c.phase k = .staged directory) : InStep f sys tasks t opened base c own k := by
  have hspread : Spread tasks opened base c own := h.spread (by rw [hk]; simp) (by rw [hk]; simp)
  have hlive : (c.phase k).isLive = true := by rw [hk]; rfl
  have hstaged := h.alone k
  rw [hk] at hstaged
  obtain ⟨place, home, rfl⟩ :=
    hstaged.exists_home_of_staged site.opens site.rooted (site.endings k)
  obtain rfl := site.place_eq k place home.vacant
  have hhosts : (own k).Hosts c.tree ((tasks k).place base).dropLast := by
    rw [Task.place, List.dropLast_concat]
    exact hspread.hosts_own site h.alone hlive
  have hanswer : f.ask sys (tasks k) (f.room sys (tasks k)) c.tree =
      f.ask sys (tasks k) (f.room sys (tasks k)) (own k) :=
    hbackend _ _ _ _ hstaged.stage_eq
      (home.find site.rooted (Flattener.name_room_ne (site.endings k))) _ hhosts
  have htogether : f.advance sys (tasks k) (c.phase k, c.tree) =
      (.answered (f.room sys (tasks k)) (f.ask sys (tasks k) (f.room sys (tasks k)) (own k)),
        c.tree) := by
    rw [hk, Flattener.advance, hanswer]
  have halone : f.advance sys (tasks k) (c.phase k, own k) =
      (.answered (f.room sys (tasks k)) (f.ask sys (tasks k) (f.room sys (tasks k)) (own k)),
        own k) := by
    rw [hk, Flattener.advance]
  refine .of_same hspread htogether halone ?_ fun _ => rfl
  rw [hlive]
  rfl

/-- Only the call's own directory is removed. -/
theorem Together.inStep_answered {directory : Path} {answer : Except Fault Json}
    (hk : c.phase k = .answered directory answer) :
    InStep f sys tasks t opened base c own k := by
  have hspread : Spread tasks opened base c own := h.spread (by rw [hk]; simp) (by rw [hk]; simp)
  have hlive : (c.phase k).isLive = true := by rw [hk]; rfl
  have home := site.home (h.alone k) hlive
  have hanswered := h.alone k
  rw [hk] at hanswered
  obtain rfl : directory = f.room sys (tasks k) := by
    cases hanswered with
    | unwritten before =>
        obtain ⟨-, -, rfl, -⟩ := before.exists_home_of_made site.opens site.rooted
        rfl
    | answered before =>
        obtain ⟨-, -, rfl⟩ :=
          before.exists_home_of_staged site.opens site.rooted (site.endings k)
        rfl
  have hne : (tasks k).place base ≠ [] := by simp [Task.place]
  have htogether : f.advance sys (tasks k) (c.phase k, c.tree) =
      (.returned (f.conclude (tasks k) answer), c.tree.removeAll ((tasks k).place base)) := by
    rw [hk, Flattener.advance, removeDirectory, hspread.find site h.alone hlive]
  have halone : f.advance sys (tasks k) (c.phase k, own k) =
      (.returned (f.conclude (tasks k) answer), (own k).removeAll ((tasks k).place base)) := by
    rw [hk, Flattener.advance, removeDirectory,
      home.find site.rooted (Flattener.name_room_ne (site.endings k))]
  refine .of_place hspread htogether halone (fun j hjk hj hname => ?_) (fun l hl => ?_)
    (fun hgone => by cases hgone) fun _ l hl => ?_
  · exact hjk (hspread.apart j k hj hlive hname)
  · rw [Tree.node?_removeAll hne, if_neg hl]
  · rw [Tree.node?_removeAll hne, if_pos hl, home.none_below site.rooted hl]

/-- **A step of one call does what it does alone**, whatever the others do. -/
theorem Together.inStep (hbackend : f.Undisturbed sys t (tasks k))
    (hused : c.phase k = .opened → f.makeRoom sys (tasks k) c.tree ≠ .error .namesTaken) :
    InStep f sys tasks t opened base c own k := by
  cases hk : c.phase k with
  | begun => exact h.inStep_begun site hk
  | opened => exact h.inStep_opened site hk (hused hk)
  | made directory => exact h.inStep_made site hk
  | staged directory => exact h.inStep_staged site hbackend hk
  | answered directory answer => exact h.inStep_answered site hk
  | returned result => exact h.inStep_returned hk

theorem Together.move (hbackend : f.Undisturbed sys t (tasks k))
    (hused : c.phase k = .opened → f.makeRoom sys (tasks k) c.tree ≠ .error .namesTaken) :
    Together f sys tasks t opened base (c.move f sys tasks k) (ownAfter f sys tasks c own k) := by
  have hstep := h.inStep site hbackend hused
  refine ⟨fun j => ?_, hstep.shares⟩
  by_cases hjk : j = k
  · subst hjk
    rw [Calls.phase_move_self, hstep.phase_eq, ownAfter_self]
    exact (h.alone j).advance
  · rw [Calls.phase_move_of_ne hjk, ownAfter_of_ne hjk]
    exact h.alone j

end

end

end Flatten

end ContractVerifier
