import ContractVerifier.Proofs.Flatten.Confinement
import ContractVerifier.Proofs.Flatten.Together

set_option autoImplicit false

/-! # Backends that guests do not disturb

A backend whose answer depends only on the call's own directory and on the import root is not
disturbed by what comes to stand in the scratch directory, if the import root and the scratch
directory have nothing to do with each other (`Flattener.Secluded.undisturbed`).

The import graph is not disturbed either if no import of a file that it comes to stands for a
location in the scratch directory where nothing is (`Flattener.undisturbed_importGraph`).
-/

namespace ContractVerifier

open Flatten Solidity

namespace Tree

variable {t t' : Tree} {base l : Location} {p : Path}

/-- What is on the way to something that is found is a directory. -/
theorem Arrives.directory_above {here : Location} {names : List Text} {n : Nat}
    (h : Arrives t here names l n)
    (hhere : ∀ k, k <+: here → k ≠ here → t.node? k = some .directory) :
    ∀ k, k <+: l → k ≠ l → t.node? k = some .directory := by
  have hbelow : ∀ {here : Location} {name : Text}, t.node? here = some .directory →
      (∀ k, k <+: here → k ≠ here → t.node? k = some .directory) →
        ∀ k, k <+: here ++ [name] → k ≠ here ++ [name] → t.node? k = some .directory := by
    intro here name hdirectory habove k hk hne
    rcases List.prefix_concat_iff.mp hk with hsame | hk
    · exact absurd hsame hne
    · by_cases hkh : k = here
      · rw [hkh, hdirectory]
      · exact habove k hk hkh
  induction h with
  | done => exact hhere
  | blank _ _ _ ih => exact ih hhere
  | @up here l rest n directory _ ih =>
      refine ih fun k hk _ => ?_
      by_cases hkh : k = here
      · rw [hkh, directory]
      · exact hhere k (hk.trans (List.dropLast_prefix here)) hkh
  | entry directory _ _ _ _ _ ih => exact ih (hbelow directory hhere)
  | @link here l name target rest n directory _ _ _ _ ih =>
      refine ih fun k hk hne => ?_
      unfold linkStart at hk hne
      split at hk
      · rw [List.prefix_nil.mp hk]
        rfl
      · rename_i hstart
        rw [if_neg hstart] at hne
        exact hhere k hk hne

/-- A location is **off** a directory if it is not below a free name in it. -/
def Off (t : Tree) (base l : Location) : Prop :=
  ∀ name, base ++ [name] <+: l → t.node? (base ++ [name]) ≠ none

theorem off_of_find {node : Node} (h : t.find p = .ok (l, node)) (base : Location) :
    t.Off base l := by
  obtain ⟨-, -, hnode, n, -, harrives⟩ := find_eq_ok_iff.mp h
  intro name hname
  by_cases hl : base ++ [name] = l
  · rw [hl, hnode]
    simp
  · have hnothing : ∀ k, k <+: [] → k ≠ [] → t.node? k = some .directory :=
      fun k hk hne => absurd (List.prefix_nil.mp hk) hne
    rw [harrives.directory_above hnothing _ hname hl]
    simp

/-- Whether something is a file is the same with guests. -/
theorem Hosts.isFile_eq (h : t.Hosts t' base) (hl : t.Settled l) (hoff : t.Off base l) :
    t'.isFile (.ofLocation l) = t.isFile (.ofLocation l) := by
  rw [isFile, isFile, h.find_eq_of_settled hl hoff]

end Tree

namespace Flatten

variable {t t' : Tree} {roots : Roots} {base : Location} {entry importRoot : Path}

/-- The import can be followed, and it stands for a location off the directory. -/
structure StaysOff (t : Tree) (base : Location) (roots : Roots) (here : Location) (path : Text) :
    Prop where
  followed : followsFully t (candidate roots here path) = true
  off : ∀ l, t.resolve (candidate roots here path) = .ok l → t.Off base l

theorem StaysOff.leadsTo_eq {here : Location} {path : Text} (hoff : StaysOff t base roots here path)
    (h : t.Hosts t' base) : leadsTo t roots here path = leadsTo t' roots here path := by
  rw [leadsTo, leadsTo, h.resolve_eq hoff.followed]
  cases hresolve : t.resolve (candidate roots here path) with
  | error e => rfl
  | ok l =>
      have hsettled : t.Settled l := Tree.resolvesFully_of_complete hoff.followed l hresolve
      simp only [h.isFile_eq hsettled (hoff.off l hresolve)]

/-- The import root can be followed, and so can all imports of the files that the walk comes to. -/
structure WalksOff (t : Tree) (base : Location) (entry importRoot : Path) : Prop where
  root : followsFully t importRoot = true
  imports : ∀ e r, t.resolve entry = .ok e → t.resolve importRoot = .ok r →
    ∀ a text, Reaches t ⟨r, e.dropLast⟩ e a → t.readText (.ofLocation a) = .ok text →
      ∀ i ∈ Solidity.imports text, StaysOff t base ⟨r, e.dropLast⟩ a i.path

/-- **The walk is the same with guests.** -/
theorem walkGraph_eq_of_hosts (depth : Nat) (h : t.Hosts t' base) {l : Location}
    {bytes : List UInt8} (hfind : t.find entry = .ok (l, .file bytes))
    (hoff : WalksOff t base entry importRoot) :
    walkGraph depth t entry importRoot = walkGraph depth t' entry importRoot := by
  obtain ⟨hentry, hsettled⟩ := Tree.resolve_of_find hfind
  have hentry' : t'.resolve entry = .ok l := (Tree.resolve_of_find (h.find_eq hfind)).1
  have hroot : t'.resolve importRoot = t.resolve importRoot := h.resolve_eq hoff.root
  have hread : ∀ {k}, t.Settled k → t.Off base k →
      t.readText (.ofLocation k) = t'.readText (.ofLocation k) := fun hk hk' =>
    Tree.readText_of_find_eq (h.find_eq_of_settled hk hk').symm
  refine walkGraph_congr (hentry.trans hentry'.symm) hroot.symm ?_ ?_
  · intro e he
    obtain rfl := Except.ok.inj (hentry.symm.trans he)
    exact hread hsettled (Tree.off_of_find hfind base)
  · intro e r text p he hr htext
    have himports := hoff.imports e r he hr
    refine inline_congr ?_ ?_ htext
    · intro a text ha htext i hi
      exact (himports a text ha htext i hi).leadsTo_eq h
    · rintro a b ha ⟨text, i, htext, hi, hlead⟩
      obtain ⟨hresolve, -, -⟩ := isFile_of_leadsTo hlead
      have hstays := himports a text ha htext i hi
      have hb : t.Settled b := Tree.resolvesFully_of_complete hstays.followed b hresolve
      exact hread hb (hstays.off b hresolve)

end Flatten

namespace Flattener

variable {f : Flattener} {sys : System} {t : Tree} {task : Task}

/-- **Guests do not disturb the import graph**, unless an import stands for a place where guests
may come. -/
theorem undisturbed_importGraph {depth : Nat} (hbackend : f.backend = .importGraph depth)
    (hoff : ∀ directory file staged place,
      f.stage (task.system sys).scratch t task.source.text task.contractName =
        .ok (directory, file, staged) →
      staged.find directory = .ok (place, .directory) →
        WalksOff staged place.dropLast file (.ofLocation f.importRoot)) :
    f.Undisturbed sys t task := by
  intro directory file staged place hstage hfind t' hhosts
  obtain ⟨l, hfile⟩ := exists_find_of_stage hstage
  have hwalk := walkGraph_eq_of_hosts depth hhosts hfile (hoff _ _ _ _ hstage hfind)
  rw [hbackend]
  simp only [Backend.flatten, flattenGraph, hwalk]

/-- The answer for a task's staged source depends only on the task's own directory and on the import
root. -/
def Secluded (f : Flattener) (sys : System) (t : Tree) (task : Task) : Prop :=
  ∀ directory file staged place,
    f.stage (task.system sys).scratch t task.source.text task.contractName =
      .ok (directory, file, staged) →
    staged.find directory = .ok (place, .directory) →
      ∀ t', t'.find directory = .ok (place, .directory) → SameBelow staged t' place →
        SameBelow staged t' f.importRoot →
          f.backend.flatten sys.run t' file (.ofLocation f.importRoot) =
            f.backend.flatten sys.run staged file (.ofLocation f.importRoot)

/-- **What depends on nothing else is not disturbed by guests**, if the import root and the scratch
directory do not contain each other. -/
theorem Secluded.undisturbed (h : f.Secluded sys t task)
    (hroot : ∀ directory file staged place,
      f.stage (task.system sys).scratch t task.source.text task.contractName =
        .ok (directory, file, staged) →
      staged.find directory = .ok (place, .directory) →
        ¬ f.importRoot <+: place.dropLast ∧ ¬ place.dropLast <+: f.importRoot) :
    f.Undisturbed sys t task := by
  intro directory file staged place hstage hfind t' hhosts
  obtain ⟨hnotAbove, hnotBelow⟩ := hroot _ _ _ _ hstage hfind
  have hplace : staged.node? place = some .directory := (Tree.find_eq_ok_iff.mp hfind).2.2.1
  refine h _ _ _ _ hstage hfind t' (hhosts.find_eq hfind) (fun l hl => ?_) fun l hl => ?_
  · by_contra hne
    obtain ⟨name, hname, hnone⟩ := hhosts.guest l (Ne.symm hne)
    have hnotRoot : place ≠ [] := by
      rintro rfl
      exact hnotBelow List.nil_prefix
    have hlength : (place.dropLast ++ [name]).length = place.length := by
      have hpos : 0 < place.length := List.length_pos_iff.mpr hnotRoot
      rw [List.length_append, List.length_dropLast, List.length_singleton]
      omega
    -- the guest's place and the call's are the same, but only the call's is taken
    have hsame : place.dropLast ++ [name] = place :=
      (List.prefix_of_prefix_length_le hname hl hlength.le).eq_of_length hlength
    have hfree : staged.node? place = none := hnone place (by rw [hsame])
    cases hfree.symm.trans hplace
  · by_contra hne
    obtain ⟨name, hname, -⟩ := hhosts.guest l (Ne.symm hne)
    rcases List.prefix_or_prefix_of_prefix hl hname with habove | hbelow
    · rcases List.prefix_concat_iff.mp habove with hsame | habove
      · exact hnotBelow (hsame ▸ List.prefix_append _ _)
      · exact hnotAbove habove
    · exact hnotBelow ((List.prefix_append _ _).trans hbelow)

end Flattener

end ContractVerifier
