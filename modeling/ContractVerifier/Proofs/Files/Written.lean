import ContractVerifier.Files.Change
import ContractVerifier.Proofs.Files.Found

set_option autoImplicit false

/-! # Files that are written

Where a file is written does not depend on its bytes, and it is found there (`exists_writeFile_eq`).
Two trees that differ in the bytes of files alone (`SameNodes`) have files at the same places and
resolve all paths alike.

A directory that is made is found where it was made (`exists_of_makeDirectory`). It is empty if every
entry stood in a directory before (`Rooted`), and so they still do.
-/

namespace ContractVerifier

/-! ## The last name of a path -/

/-- A path that ends in a name is that name behind the others. -/
theorem Path.names_eq {p : Path} (h : p.name ≠ []) : p.names = p.names.dropLast ++ [p.name] := by
  have hlast : p.names ≠ [] := by
    intro hnil
    exact h (by rw [Path.name, hnil]; rfl)
  rw [Path.name, List.getLast?_eq_some_getLast hlast]
  exact (List.dropLast_append_getLast hlast).symm

/-- The name of a path is one of its names, if there is one. -/
theorem Path.name_ne_of_not_mem {p : Path} {name : Text} (hname : name ≠ [])
    (h : name ∉ p.names) : p.name ≠ name := by
  intro heq
  rw [Path.name, Option.getD_eq_iff] at heq
  rcases heq with hlast | ⟨-, hnil⟩
  · exact h (List.mem_of_getLast? hlast)
  · exact hname hnil.symm

/-- A path that is read from a text has no name `.`. -/
theorem Path.dot_not_mem_ofText (text : Text) : ['.'] ∉ (Path.ofText text).names := by
  intro hmem
  have hkept := List.of_mem_filter hmem
  simp at hkept

namespace Tree

variable {t t₁ t₂ : Tree} {l : Location} {p : Path}

/-! ## Trees with the same entries -/

/-- The trees have the same entries, apart from the bytes of files. -/
structure SameNodes (t₁ t₂ : Tree) : Prop extends SameSkeleton t₁ t₂ where
  none_iff : ∀ l, t₁.node? l = none ↔ t₂.node? l = none

theorem SameNodes.symm (h : SameNodes t₁ t₂) : SameNodes t₂ t₁ :=
  ⟨h.toSameSkeleton.symm, fun l => (h.none_iff l).symm⟩

/-- Names arrive in a tree with more entries too. -/
theorem Arrives.of_more {here : Location} {names : List Text} {n : Nat}
    (hdirectory : ∀ k, t₁.node? k = some .directory → t₂.node? k = some .directory)
    (hmore : ∀ k, t₁.node? k ≠ none → t₂.node? k ≠ none ∧ t₁.link? k = t₂.link? k)
    (harrives : Arrives t₁ here names l n) : Arrives t₂ here names l n := by
  induction harrives with
  | done => exact .done
  | blank directory hname next ih => exact .blank (hdirectory _ directory) hname ih
  | up directory next ih => exact .up (hdirectory _ directory) ih
  | entry directory hname short there plain next ih =>
      obtain ⟨there', hlink⟩ := hmore _ there
      exact .entry (hdirectory _ directory) hname short there' (hlink ▸ plain) ih
  | @link here l name target rest n directory hname short leads next ih =>
      have there : t₁.node? (here ++ [name]) ≠ none := by simp [link?_eq_some_iff.mp leads]
      exact .link (hdirectory _ directory) hname short ((hmore _ there).2 ▸ leads) ih

/-- What stands at a location is of the same kind in both trees. -/
theorem SameNodes.isFile_node (h : SameNodes t₁ t₂) {bytes : List UInt8}
    (hnode : t₁.node? l = some (.file bytes)) : ∃ bytes', t₂.node? l = some (.file bytes') := by
  cases hnode' : t₂.node? l with
  | none =>
      rw [(h.none_iff l).mpr hnode'] at hnode
      cases hnode
  | some node =>
      cases node with
      | file bytes' => exact ⟨bytes', rfl⟩
      | directory =>
          rw [(h.directory_iff l).mpr hnode'] at hnode
          cases hnode
      | link target =>
          have hlink := (h.link?_eq l).trans (link?_eq_some_iff.mpr hnode')
          rw [link?_eq_some_iff.mp hlink] at hnode
          cases hnode

theorem SameNodes.exists_find (h : SameNodes t₁ t₂) {node : Node}
    (hfind : t₁.find p = .ok (l, node)) : ∃ node', t₂.find p = .ok (l, node') := by
  obtain ⟨hzero, hlong, hnode, n, hn, harrives⟩ := find_eq_ok_iff.mp hfind
  have hmore : ∀ k, t₁.node? k ≠ none → t₂.node? k ≠ none ∧ t₁.link? k = t₂.link? k :=
    fun k hk => ⟨mt (h.none_iff k).mpr hk, h.link?_eq k⟩
  have harrives' := harrives.of_more (fun k => (h.directory_iff k).mp) hmore
  cases hnode' : t₂.node? l with
  | none =>
      rw [(h.none_iff l).mpr hnode'] at hnode
      cases hnode
  | some node' => exact ⟨node', find_eq_ok_iff.mpr ⟨hzero, hlong, hnode', n, hn, harrives'⟩⟩

theorem SameNodes.isFile_of_isFile (h : SameNodes t₁ t₂) (hfile : t₁.isFile p = .ok true) :
    t₂.isFile p = .ok true := by
  rw [isFile] at hfile
  split at hfile
  · rename_i l bytes hfind
    obtain ⟨node', hfind'⟩ := h.exists_find hfind
    obtain ⟨bytes', hnode'⟩ := h.isFile_node (find_eq_ok_iff.mp hfind).2.2.1
    obtain rfl := Option.some.inj ((find_eq_ok_iff.mp hfind').2.2.1.symm.trans hnode')
    rw [isFile, hfind']
  · cases hfile
  · cases hfile
  · cases hfile

/-- **Files are where they were.** -/
theorem SameNodes.isFile_eq (h : SameNodes t₁ t₂) (p : Path) : t₁.isFile p = t₂.isFile p := by
  cases h₁ : t₁.isFile p with
  | error e => exact (h.isFile_eq_error_iff.mp h₁).symm
  | ok b₁ =>
      cases h₂ : t₂.isFile p with
      | error e =>
          rw [h.isFile_eq_error_iff.mpr h₂] at h₁
          cases h₁
      | ok b₂ =>
          congr 1
          rw [Bool.eq_iff_iff]
          constructor
          · rintro rfl
            exact Except.ok.inj (h₂.symm.trans (h.isFile_of_isFile h₁))
          · rintro rfl
            exact Except.ok.inj (h₁.symm.trans (h.symm.isFile_of_isFile h₂))

/-! ## Writing -/

theorem sameNodes_set {bytes bytes' : List UInt8} (hl : l ≠ []) (h : t.Ends l) :
    SameNodes (t.set l (.file bytes)) (t.set l (.file bytes')) := by
  have hskeleton : SameSkeleton (t.set l (.file bytes)) t := sameSkeleton_set hl h
  have hskeleton' : SameSkeleton (t.set l (.file bytes')) t := sameSkeleton_set hl h
  refine ⟨⟨fun k => (hskeleton.directory_iff k).trans (hskeleton'.directory_iff k).symm,
    fun k => (hskeleton.link?_eq k).trans (hskeleton'.link?_eq k).symm⟩, fun k => ?_⟩
  rw [node?_set hl, node?_set hl]
  split <;> simp

theorem ends_of_find {node : Node} (h : t.find p = .ok (l, node)) (hnode : node ≠ .directory) :
    t.Ends l := by
  have hthere := (find_eq_ok_iff.mp h).2.2.1
  cases node with
  | file bytes => exact .inr ⟨bytes, hthere⟩
  | directory => exact absurd rfl hnode
  | link target =>
      have hlink := (resolve_of_find h).2.link?_eq_none l (List.prefix_refl l)
      rw [link?_eq_some_iff.mpr hthere] at hlink
      cases hlink

theorem arrives_set {bytes : List UInt8} {here k : Location} {names : List Text} {n : Nat}
    (hl : l ≠ []) (hends : t.Ends l) (h : Arrives t here names k n) :
    Arrives (t.set l (.file bytes)) here names k n := by
  have hskeleton : SameSkeleton (t.set l (.file bytes)) t := sameSkeleton_set hl hends
  refine h.of_more (fun j => (hskeleton.directory_iff j).mpr) fun j hj =>
    ⟨?_, (hskeleton.link?_eq j).symm⟩
  rw [node?_set hl]
  split
  · simp
  · exact hj

/-- An entry where nothing was is in nobody's way. -/
theorem arrives_set_of_none {node : Node} {here k : Location} {names : List Text} {n : Nat}
    (hl : l ≠ []) (hfree : t.node? l = none) (h : Arrives t here names k n) :
    Arrives (t.set l node) here names k n := by
  have hsame : ∀ j, t.node? j ≠ none → (t.set l node).node? j = t.node? j := by
    intro j hj
    rw [node?_set_of_ne hl]
    rintro rfl
    exact hj hfree
  refine h.of_more (fun j hj => ?_) fun j hj => ⟨?_, ?_⟩
  · rw [hsame j (by simp [hj]), hj]
  · rwa [hsame j hj]
  · rw [link?, link?, hsame j hj]

/-- What a place for a new entry is. -/
theorem vacancy_eq_ok (h : t.vacancy p = .ok l) :
    p.text.contains '\x00' = false ∧ ¬ maxPath < (Utf8.encode p.text).length ∧
      t.node? l = none ∧ ∃ parent, l = parent ++ [p.name] ∧ t.node? parent = some .directory ∧
        p.name ≠ [] ∧ p.name ≠ ['.', '.'] ∧ ¬ maxName < (Utf8.encode p.name).length ∧
          ∃ n ≤ maxLinks, Arrives t [] p.names.dropLast parent n := by
  rw [vacancy] at h
  split at h
  · cases h
  rename_i hzero
  split at h
  · cases h
  rename_i hlong
  split at h
  · cases h
  rename_i parent hwalk
  split at h
  · cases h
  rename_i hparent
  split at h
  · cases h
  rename_i hname
  split at h
  · cases h
  rename_i hshort
  split at h
  · cases h
  rename_i hfree
  obtain rfl := Except.ok.inj h
  rw [not_or] at hname
  exact ⟨by simpa using hzero, hlong, by simpa using hfree, parent, rfl, not_not.mp hparent,
    hname.1, hname.2, hshort, exists_arrives_of_walk hwalk⟩

/-- The path leads to its vacancy once an entry is there. -/
theorem exists_arrives_of_vacancy {node : Node} (hname : p.name ≠ ['.'])
    (hnode : ∀ target, node ≠ .link target) (h : t.vacancy p = .ok l) :
    ∃ n ≤ maxLinks, Arrives (t.set l node) [] p.names l n := by
  obtain ⟨-, -, hfree, parent, rfl, hparent, hne, hup, hshort, n, hn, harrives⟩ := vacancy_eq_ok h
  have hl : parent ++ [p.name] ≠ [] := by simp
  have hself : (t.set (parent ++ [p.name]) node).node? (parent ++ [p.name]) = some node :=
    node?_set_self hl
  have hplain : (t.set (parent ++ [p.name]) node).link? (parent ++ [p.name]) = none := by
    cases hlink : (t.set (parent ++ [p.name]) node).link? (parent ++ [p.name]) with
    | none => rfl
    | some target =>
        rw [link?_eq_some_iff.mp hlink] at hself
        exact absurd (Option.some.inj hself).symm (hnode target)
  have hbefore : (t.set (parent ++ [p.name]) node).node? parent = some .directory := by
    rw [node?_set_of_ne hl (by simp), hparent]
  have hstep : Arrives (t.set (parent ++ [p.name]) node) parent [p.name]
      (parent ++ [p.name]) 0 := by
    refine .entry hbefore ⟨hne, hname, hup⟩ hshort ?_ hplain .done
    rw [hself]
    simp
  refine ⟨n + 0, by omega, ?_⟩
  rw [Path.names_eq hne]
  exact (arrives_set_of_none hl hfree harrives).append hstep

/-- **A file is written to one place, whatever its bytes, and found there.** -/
theorem exists_writeFile_eq {bytes : List UInt8} {t' : Tree} (hname : p.name ≠ ['.'])
    (h : t.writeFile p bytes = .ok t') :
    ∃ l, l ≠ [] ∧ t.Ends l ∧ ∀ bytes, t.writeFile p bytes = .ok (t.set l (.file bytes)) ∧
      (t.set l (.file bytes)).find p = .ok (l, .file bytes) := by
  rw [writeFile] at h
  split at h
  · cases h
  · -- something is written over
    rename_i l node hdir hfind
    have hnode : node ≠ .directory := by
      rintro rfl
      exact hdir rfl
    have hends := ends_of_find hfind hnode
    obtain ⟨hzero, hlong, hthere, n, hn, harrives⟩ := find_eq_ok_iff.mp hfind
    have hl : l ≠ [] := by
      rintro rfl
      exact hnode (Option.some.inj hthere).symm
    refine ⟨l, hl, hends, fun bytes => ⟨?_, ?_⟩⟩
    · rw [writeFile, hfind]
      cases node with
      | directory => exact absurd rfl hnode
      | file => rfl
      | link => rfl
    · exact find_eq_ok_iff.mpr
        ⟨hzero, hlong, node?_set_self hl, n, hn, arrives_set hl hends harrives⟩
  · -- the file is new
    rename_i path hfind
    cases hvacancy : t.vacancy p with
    | error e =>
        rw [hvacancy] at h
        cases h
    | ok l =>
        obtain ⟨hzero, hlong, hfree, parent, hlast, -⟩ := vacancy_eq_ok hvacancy
        have hl : l ≠ [] := by simp [hlast]
        refine ⟨l, hl, .inl hfree, fun bytes => ⟨?_, ?_⟩⟩
        · rw [writeFile, hfind, hvacancy]
          rfl
        · exact find_eq_ok_iff.mpr ⟨hzero, hlong, node?_set_self hl,
            exists_arrives_of_vacancy hname (by simp) hvacancy⟩
  · cases h

/-! ## Making directories -/

/-- **A directory is made where nothing was**, and the path leads there. -/
theorem exists_of_makeDirectory {t' : Tree} (hname : p.name ≠ ['.'])
    (h : t.makeDirectory p = .ok t') :
    ∃ l n, l ≠ [] ∧ t.node? l = none ∧ t' = t.set l .directory ∧ Arrives t' [] p.names l n := by
  rw [makeDirectory] at h
  cases hvacancy : t.vacancy p with
  | error e =>
      rw [hvacancy] at h
      cases h
  | ok l =>
      rw [hvacancy] at h
      obtain rfl := Except.ok.inj h
      obtain ⟨-, -, hfree, parent, hlast, -⟩ := vacancy_eq_ok hvacancy
      have hnode : ∀ target, Node.directory ≠ .link target := by simp
      obtain ⟨n, -, harrives⟩ := exists_arrives_of_vacancy hname hnode hvacancy
      exact ⟨l, n, by simp [hlast], hfree, rfl, harrives⟩

/-- Every entry stands in a directory. -/
def Rooted (t : Tree) : Prop :=
  ∀ l name, t.node? (l ++ [name]) ≠ none → t.node? l = some .directory

/-- Where nothing is, nothing is below. -/
theorem Rooted.node?_eq_none (h : t.Rooted) (hl : t.node? l = none) (name : Text) :
    t.node? (l ++ [name]) = none := by
  by_contra hname
  cases hl.symm.trans (h l name hname)

namespace Rooted

variable (h : t.Rooted) {t' : Tree}

include h

theorem makeDirectory (hmake : t.makeDirectory p = .ok t') : t'.Rooted := by
  rw [Tree.makeDirectory] at hmake
  cases hvacancy : t.vacancy p with
  | error e =>
      rw [hvacancy] at hmake
      cases hmake
  | ok l =>
      rw [hvacancy] at hmake
      obtain rfl := Except.ok.inj hmake
      obtain ⟨-, -, hfree, parent, rfl, hparent, -⟩ := vacancy_eq_ok hvacancy
      have hl : parent ++ [p.name] ≠ [] := by simp
      intro k name hname
      rw [node?_set hl] at hname ⊢
      split at hname
      · rename_i heq
        obtain ⟨rfl, -⟩ := List.append_inj' heq rfl
        rw [if_neg (by simp), hparent]
      · have hk := h k name hname
        rw [if_neg, hk]
        rintro rfl
        cases hfree.symm.trans hk

theorem acceptExisting {fault : FileFault} (haccept : t.acceptExisting p fault = .ok t') :
    t'.Rooted := by
  unfold Tree.acceptExisting at haccept
  split at haccept
  · split at haccept
    · exact Except.ok.inj haccept ▸ h
    · cases haccept
    · cases haccept
  · cases haccept

theorem makeDirectoriesUp {up : Nat} (hmake : t.makeDirectoriesUp p up = .ok t') :
    t'.Rooted := by
  induction up generalizing p t' with
  | zero =>
      rw [Tree.makeDirectoriesUp] at hmake
      split at hmake
      · rename_i hmade
        exact Except.ok.inj hmake ▸ h.makeDirectory hmade
      · exact h.acceptExisting hmake
  | succ up ih =>
      rw [Tree.makeDirectoriesUp] at hmake
      split at hmake
      · rename_i hmade
        exact Except.ok.inj hmake ▸ h.makeDirectory hmade
      · split at hmake
        · cases hmake
        · split at hmake
          · cases hmake
          · rename_i t₁ hup
            have h₁ := ih hup
            split at hmake
            · rename_i hmade
              exact Except.ok.inj hmake ▸ h₁.makeDirectory hmade
            · cases hmake
            · exact h₁.acceptExisting hmake
      · exact h.acceptExisting hmake

theorem makeDirectories (hmake : t.makeDirectories p = .ok t') : t'.Rooted :=
  h.makeDirectoriesUp hmake

end Rooted

/-- It is enough to look at the entries. -/
theorem rooted_of_entries
    (h : ∀ e ∈ t.entries, t.node? e.1.dropLast = some .directory) : t.Rooted := by
  intro l name hname
  obtain ⟨node, hnode⟩ := Option.ne_none_iff_exists'.mp hname
  obtain ⟨e, he, hentry⟩ := List.mem_map.mp (mem_entries_of_node? (by simp) hnode)
  have hparent := h e he
  rwa [hentry, List.dropLast_concat] at hparent

/-! ## Reading -/

/-- The text of a file that stands at a settled location. -/
theorem readText_of_node? {bytes : List UInt8} {text : Text} (hl : t.Settled l)
    (hnode : t.node? l = some (.file bytes)) (h : t.readText (.ofLocation l) = .ok text) :
    ∃ u, Utf8.decode bytes = .ok u ∧ text = Text.unifyNewlines u := by
  rw [readText, readBytes] at h
  cases hfind : t.find (.ofLocation l) with
  | error e =>
      rw [hfind] at h
      cases h
  | ok found =>
      obtain ⟨l', node⟩ := found
      obtain rfl := find_of_settled hl hfind
      obtain rfl := Option.some.inj ((find_eq_ok_iff.mp hfind).2.2.1.symm.trans hnode)
      rw [hfind] at h
      simp only at h
      split at h
      · cases h
      · rename_i u hu
        exact ⟨u, hu, (Except.ok.inj h).symm⟩

end Tree

end ContractVerifier
