import ContractVerifier.Proofs.Flatten.Again
import ContractVerifier.Proofs.Flatten.Nesting
import ContractVerifier.Proofs.Solidity.Alone

set_option autoImplicit false

/-! # All or nothing

A file **spoils** a result if its bytes are no text or if it cannot be told where one of its imports
leads. One such file among those that can be reached from the entry is enough for the walk to fail,
and without one it fails only if imports are nested beyond its depth
(`Flattener.flatten_all_or_nothing`). What cannot be reached does not matter.

So nothing may come of files that are all as they should be: a chain of them that is longer than the
depth is not flattened (`Flattener.chain_not_flattened`).
-/

namespace ContractVerifier

namespace Flatten

open Solidity

variable {t : Tree} {roots : Roots} {here a b : Location} {x : Fault}

/-- The file at `a` spoils what it is inlined into, with this fault. -/
inductive Spoils (t : Tree) (roots : Roots) (a : Location) : Fault → Prop
  /-- Its bytes are no text. -/
  | undecodable {bytes : List UInt8} {y : DecodeError}
      (hbytes : t.readBytes (.ofLocation a) = .ok bytes) (hy : Utf8.decode bytes = .error y) :
      Spoils t roots a (.encoding y)
  /-- It cannot be told where one of its imports leads. -/
  | unresolvable {text : Text} {i : Import} {x : Fault}
      (htext : t.readText (.ofLocation a) = .ok text) (hi : i ∈ imports text)
      (hx : leadsTo t roots a i.path = .error x) : Spoils t roots a x

/-! ## What cannot be resolved or read -/

/-- A path holds a zero character, is too long or leads through links without an end. -/
def IsUnresolvable : Fault → Prop
  | .file .zeroCharacter => True
  | .file (.endlessLinks _) => True
  | .file (.refused .nameTooLong _) => True
  | _ => False

/-- For no other reason it cannot be told where an import leads. -/
theorem isUnresolvable_of_leadsTo {path : Text} (h : leadsTo t roots here path = .error x) :
    IsUnresolvable x := by
  unfold leadsTo at h
  split at h
  · rename_i y hresolve
    cases h
    unfold Tree.resolve at hresolve
    split at hresolve
    · cases hresolve
      trivial
    · simp only at hresolve
      split at hresolve
      · cases hresolve
        trivial
      · cases hresolve
  · split at h
    · rename_i y hfile
      cases h
      unfold Tree.isFile at hfile
      split at hfile
      · cases hfile
      · cases hfile
      · cases hfile
        trivial
      · cases hfile
    · cases h

/-- A file that is there and cannot be read has bytes that are no text. -/
theorem spoils_of_readText (hfile : t.isFile (.ofLocation a) = .ok true)
    (h : t.readText (.ofLocation a) = .error x) : Spoils t roots a x := by
  obtain ⟨l, bytes, hfind⟩ := exists_find_of_isFile hfile
  have hbytes : t.readBytes (.ofLocation a) = .ok bytes := by
    rw [Tree.readBytes, hfind]
  rw [Tree.readText, hbytes] at h
  simp only at h
  split at h
  · rename_i y hy
    cases h
    exact .undecodable hbytes hy
  · cases h

theorem Spoils.fault (h : Spoils t roots a x) : (∃ y, x = .encoding y) ∨ IsUnresolvable x := by
  cases h with
  | undecodable => exact .inl ⟨_, rfl⟩
  | unresolvable _ _ hx => exact .inr (isUnresolvable_of_leadsTo hx)

/-- A file does not spoil anything if it can be read and it can be told where its imports lead. -/
theorem Settled.not_spoils (h : Settled t roots a) : ¬ Spoils t roots a x := by
  obtain ⟨text, htext, hleads⟩ := h
  intro hspoils
  cases hspoils with
  | undecodable hbytes hy =>
      rw [Tree.readText, hbytes] at htext
      simp only [hy] at htext
      cases htext
  | unresolvable htext' hi hx =>
      obtain rfl := Except.ok.inj (htext.symm.trans htext')
      obtain ⟨target, htarget⟩ := hleads _ hi
      cases htarget.symm.trans hx

/-! ## The fault of a walk -/

/-- A fault of inlining is that of a file that can be reached, unless the depth ran out. -/
theorem exists_spoils_of_inline {depth : Nat} {text : Text} {p : Progress}
    (htext : t.readText (.ofLocation here) = .ok text)
    (h : (inline t roots depth here text p).1 = .error x) (hx : x ≠ .deepImports) :
    ∃ a, Reaches t roots here a ∧ Spoils t roots a x := by
  induction depth generalizing here text p x with
  | zero =>
      cases h
      exact absurd rfl hx
  | succ depth ih =>
      rw [inline] at h
      obtain ⟨i, hi, p', -, hfault⟩ :=
        (walkPieces_keeps (fun _ => True) (fun _ _ _ _ => trivial) trivial).2 x h
      have himports : ∀ {b}, leadsTo t roots here i.path = .ok (some b) → Imports t roots here b :=
        fun hlead => ⟨text, i, htext, hi, hlead⟩
      generalize hv : visitImport t roots (inline t roots depth) here i p' = v at hfault
      have hvisit : Visit t roots (inline t roots depth) here i p' v :=
        hv ▸ visit_visitImport _ here i p'
      cases hvisit with
      | fault hlead =>
          cases hfault
          exact ⟨here, .refl, .unresolvable htext hi hlead⟩
      | stays => cases hfault
      | known => cases hfault
      | unread hlead _ htext' =>
          cases hfault
          exact ⟨_, .single (himports hlead),
            spoils_of_readText (isFile_of_leadsTo hlead).2.1 htext'⟩
      | broken hlead _ htext' hinline =>
          cases hfault
          obtain ⟨a, hreaches, hspoils⟩ := ih htext' (congrArg Prod.fst hinline) hx
          exact ⟨a, .head (himports hlead) hreaches, hspoils⟩
      | entered => cases hfault

section

variable {depth : Nat} {entry importRoot : Path} {e r : Location}

/-- **A walk that fails has come to a file that spoils the result**, or to the end of its depth. -/
theorem spoils_or_deep_of_flattenGraph (he : t.resolve entry = .ok e)
    (hfile : t.isFile (.ofLocation e) = .ok true) (hr : t.resolve importRoot = .ok r)
    (h : flattenGraph depth t entry importRoot = .error x) :
    (∃ a, Reaches t ⟨r, e.dropLast⟩ e a ∧ Spoils t ⟨r, e.dropLast⟩ a x) ∨
      (x = .deepImports ∧ NestsBeyond t ⟨r, e.dropLast⟩ e depth) := by
  rw [flattenGraph] at h
  have hending := ending_walkGraph depth t entry importRoot
  generalize walkGraph depth t entry importRoot = w at h hending
  cases hending with
  | unresolved he' => cases he.symm.trans he'
  | unread he' htext =>
      obtain rfl := Except.ok.inj (he.symm.trans he')
      cases h
      exact .inl ⟨_, .refl, spoils_of_readText hfile htext⟩
  | rootless _ _ hr' => cases hr.symm.trans hr'
  | broken he' htext hr' hinline =>
      obtain rfl := Except.ok.inj (he.symm.trans he')
      obtain rfl := Except.ok.inj (hr.symm.trans hr')
      cases h
      by_cases hdeep : x = .deepImports
      · subst hdeep
        exact .inr ⟨rfl, (nestsBeyond_iff_deepImports htext).mpr (congrArg Prod.fst hinline)⟩
      · exact .inl (exists_spoils_of_inline htext (congrArg Prod.fst hinline) hdeep)
  | inlined => cases h

/-- **A walk that succeeds has come to no such file**, and it has come to all that can be reached. -/
theorem not_spoils_of_flattenGraph {out : Text} (he : t.resolve entry = .ok e)
    (hr : t.resolve importRoot = .ok r) (h : flattenGraph depth t entry importRoot = .ok out)
    (hreaches : Reaches t ⟨r, e.dropLast⟩ e a) : ¬ Spoils t ⟨r, e.dropLast⟩ a x := by
  obtain ⟨e', r', text, order, w⟩ := walked_of_flattenGraph h
  obtain rfl : e' = e := Except.ok.inj (w.entry_eq.symm.trans he)
  obtain rfl : r' = r := Except.ok.inj (w.root_eq.symm.trans hr)
  have hmem : a ∈ e' :: order.map Prod.snd := by
    by_cases ha : a = e'
    · exact List.mem_cons.mpr (.inl ha)
    · refine List.mem_cons_of_mem e' ?_
      rw [← w.files_eq]
      exact (w.mem_files_iff a).mpr ⟨ha, hreaches⟩
  exact (w.settled h a hmem).not_spoils

/-- So a walk fails if there is such a file. -/
theorem exists_fault_of_spoils (he : t.resolve entry = .ok e) (hr : t.resolve importRoot = .ok r)
    (hreaches : Reaches t ⟨r, e.dropLast⟩ e a) (hspoils : Spoils t ⟨r, e.dropLast⟩ a x) :
    ∃ y, flattenGraph depth t entry importRoot = .error y := by
  cases h : flattenGraph depth t entry importRoot with
  | error y => exact ⟨y, rfl⟩
  | ok out => exact absurd hspoils (not_spoils_of_flattenGraph he hr h hreaches)

/-- And it fails if imports are nested beyond its depth. -/
theorem flattenGraph_of_nestsBeyond (he : t.resolve entry = .ok e)
    (hr : t.resolve importRoot = .ok r) (h : NestsBeyond t ⟨r, e.dropLast⟩ e depth) :
    flattenGraph depth t entry importRoot = .error .deepImports := by
  obtain ⟨text, bound, htext, hcalls⟩ := h
  have hdeep := (nestsBeyond_iff_deepImports htext).mp ⟨text, bound, htext, hcalls⟩
  exact ((walkGraph_of_entryRun depth he hr htext).2 _).mpr hdeep

end

end Flatten

namespace Flattener

open Flatten Solidity

/-- A call whose backend fails has the source as it was, and the fault as its error. -/
theorem result_of_flattenGraph {f : Flattener} {sys : System} {t staged : Tree}
    {source : ContractSource} {contractName : Text} {directory file : Path} {x : Fault}
    {depth : Nat} (hbackend : f.backend = .importGraph depth) (himports : imports source.text ≠ [])
    (hstage : f.stage sys.scratch t source.text contractName = .ok (directory, file, staged))
    (h : flattenGraph depth staged file (.ofLocation f.importRoot) = .error x) :
    (f.flatten sys t source contractName).result = .ok (.failed source x.describe) := by
  rw [flatten, if_neg himports]
  simp only [hstage, hbackend, Backend.flatten, h]
  rfl

/-- **All or nothing, as deep as calls can be.** If the entry's path stands for a file and that of
the import root for some location, the walk fails exactly if the entry or a file that can be reached
from it spoils the result, or imports are nested beyond the walk's depth, and it fails with the
fault of such a file or with that of the depth. A call for which the entry was staged then leaves
its source as it was and says why. Imports are nested beyond the depth if some file can be reached
only over more imports than that, and are not if there are no more other files. -/
theorem flatten_all_or_nothing {depth : Nat} {t : Tree} {entry importRoot : Path} {e r : Location}
    (he : t.resolve entry = .ok e) (hfile : t.isFile (.ofLocation e) = .ok true)
    (hr : t.resolve importRoot = .ok r) :
    let roots : Roots := ⟨r, e.dropLast⟩
    let Spoilt (x : Fault) := ∃ a, Reaches t roots e a ∧ Spoils t roots a x
    let TooDeep := NestsBeyond t roots e depth
    ((∃ x, flattenGraph depth t entry importRoot = .error x) ↔ (∃ x, Spoilt x) ∨ TooDeep) ∧
    (∀ x, flattenGraph depth t entry importRoot = .error x →
      (Spoilt x ∧ ((∃ y, x = .encoding y) ∨ IsUnresolvable x)) ∨ (x = .deepImports ∧ TooDeep)) ∧
    ((∃ x, Spoilt x) ∨ TooDeep → ∀ (f : Flattener) (sys : System) (t₀ : Tree)
      (source : ContractSource) (contractName : Text) (directory : Path),
      f.backend = .importGraph depth → .ofLocation f.importRoot = importRoot →
      imports source.text ≠ [] →
      f.stage sys.scratch t₀ source.text contractName = .ok (directory, entry, t) →
        ∃ x, (Spoilt x ∨ (x = .deepImports ∧ TooDeep)) ∧ x.describe ≠ [] ∧
          (f.flatten sys t₀ source contractName).result = .ok (.failed source x.describe)) ∧
    ((insert e (pathsFound t roots)).card ≤ depth + 1 → ¬ TooDeep) ∧
    ∀ a, Reaches t roots e a → (∀ n ≤ depth, ¬ ImportsIn t roots n e a) →
      (∃ x, Spoilt x) ∨ TooDeep := by
  intro roots Spoilt TooDeep
  have hfails : ∀ x, flattenGraph depth t entry importRoot = .error x →
      Spoilt x ∨ (x = .deepImports ∧ TooDeep) :=
    fun x h => spoils_or_deep_of_flattenGraph he hfile hr h
  have hiff : (∃ x, flattenGraph depth t entry importRoot = .error x) ↔
      (∃ x, Spoilt x) ∨ TooDeep := by
    constructor
    · rintro ⟨x, h⟩
      rcases hfails x h with hspoilt | ⟨-, hdeep⟩
      · exact .inl ⟨x, hspoilt⟩
      · exact .inr hdeep
    · rintro (⟨x, a, hreaches, hspoils⟩ | hdeep)
      · exact exists_fault_of_spoils he hr hreaches hspoils
      · exact ⟨_, flattenGraph_of_nestsBeyond he hr hdeep⟩
  refine ⟨hiff, ?_, ?_, not_nestsBeyond_of_card_le, ?_⟩
  · intro x h
    rcases hfails x h with ⟨a, hreaches, hspoils⟩ | hdeep
    · exact .inl ⟨⟨a, hreaches, hspoils⟩, hspoils.fault⟩
    · exact .inr hdeep
  · intro hbad f sys t₀ source contractName directory hbackend hroot himports hstage
    obtain ⟨x, hx⟩ := hiff.mpr hbad
    refine ⟨x, hfails x hx, ?_, ?_⟩
    · exact Fault.describe_ne_nil_of_named (isNamed_of_flattenGraph hx)
    · rw [← hroot] at hx
      exact result_of_flattenGraph hbackend himports hstage hx
  · intro a hreaches hfar
    apply hiff.mp
    cases h : flattenGraph depth t entry importRoot with
    | error x => exact ⟨x, rfl⟩
    | ok out =>
        obtain ⟨n, hn, hway⟩ := exists_importsIn_of_flattenGraph he hr h hreaches
        exact absurd hway (hfar n hn)

/-! ## A library that imports what is no text -/

/-- A source that imports `A`. -/
def trusting : ContractSource where
  text := "import 'A';\ncontract M {}\n".toList

/-- The text of `A`, which imports itself and `C`. -/
def circular : Text := "import './A';\nimport './d/e/C';\ncontract A {}\n".toList

/-- A tree where `C` is no text. -/
def spoiltShelf : Tree := shelfOf (Utf8.encode circular) [0xFF]

/-- The tree with the source that is staged. -/
def spoiltStage : Tree :=
  (spoiltShelf.set stagedPlace.dropLast .directory).set stagedPlace
    (.file (Utf8.encode trusting.text))

/-- The file `C` can be reached from the staged one. -/
theorem reaches_spoilt :
    Reaches spoiltStage ⟨[['l']], stagedPlace.dropLast⟩ stagedPlace
      [['l'], ['d'], ['e'], ['C']] := by
  have htext : spoiltStage.readText (.ofLocation stagedPlace) = .ok trusting.text := by cbv
  have hlibrary : spoiltStage.readText (.ofLocation [['l'], ['A']]) = .ok circular := by cbv
  have himports : imports trusting.text = [⟨"import 'A';".toList, ['A']⟩] := by cbv
  have himports' : imports circular = [⟨"import './A';".toList, "./A".toList⟩,
      ⟨"import './d/e/C';".toList, "./d/e/C".toList⟩] := by cbv
  have hfirst : Imports spoiltStage ⟨[['l']], stagedPlace.dropLast⟩ stagedPlace [['l'], ['A']] := by
    refine ⟨_, ⟨"import 'A';".toList, ['A']⟩, htext, by rw [himports]; simp, ?_⟩
    cbv
  have hsecond : Imports spoiltStage ⟨[['l']], stagedPlace.dropLast⟩ [['l'], ['A']]
      [['l'], ['d'], ['e'], ['C']] := by
    refine ⟨_, ⟨"import './d/e/C';".toList, "./d/e/C".toList⟩, hlibrary, by rw [himports']; simp, ?_⟩
    cbv
  exact .head hfirst (.single hsecond)

/-- The call fails, although `C` is two imports away. -/
theorem spoilt_all_or_nothing : ∃ x,
    Spoils spoiltStage ⟨[['l']], stagedPlace.dropLast⟩ [['l'], ['d'], ['e'], ['C']] x ∧
      ∃ error, error ≠ [] ∧ (onGraph.flatten plainSystem spoiltShelf trusting []).result =
        .ok (.failed trusting error) := by
  have he : spoiltStage.resolve stagedPath = .ok stagedPlace := by cbv
  have hfile : spoiltStage.isFile (.ofLocation stagedPlace) = .ok true := by cbv
  have hr : spoiltStage.resolve (.ofLocation onGraph.importRoot) = .ok [['l']] := by
    have hroot : onGraph.importRoot = [['l']] := rfl
    rw [hroot]
    cbv
  have himports : (imports trusting.text).length = 0 + 1 := by cbv
  have hbytes : spoiltStage.readBytes (.ofLocation [['l'], ['d'], ['e'], ['C']]) = .ok [0xFF] := by
    cbv
  obtain ⟨y, hy⟩ : ∃ y, Utf8.decode [0xFF] = .error y := ⟨_, rfl⟩
  have hspoils : Spoils spoiltStage ⟨[['l']], stagedPlace.dropLast⟩ [['l'], ['d'], ['e'], ['C']]
      (.encoding y) := .undecodable hbytes hy
  obtain ⟨x, -, herror, hresult⟩ := (flatten_all_or_nothing he hfile hr).2.2.1
    (.inl ⟨_, _, reaches_spoilt, hspoils⟩) onGraph plainSystem spoiltShelf trusting [] _ rfl rfl
    (List.ne_nil_of_length_eq_add_one himports) (stage_shelfOf _ _ (by cbv))
  exact ⟨_, hspoils, _, herror, hresult⟩

/-! ## A chain of libraries -/

/-- The name of the `k`-th library of a chain is one character. -/
@[irreducible]
def linkChar (k : Nat) : Char := Char.ofNat (0x4E00 + k)

/-- The name of the `k`-th library. -/
def linkName (k : Nat) : Text := [linkChar k]

/-- The place of the `k`-th library. -/
def linkPlace (k : Nat) : Location := [['l'], linkName k]

/-- The text of a library that imports the `k`-th. -/
def linkText (k : Nat) : Text := "import '".toList ++ linkName k ++ "';".toList

/-- Libraries in a chain: each of them imports the next, up to the `n`-th, which imports itself. -/
def chain (n : Nat) : Tree :=
  ⟨([['l']], .directory) :: (List.range (n + 1)).map fun k =>
    (linkPlace k, .file (Utf8.encode (linkText (min (k + 1) n))))⟩

theorem toNat_linkChar {k : Nat} (hk : k < 0x5000) : (linkChar k).toNat = 0x4E00 + k := by
  have hvalid : (0x4E00 + k).isValidChar := .inl (by omega)
  unfold linkChar Char.ofNat
  rw [dif_pos hvalid]
  rfl

/-- The name of a library has no special character. -/
theorem linkChar_ne {k : Nat} (hk : k < 0x5000) {c : Char} (hc : c.toNat < 128) :
    linkChar k ≠ c := by
  rintro rfl
  rw [toNat_linkChar hk] at hc
  omega

theorem linkPlace_inj {j k : Nat} (hj : j < 0x5000) (hk : k < 0x5000)
    (h : linkPlace j = linkPlace k) : j = k := by
  have hchar : linkChar j = linkChar k := by
    simpa [linkPlace, linkName] using h
  have := congrArg Char.toNat hchar
  rw [toNat_linkChar hj, toNat_linkChar hk] at this
  omega

theorem lookup_map_of_mem {α β γ : Type} [BEq β] [LawfulBEq β] {f : α → β} {g : α → γ}
    {xs : List α} {a : α} (ha : a ∈ xs) (hf : ∀ b ∈ xs, f b = f a → b = a) :
    (xs.map fun x => (f x, g x)).lookup (f a) = some (g a) := by
  induction xs with
  | nil => cases ha
  | cons x xs ih =>
      rw [List.map_cons, List.lookup_cons]
      by_cases hx : f x = f a
      · rw [hf x List.mem_cons_self hx]
        simp
      · have hne : ¬ f a = f x := fun h => hx h.symm
        rcases List.mem_cons.mp ha with rfl | ha
        · exact absurd rfl hx
        · rw [beq_false_of_ne hne]
          exact ih ha fun b hb => hf b (List.mem_cons_of_mem x hb)

variable {n k : Nat}

theorem node?_chain (hn : n < 0x5000) (hk : k ≤ n) :
    (chain n).node? (linkPlace k) = some (.file (Utf8.encode (linkText (min (k + 1) n)))) := by
  have hlookup : ((List.range (n + 1)).map fun k =>
      (linkPlace k, Node.file (Utf8.encode (linkText (min (k + 1) n))))).lookup (linkPlace k) =
        some (.file (Utf8.encode (linkText (min (k + 1) n)))) := by
    -- no two libraries have one place, so the lookup comes to the right one
    apply lookup_map_of_mem (List.mem_range.mpr (by omega))
    intro j hj h
    have := List.mem_range.mp hj
    exact linkPlace_inj (by omega) (by omega) h
  have hne : linkPlace k ≠ [['l']] := by simp [linkPlace]
  simp only [Tree.node?, chain, List.lookup_cons, beq_false_of_ne hne]
  rw [if_neg (by simp [linkPlace])]
  exact hlookup

theorem length_encode_linkName (k : Nat) : (Utf8.encode (linkName k)).length ≤ 4 := by
  simpa [Utf8.encode, linkName, String.length_utf8EncodeChar] using Char.utf8Size_le_four _

/-- Every library is found in its place. -/
theorem find_chain (hn : n < 0x5000) (hk : k ≤ n) :
    (chain n).find (.ofLocation (linkPlace k)) =
      .ok (linkPlace k, .file (Utf8.encode (linkText (min (k + 1) n)))) := by
  have hnode := node?_chain hn hk
  have hshort := length_encode_linkName k
  have htext : (Path.ofLocation (linkPlace k)).text = "/l/".toList ++ linkName k := rfl
  have hzero : linkChar k ≠ '\x00' := linkChar_ne (by omega) (by decide)
  have hdot : linkChar k ≠ '.' := linkChar_ne (by omega) (by decide)
  refine Tree.find_eq_ok_iff.mpr ⟨?_, ?_, hnode, 0, Nat.zero_le _, ?_⟩
  · rw [htext]
    simpa [linkName] using hzero.symm
  · have hencode : Utf8.encode ("/l/".toList ++ linkName k) =
        Utf8.encode "/l/".toList ++ Utf8.encode (linkName k) := List.flatMap_append ..
    have hstart : (Utf8.encode "/l/".toList).length = 3 := by decide
    rw [htext, hencode, List.length_append, hstart, Tree.maxPath]
    omega
  · have hroot : (chain n).node? [['l']] = some .directory := rfl
    refine .entry rfl (by simp [Tree.IsName]) (by decide) (by rw [List.nil_append, hroot]; simp)
      rfl ?_
    refine .entry hroot ?_ ?_ ?_ ?_ .done
    · simpa [Tree.IsName, linkName] using hdot
    · rw [Tree.maxName]
      omega
    · exact fun h => absurd (hnode.symm.trans h) (by simp)
    · show (chain n).link? (linkPlace k) = none
      rw [Tree.link?, hnode]

theorem return_not_mem_linkText (hk : k < 0x5000) : '\r' ∉ linkText k := by
  have hchar : linkChar k ≠ '\r' := linkChar_ne hk (by decide)
  unfold linkText linkName
  simpa using hchar.symm

theorem readText_chain (hn : n < 0x5000) (hk : k ≤ n) :
    (chain n).readText (.ofLocation (linkPlace k)) = .ok (linkText (min (k + 1) n)) := by
  have hreturn : '\r' ∉ linkText (min (k + 1) n) :=
    return_not_mem_linkText (lt_of_le_of_lt (Nat.min_le_right _ _) hn)
  rw [Tree.readText, Tree.readBytes, find_chain hn hk]
  simp only [Utf8.decode_encode, Text.unifyNewlines_of_no_return hreturn]

/-- A library has one import. -/
theorem imports_linkText (hk : k < 0x5000) :
    imports (linkText k) = [⟨linkText k, linkName k⟩] := by
  have hquote : isQuote (linkChar k) = false := by
    simpa [isQuote] using ⟨linkChar_ne hk (by decide), linkChar_ne hk (by decide)⟩
  have hclause : Import.Clause ("'".toList ++ (linkName k ++ "';".toList)) (linkName k) :=
    @Import.Clause.mk [] ['\''] (linkName k) [] '\'' (by simp) (by simp) (by simp [isQuote])
      (by simp [linkName]) (by simpa [linkName] using hquote) (by decide) (by simp)
  exact imports_of_written (@Import.Written.mk [] _ _ ' ' (by simp) (by decide) hclause)

/-- In a chain the path of a library leads to it. -/
theorem leadsTo_chain (hn : n < 0x5000) (hk : k ≤ n) (here : Location) :
    leadsTo (chain n) ⟨[['l']], [['l']]⟩ here (linkName k) = .ok (some (linkPlace k)) := by
  have hslash : linkChar k ≠ '/' := linkChar_ne (by omega) (by decide)
  have hdot : linkChar k ≠ '.' := linkChar_ne (by omega) (by decide)
  -- the path is a single name without a point, so it is looked for below the import root
  have hcandidate : candidate ⟨[['l']], [['l']]⟩ here (linkName k) = .ofLocation (linkPlace k) := by
    have hnames : Path.ofText (linkName k) = ⟨.here, [linkName k]⟩ := by
      have hanchor : Path.anchorOf (linkName k) = .here := by
        unfold Path.anchorOf linkName
        split <;> simp_all
      have hsplit : Text.split '/' (linkName k) = [linkName k] := by
        simp [Text.split, linkName, hslash]
      rw [Path.ofText, hanchor, Path.namesOf, hsplit]
      simp [linkName, hdot]
    rw [candidate, hnames, if_neg (by simpa [linkName] using hdot)]
    rfl
  have hfind := find_chain hn hk
  rw [leadsTo, hcandidate, (Tree.resolve_of_find hfind).1]
  simp only [Tree.isFile, hfind]
  rfl

/-- Each library imports the next one, and nothing else. -/
theorem imports_chain_iff (hn : n < 0x5000) (hk : k ≤ n) {b : Location} :
    Imports (chain n) ⟨[['l']], [['l']]⟩ (linkPlace k) b ↔ b = linkPlace (min (k + 1) n) := by
  have hnext : min (k + 1) n ≤ n := Nat.min_le_right _ _
  have himports := imports_linkText (lt_of_le_of_lt hnext hn)
  constructor
  · rintro ⟨text, i, htext, hi, hlead⟩
    obtain rfl := Except.ok.inj ((readText_chain hn hk).symm.trans htext)
    rw [himports, List.mem_singleton] at hi
    subst hi
    exact (Option.some.inj (Except.ok.inj ((leadsTo_chain hn hnext _).symm.trans hlead))).symm
  · rintro rfl
    exact ⟨_, _, readText_chain hn hk, himports ▸ List.mem_singleton_self _,
      leadsTo_chain hn hnext _⟩

theorem settled_chain (hn : n < 0x5000) (hk : k ≤ n) :
    Settled (chain n) ⟨[['l']], [['l']]⟩ (linkPlace k) := by
  have hnext : min (k + 1) n ≤ n := Nat.min_le_right _ _
  refine ⟨_, readText_chain hn hk, fun i hi => ?_⟩
  rw [imports_linkText (lt_of_le_of_lt hnext hn), List.mem_singleton] at hi
  subst hi
  exact ⟨_, leadsTo_chain hn hnext _⟩

/-- A library is no further from the first one than its number. -/
theorem eq_linkPlace_of_importsIn (hn : n < 0x5000) (hk : k ≤ n) {m : Nat} {b : Location}
    (h : ImportsIn (chain n) ⟨[['l']], [['l']]⟩ m (linkPlace k) b) :
    ∃ j ≤ n, j ≤ k + m ∧ b = linkPlace j := by
  generalize hplace : linkPlace k = place at h
  induction h generalizing k with
  | here => exact ⟨k, hk, le_rfl, hplace.symm⟩
  | step first _ ih =>
      subst hplace
      obtain rfl := (imports_chain_iff hn hk).mp first
      obtain ⟨j, hj, hle, rfl⟩ := ih (Nat.min_le_right (k + 1) n) rfl
      exact ⟨j, hj, by omega, rfl⟩

theorem reaches_chain (hn : n < 0x5000) (hk : k ≤ n) :
    Reaches (chain n) ⟨[['l']], [['l']]⟩ (linkPlace 0) (linkPlace k) := by
  induction k with
  | zero => exact .refl
  | succ k ih =>
      have hnext := (imports_chain_iff hn (by omega : k ≤ n)).mpr rfl
      rw [Nat.min_eq_left hk] at hnext
      exact (ih (by omega)).tail hnext

theorem resolve_chain_root (n : Nat) : (chain n).resolve (.ofLocation [['l']]) = .ok [['l']] := by
  have hroot : (chain n).node? [['l']] = some .directory := rfl
  have harrives : Tree.Arrives (chain n) [] [['l']] [['l']] 0 :=
    .entry rfl (by simp [Tree.IsName]) (by decide) (by rw [List.nil_append, hroot]; simp) rfl .done
  exact (Tree.resolve_of_find (Tree.find_eq_ok_iff.mpr
    ⟨by decide, by decide, hroot, 0, Nat.zero_le _, harrives⟩)).1

/-- **A chain of libraries that is longer than the depth is not flattened**, although each of them
can be read and it can be told where its import leads. -/
theorem flattenGraph_chain {depth : Nat} (hn : n < 0x5000) (hdepth : depth < n) :
    let roots : Roots := ⟨[['l']], [['l']]⟩
    (chain n).resolve (.ofLocation (linkPlace 0)) = .ok (linkPlace 0) ∧
    (chain n).isFile (.ofLocation (linkPlace 0)) = .ok true ∧
    (chain n).resolve (.ofLocation [['l']]) = .ok [['l']] ∧
    (∀ a x, Reaches (chain n) roots (linkPlace 0) a → ¬ Spoils (chain n) roots a x) ∧
    flattenGraph depth (chain n) (.ofLocation (linkPlace 0)) (.ofLocation [['l']]) =
      .error .deepImports := by
  intro roots
  have hfind := find_chain hn (Nat.zero_le n)
  have he := (Tree.resolve_of_find hfind).1
  have hr := resolve_chain_root n
  have hfile : (chain n).isFile (.ofLocation (linkPlace 0)) = .ok true := by
    rw [Tree.isFile, hfind]
  have hnot : ∀ a x, Reaches (chain n) roots (linkPlace 0) a → ¬ Spoils (chain n) roots a x := by
    intro a x hreaches
    obtain ⟨m, hway⟩ := exists_importsIn_of_reaches hreaches
    obtain ⟨k, hk, -, rfl⟩ := eq_linkPlace_of_importsIn hn (Nat.zero_le n) hway
    exact (settled_chain hn hk).not_spoils
  refine ⟨he, hfile, hr, hnot, ?_⟩
  -- nothing is spoilt, so if the walk fails it is for the depth
  cases h : flattenGraph depth (chain n) (.ofLocation (linkPlace 0)) (.ofLocation [['l']]) with
  | error x =>
      rcases spoils_or_deep_of_flattenGraph he hfile hr h with ⟨a, hreaches, hspoils⟩ | ⟨rfl, -⟩
      · exact absurd hspoils (hnot a x hreaches)
      · rfl
  | ok out =>
      -- the last library would have been inlined, and it is too far away
      obtain ⟨m, hm, hway⟩ := exists_importsIn_of_flattenGraph he hr h (reaches_chain hn le_rfl)
      obtain ⟨j, hj, hle, hplace⟩ := eq_linkPlace_of_importsIn hn (Nat.zero_le n) hway
      have := linkPlace_inj hn (by omega) hplace
      omega

/-- With four hundred libraries the chain is longer than calls can be deep. -/
theorem chain_not_flattened :
    let t := chain 400
    let roots : Roots := ⟨[['l']], [['l']]⟩
    t.resolve (.ofLocation (linkPlace 0)) = .ok (linkPlace 0) ∧
    t.isFile (.ofLocation (linkPlace 0)) = .ok true ∧
    t.resolve (.ofLocation [['l']]) = .ok [['l']] ∧
    (∀ a x, Reaches t roots (linkPlace 0) a → ¬ Spoils t roots a x) ∧
    flattenGraph usualDepth t (.ofLocation (linkPlace 0)) (.ofLocation [['l']]) =
      .error .deepImports :=
  flattenGraph_chain (by decide) (by decide)

end Flattener

end ContractVerifier
