import ContractVerifier.Config.Dump
import Mathlib.Data.Option.Defs
import Mathlib.Tactic

set_option autoImplicit false

/-! # What a configuration shows

A tree of settings is looked into along a path (`Setting.at?`): by the names of members and the
places of items, also within lists and within the values of constants. A path is **open** if no
name on it is secret.

`Setting.Conceals` says that one tree shows another without its secrets: nothing stands on a path
that is not open, and on an open path stands the same in both trees, with records as tables and
constants as their values. What is shown of a tree does that as far as tables and records reach
(`Setting.inner?_dump`). It does so altogether exactly if whatever stands in their place is bare,
for it is shown as it is (`Setting.conceals_dump_iff`).
-/

namespace ContractVerifier

theorem Association.get?_eq_none {α β : Type} [DecidableEq α] {key : α} {pairs : List (α × β)}
    (h : key ∉ pairs.map Prod.fst) : get? key pairs = none := by
  induction pairs with
  | nil => rfl
  | cons pair rest ih =>
      obtain ⟨k, v⟩ := pair
      rw [List.map_cons, List.mem_cons, not_or] at h
      rw [get?, if_neg (Ne.symm h.1), ih h.2]

/-! ## Paths -/

/-- A key into a value: the name of a member or the place of an item. -/
inductive Json.Key where
  | name (t : Text)
  | index (i : Nat)
  deriving DecidableEq

/-- What stands in a value at the end of a path. -/
def Json.at? : Json → List Key → Option Json
  | v, [] => some v
  | .object members, .name n :: p => (Association.get? n members).bind fun v => at? v p
  | .list items, .index i :: p => items[i]?.bind fun v => at? v p
  | _, _ :: _ => none

theorem Json.at?_append (v : Json) (p q : List Key) :
    v.at? (p ++ q) = (v.at? p).bind fun w => w.at? q := by
  induction p generalizing v with
  | nil => cases v <;> rfl
  | cons key p ih =>
      cases v <;> cases key <;> simp [at?, ih, Option.bind_assoc]

/-- What can be seen of a value without looking into it: the names of its members, the number of
its items, or all of it. -/
inductive Shape where
  | leaf (v : Json)
  | items (number : Nat)
  | members (names : List Text)

/-- The shape of a JSON value. -/
def Json.shape : Json → Shape
  | .list items => .items items.length
  | .object members => .members (members.map Prod.fst)
  | v => .leaf v

namespace Setting

/-- What stands in a tree at the end of a path. -/
def at? : Setting → List Json.Key → Option Setting
  | s, [] => some s
  | plain v, key :: p | constant v, key :: p => (v.at? (key :: p)).map plain
  | list items, .index i :: p => items[i]?.bind fun v => at? v p
  | table members, .name n :: p | record members, .name n :: p =>
    (Association.get? n members).bind fun v => at? v p
  | _, _ :: _ => none

/-- What stands in a tree below tables and records alone. -/
def inner? : Setting → List Text → Option Setting
  | s, [] => some s
  | table members, n :: names | record members, n :: names =>
    (Association.get? n members).bind fun v => inner? v names
  | _, _ :: _ => none

/-- A path is open if no name on it is secret. -/
def IsOpen (p : List Json.Key) : Prop := ∀ name, .name name ∈ p → ¬ isSecret name

/-- The shape of a tree. A record has that of a table, and a constant that of its value. -/
def shape : Setting → Shape
  | plain v | constant v => v.shape
  | list items => .items items.length
  | table members | record members => .members (members.map Prod.fst)

end Setting

/-- A shape without the secret names. -/
def Shape.shown : Shape → Shape
  | members names => members (names.filter fun name => !Setting.isSecret name)
  | other => other

namespace Setting

/-! ## Concealing -/

/-- The tree itself is neither a record nor a constant. -/
def IsPlain : Setting → Prop
  | constant _ | record _ => False
  | _ => True

/-- A tree tells the same as another without its secret members, without looking into it. -/
structure Keeps (s shown : Setting) : Prop where
  isPlain : shown.IsPlain
  shape : shown.shape = s.shape.shown

/-- A tree shows another without its secrets, and without its records and constants. -/
structure Conceals (s shown : Setting) : Prop where
  hidden : ∀ p, ¬ IsOpen p → shown.at? p = none
  kept : ∀ p, IsOpen p → Option.Rel Keeps (s.at? p) (shown.at? p)

/-- Nothing in the tree is secret, and nothing below it is a record or a constant. -/
def IsBare (s : Setting) : Prop :=
  ∀ p v, IsOpen p → s.at? p = some v → v.shape.shown = v.shape ∧ (p ≠ [] → v.IsPlain)

/-- The tree is a table or a record. -/
def HasMembers : Setting → Prop
  | table _ | record _ => True
  | _ => False

variable {s shown v : Setting} {p : List Json.Key} {names : List Text}

theorem isOpen_nil : IsOpen [] := by
  rintro name ⟨⟩

theorem isOpen_cons_name {name : Text} :
    IsOpen (.name name :: p) ↔ ¬ isSecret name ∧ IsOpen p := by
  simp [IsOpen]

theorem isOpen_append {q : List Json.Key} : IsOpen (p ++ q) ↔ IsOpen p ∧ IsOpen q := by
  simp only [IsOpen, List.mem_append, or_imp, forall_and]

theorem isOpen_names : IsOpen (names.map .name) ↔ ∀ name ∈ names, ¬ isSecret name := by
  simp [IsOpen]

/-- The first secret name on a path. -/
theorem exists_secret_of_not_isOpen (h : ¬ IsOpen p) :
    ∃ q name r, p = q ++ .name name :: r ∧ IsOpen q ∧ isSecret name := by
  induction p with
  | nil => exact absurd isOpen_nil h
  | cons key p ih =>
      by_cases hstep : IsOpen [key]
      · have hp : ¬ IsOpen p := fun hp => h (isOpen_append.mpr ⟨hstep, hp⟩)
        obtain ⟨q, name, r, rfl, hq, hsecret⟩ := ih hp
        exact ⟨key :: q, name, r, rfl, isOpen_append.mpr ⟨hstep, hq⟩, hsecret⟩
      · cases key with
        | index i => exact absurd (by rintro name (_ | ⟨_, ⟨⟩⟩)) hstep
        | name n =>
            have hsecret : isSecret n := by simpa [IsOpen] using hstep
            exact ⟨[], n, p, rfl, isOpen_nil, hsecret⟩

@[simp] theorem at?_nil (s : Setting) : s.at? [] = some s := by
  cases s <;> rfl

theorem at?_plain (v : Json) (p : List Json.Key) : (plain v).at? p = (v.at? p).map plain := by
  cases p with
  | nil => cases v <;> rfl
  | cons => rfl

theorem at?_append (s : Setting) (p q : List Json.Key) :
    s.at? (p ++ q) = (s.at? p).bind fun v => v.at? q := by
  induction p generalizing s with
  | nil => rw [List.nil_append, at?_nil, Option.bind_some]
  | cons key p ih =>
      cases s with
      | plain v | constant v =>
          show ((v.at? ((key :: p) ++ q)).map plain) = _
          rw [Json.at?_append]
          show _ = ((v.at? (key :: p)).map plain).bind _
          cases v.at? (key :: p) with
          | none => rfl
          | some w => exact (at?_plain w q).symm
      | list items => cases key <;> simp [at?, ih, Option.bind_assoc]
      | table members | record members => cases key <;> simp [at?, ih, Option.bind_assoc]

/-- What stands below tables and records stands in the tree. -/
theorem at?_of_inner? (h : s.inner? names = some v) (p : List Json.Key) :
    s.at? (names.map .name ++ p) = v.at? p := by
  induction names generalizing s with
  | nil =>
      cases h
      rfl
  | cons n names ih =>
      cases s with
      | table members | record members =>
          rw [inner?, Option.bind_eq_some_iff] at h
          obtain ⟨w, hw, hinner⟩ := h
          rw [List.map_cons, List.cons_append, at?, hw, Option.bind_some, ih hinner]
      | _ => cases h

/-! ## What is shown of members -/

theorem names_dumpMembers (members : List (Text × Setting)) :
    (dumpMembers members).map Prod.fst =
      (members.map Prod.fst).filter fun name => !isSecret name := by
  induction members with
  | nil => rfl
  | cons member rest ih =>
      obtain ⟨name, v⟩ := member
      cases hsecret : isSecret name <;> simp [dumpMembers, hsecret, ih]

theorem get?_dumpMembers (name : Text) (members : List (Text × Setting)) :
    Association.get? name (dumpMembers members) =
      if isSecret name then none else (Association.get? name members).map dump := by
  induction members with
  | nil => simp [dumpMembers, Association.get?]
  | cons member rest ih =>
      obtain ⟨other, v⟩ := member
      rw [dumpMembers]
      by_cases hname : other = name
      · subst hname
        cases hsecret : isSecret other <;> simp [Association.get?, ih, hsecret]
      · cases isSecret other <;> simp [Association.get?, ih, hname]

/-- **Below tables and records** nothing is shown that is secret, and all else is. -/
theorem inner?_dump (s : Setting) (names : List Text) :
    s.dump.inner? names =
      if names.any isSecret then none else (s.inner? names).map dump := by
  induction names generalizing s with
  | nil => cases s <;> rfl
  | cons name names ih =>
      cases s with
      | table members | record members =>
          rw [dump, inner?, inner?, get?_dumpMembers, List.any_cons]
          cases isSecret name with
          | true => rfl
          | false => cases Association.get? name members <;> simp [ih]
      | _ => simp [dump, inner?]

/-! ## What is shown of everything else -/

/-- What has no members is shown as it is. -/
theorem at?_dump (h : ¬ s.HasMembers) (hp : p ≠ []) : s.dump.at? p = s.at? p := by
  obtain ⟨key, p, rfl⟩ := List.exists_cons_of_ne_nil hp
  cases s with
  | table | record => exact absurd trivial h
  | _ => rfl

theorem isPlain_dump (s : Setting) : s.dump.IsPlain := by
  cases s <;> trivial

theorem shape_dump (h : ¬ s.HasMembers) : s.dump.shape = s.shape := by
  cases s with
  | table | record => exact absurd trivial h
  | _ => rfl

/-- What has no members keeps what it shows exactly if it is bare. -/
theorem kept_dump_iff (h : ¬ s.HasMembers) :
    (∀ p, IsOpen p → Option.Rel Keeps (s.at? p) (s.dump.at? p)) ↔ s.IsBare := by
  constructor
  · intro hkept p v hp hv
    by_cases hnil : p = []
    · subst hnil
      rw [at?_nil, Option.some.injEq] at hv
      subst hv
      have hkeeps := hkept [] isOpen_nil
      rw [at?_nil, at?_nil] at hkeeps
      cases hkeeps with
      | some hkeeps => exact ⟨by rw [← hkeeps.shape, shape_dump h], fun hnot => absurd rfl hnot⟩
    · have hkeeps := hkept p hp
      rw [at?_dump h hnil, hv] at hkeeps
      cases hkeeps with
      | some hkeeps => exact ⟨hkeeps.shape.symm, fun _ => hkeeps.isPlain⟩
  · intro hbare p hp
    by_cases hnil : p = []
    · subst hnil
      rw [at?_nil, at?_nil]
      refine .some ⟨isPlain_dump s, ?_⟩
      rw [shape_dump h, (hbare [] s isOpen_nil (at?_nil s)).1]
    · rw [at?_dump h hnil]
      cases hv : s.at? p with
      | none => exact .none
      | some v =>
          obtain ⟨hshape, hplain⟩ := hbare p v hp hv
          exact .some ⟨hplain hnil, hshape.symm⟩

/-! ## All that is shown -/

/-- A name that is not shown leads nowhere. -/
theorem at?_eq_none_of_isSecret {name : Text} (h : isSecret name) (hkeeps : Keeps v s)
    (p : List Json.Key) : s.at? (.name name :: p) = none := by
  obtain ⟨hplain, hshape⟩ := hkeeps
  have hnames : ∀ names, s.shape = .members names → name ∉ names := by
    intro names hs hmem
    rw [hs] at hshape
    cases hv : v.shape with
    | members all =>
        rw [hv] at hshape
        cases hshape
        simp [h] at hmem
    | _ => rw [hv] at hshape; cases hshape
  cases s with
  | plain v =>
      cases v with
      | object members =>
          have hnone := Association.get?_eq_none (hnames _ rfl)
          simp [at?, Json.at?, hnone]
      | _ => rfl
  | table members => rw [at?, Association.get?_eq_none (hnames _ rfl), Option.bind_none]
  | list items => rfl
  | constant | record => exact hplain.elim

/-- A tree that keeps what is open hides what is not. -/
theorem hidden_of_kept (hkept : ∀ p, IsOpen p → Option.Rel Keeps (s.at? p) (shown.at? p))
    (hp : ¬ IsOpen p) : shown.at? p = none := by
  obtain ⟨q, name, r, rfl, hq, hsecret⟩ := exists_secret_of_not_isOpen hp
  have hkeeps := hkept q hq
  rw [at?_append]
  cases hshown : shown.at? q with
  | none => rfl
  | some w =>
      rw [hshown] at hkeeps
      cases hv : s.at? q with
      | none => rw [hv] at hkeeps; cases hkeeps
      | some v =>
          rw [hv] at hkeeps
          cases hkeeps with
          | some hkeeps => exact at?_eq_none_of_isSecret hsecret hkeeps r

/-- Everything in a tree that stands in the place of tables and records, on an open path, is bare. -/
def IsBareInside (s : Setting) : Prop :=
  ∀ names v, (∀ name ∈ names, ¬ isSecret name) → s.inner? names = some v → ¬ v.HasMembers →
    v.IsBare

/-- What stands under a name that is not secret is as bare as the tree. -/
theorem IsBareInside.of_inner? (h : s.IsBareInside) {name : Text} (hname : ¬ isSecret name)
    (hv : s.inner? [name] = some v) : v.IsBareInside := by
  intro names w hnames hw
  refine h (name :: names) w (by simpa [hname] using hnames) ?_
  cases s with
  | table members | record members =>
      simp only [inner?, Option.bind_eq_some_iff] at hv
      obtain ⟨v', hget, hv'⟩ := hv
      cases hv'
      rw [inner?, hget, Option.bind_some, hw]
  | _ => cases hv

theorem shape_dump_of_hasMembers (h : s.HasMembers) : s.dump.shape = s.shape.shown := by
  cases s with
  | table members | record members =>
      rw [dump, shape, shape, Shape.shown, names_dumpMembers]
  | _ => exact h.elim

theorem hasMembers_dump (h : s.HasMembers) : s.dump.HasMembers := by
  cases s with
  | table | record => trivial
  | _ => exact h.elim

theorem at?_name (h : s.HasMembers) (name : Text) (p : List Json.Key) :
    s.at? (.name name :: p) = (s.inner? [name]).bind fun v => v.at? p := by
  cases s with
  | table members | record members =>
      rw [at?, inner?]
      cases Association.get? name members <;> rfl
  | _ => exact h.elim

theorem at?_index (h : s.HasMembers) (i : Nat) (p : List Json.Key) :
    s.at? (.index i :: p) = none := by
  cases s with
  | table | record => rfl
  | _ => exact h.elim

/-- What is shown keeps everything on open paths if all that stands in the place of tables and
records is bare. -/
theorem kept_dump (hbare : s.IsBareInside) (hp : IsOpen p) :
    Option.Rel Keeps (s.at? p) (s.dump.at? p) := by
  induction p generalizing s with
  | nil =>
      by_cases hmembers : s.HasMembers
      · rw [at?_nil, at?_nil]
        exact .some ⟨isPlain_dump s, shape_dump_of_hasMembers hmembers⟩
      · exact (kept_dump_iff hmembers).mpr (hbare [] s (by simp) rfl hmembers) _ hp
  | cons key p ih =>
      by_cases hmembers : s.HasMembers
      · cases key with
        | index i =>
            rw [at?_index hmembers, at?_index (hasMembers_dump hmembers)]
            exact .none
        | name n =>
            obtain ⟨hname, hrest⟩ := isOpen_cons_name.mp hp
            rw [at?_name hmembers, at?_name (hasMembers_dump hmembers), inner?_dump,
              if_neg (by simpa using hname)]
            cases hv : s.inner? [n] with
            | none => exact .none
            | some v => exact ih (hbare.of_inner? hname hv) hrest
      · exact (kept_dump_iff hmembers).mpr (hbare [] s (by simp) rfl hmembers) _ hp

/-- **What is shown of a tree conceals its secrets as far as tables and records reach**: no secret
name leads to anything, and every other leads to what it shows. It conceals the tree altogether
exactly if everything that stands in the place of tables and records is bare. -/
theorem conceals_dump_iff (s : Setting) :
    (∀ names, s.dump.inner? names =
      if names.any isSecret then none else (s.inner? names).map dump) ∧
    (s.Conceals s.dump ↔ s.IsBareInside) := by
  refine ⟨inner?_dump s, fun hconceals => ?_, fun hbare => ?_⟩
  · intro names v hnames hv hmembers
    have hopen : ¬ names.any isSecret := by simpa using hnames
    have hdump : s.dump.inner? names = some v.dump := by
      rw [inner?_dump, if_neg hopen, hv, Option.map_some]
    rw [← kept_dump_iff hmembers]
    intro p hp
    rw [← at?_of_inner? hv, ← at?_of_inner? hdump]
    exact hconceals.kept _ (isOpen_append.mpr ⟨isOpen_names.mpr hnames, hp⟩)
  · have hkept : ∀ p, IsOpen p → Option.Rel Keeps (s.at? p) (s.dump.at? p) :=
      fun p hp => kept_dump hbare hp
    exact ⟨fun p hp => hidden_of_kept hkept hp, hkept⟩

/-- A secret in a list is shown. -/
theorem list_shows_secrets :
    let password : Setting := .plain (.string "x")
    let s : Setting := .ofFields [("nodes", .list [.table [("password".toList, password)]])]
    let p : List Json.Key := [.name "nodes".toList, .index 0, .name "password".toList]
    ¬ IsOpen p ∧ s.dump.at? p = some password ∧ ¬ s.Conceals s.dump := by
  intro password s p
  have hopen : ¬ IsOpen p := fun h => h "password".toList (by simp [p]) (by decide)
  have hnodes : s.dump.inner? ["nodes".toList] =
      some (.list [.table [("password".toList, password)]]) := by
    rw [inner?_dump, if_neg (by decide)]
    simp [s, ofFields, inner?, Association.get?, dump]
  have hshown : s.dump.at? p = some password := at?_of_inner? hnodes p.tail
  refine ⟨hopen, hshown, fun hconceals => ?_⟩
  rw [hconceals.hidden p hopen] at hshown
  cases hshown

end Setting

end ContractVerifier
