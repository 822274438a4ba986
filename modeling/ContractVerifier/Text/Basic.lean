set_option autoImplicit false

/-! # Texts

A text is a list of characters. Sources, paths, addresses and messages are all texts, so
that what is cut out of a text is again a list and every statement about "what stands
where" is a statement about `++`.

Main definitions: `after?` (what follows a given beginning), `cut?` (what stands before and
after the first occurrence of a text), `eraseAll` (drop every occurrence, left to right),
and membership in a table of character ranges (`inTable`).
-/

namespace ContractVerifier

/-- A text: its characters in order. -/
abbrev Text := List Char

namespace Text

/-- The rest of `t` behind the beginning `p`, if `t` starts with `p`. -/
def after? : Text → Text → Option Text
  | [], t => some t
  | _ :: _, [] => none
  | a :: p, b :: t => if a = b then after? p t else none

theorem after?_eq_some_iff {p t r : Text} : after? p t = some r ↔ t = p ++ r := by
  induction p generalizing t with
  | nil => simp [after?, eq_comm]
  | cons a p ih =>
    cases t with
    | nil => simp [after?]
    | cons b t =>
      by_cases h : a = b
      · simp [after?, h, ih]
      · simp only [after?, h, if_false, List.cons_append, List.cons.injEq]
        constructor
        · intro h'
          cases h'
        · intro h'
          exact absurd h'.1.symm h

/-- Whether `t` begins with `p`. -/
def startsWith (p t : Text) : Bool := (after? p t).isSome

/-- The search behind `cut?`; `before` holds what was passed already, last character first. -/
def cutFrom (p : Text) : Text → Text → Option (Text × Text)
  | before, [] => if p = [] then some (before.reverse, []) else none
  | before, c :: t =>
    match after? p (c :: t) with
    | some r => some (before.reverse, r)
    | none => cutFrom p (c :: before) t

/-- What stands before and after the first occurrence of `p` in `t`. -/
def cut? (p t : Text) : Option (Text × Text) := cutFrom p [] t

theorem cutFrom_eq_some {p before t head tail : Text}
    (h : cutFrom p before t = some (head, tail)) :
    before.reverse ++ t = head ++ p ++ tail := by
  induction t generalizing before with
  | nil =>
    rw [cutFrom] at h
    split at h
    · rename_i hp
      cases h
      simp [hp]
    · cases h
  | cons c t ih =>
    rw [cutFrom] at h
    split at h
    · rename_i r hr
      cases h
      rw [after?_eq_some_iff] at hr
      simp [hr]
    · have := ih h
      simpa using this

/-- Cutting loses nothing: the head, the text searched for and the tail make up the whole. -/
theorem eq_of_cut?_eq_some {p t head tail : Text} (h : cut? p t = some (head, tail)) :
    t = head ++ p ++ tail := by
  simpa using cutFrom_eq_some h

/-- Whether `p` occurs in `t`. -/
def occursIn (p t : Text) : Bool := (cut? p t).isSome

/-- The loop of `eraseAll`: `skip` characters of an occurrence are still to be passed over,
and `kept` holds what stays, last character first. -/
def eraseFrom (p : Text) : Nat → Text → Text → Text
  | _, kept, [] => kept.reverse
  | skip + 1, kept, _ :: t => eraseFrom p skip kept t
  | 0, kept, c :: t =>
    if startsWith p (c :: t) then eraseFrom p (p.length - 1) kept t
    else eraseFrom p 0 (c :: kept) t

/-- `t` without the occurrences of `p`, found from left to right and never overlapping. -/
def eraseAll (p t : Text) : Text := eraseFrom p 0 [] t

/-- The texts with `sep` between neighbours. -/
def join (sep : Text) (parts : List Text) : Text := sep.intercalate parts

/-- The pieces of `t` between the separators `sep`; one more than there are separators. -/
def split (sep : Char) (t : Text) : List Text :=
  let step := fun (done : List Text × Text) (c : Char) =>
    if c = sep then (done.2.reverse :: done.1, []) else (done.1, c :: done.2)
  let last := t.foldl step ([], [])
  (last.2.reverse :: last.1).reverse

/-- The text of a whole number in decimal notation. -/
def ofInt (n : Int) : Text := (toString n).toList

/-- Whether the code point of `c` lies in one of the ranges, ends included. -/
def inTable (table : List (Nat × Nat)) (c : Char) : Bool :=
  table.any fun range => range.1 ≤ c.toNat && c.toNat ≤ range.2

/-- A small Latin letter for a capital one; every other character stays. -/
def lowerLatin (t : Text) : Text := t.map Char.toLower

end Text

end ContractVerifier
