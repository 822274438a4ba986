import ContractVerifier.Text.Basic

set_option autoImplicit false

/-! # Paths

A path is what a user writes: an anchor and names with slashes between them. Empty names
and `.` are dropped when a path is read, `..` is kept, because the name before it may be a
link. A **location** is what a path leads to: the names from the root of the tree, none of
them a link or `..`.
-/

namespace ContractVerifier

/-- Names from the root of the tree. -/
abbrev Location := List Text

/-- Where a path starts. -/
inductive Anchor where
  | here
  | root
  /-- Two leading slashes, which are kept apart from one. -/
  | doubled
  deriving DecidableEq, Repr

/-- A path as it is written. -/
structure Path where
  anchor : Anchor
  names : List Text
  deriving DecidableEq, Repr

namespace Path

/-- The names between the slashes of a text, without the empty ones and `.`. -/
def namesOf (t : Text) : List Text :=
  (Text.split '/' t).filter fun name => name ≠ [] ∧ name ≠ ['.']

/-- The anchor of a text: exactly two leading slashes are special. -/
def anchorOf : Text → Anchor
  | '/' :: '/' :: '/' :: _ => .root
  | '/' :: '/' :: _ => .doubled
  | '/' :: _ => .root
  | _ => .here

/-- The path a text denotes. -/
def ofText (t : Text) : Path := ⟨anchorOf t, namesOf t⟩

/-- The path to a location. -/
def ofLocation (l : Location) : Path := ⟨.root, l⟩

/-- The text of a path. -/
def text (p : Path) : Text :=
  let names := Text.join ['/'] p.names
  match p.anchor with
  | .here => if p.names.isEmpty then ['.'] else names
  | .root => '/' :: names
  | .doubled => '/' :: '/' :: names

/-- The path `q` as seen from `p`: `q` itself if it starts at the root. -/
def join (p q : Path) : Path :=
  match q.anchor with
  | .here => ⟨p.anchor, p.names ++ q.names⟩
  | _ => q

/-- The path one name up. -/
def parent (p : Path) : Path := ⟨p.anchor, p.names.dropLast⟩

/-- The last name of a path, empty if it has none. -/
def name (p : Path) : Text := (p.names.getLast?).getD []

/-- The position of the last dot of a text. -/
def lastDot? (t : Text) : Option Nat :=
  let tail := t.reverse.takeWhile (· ≠ '.')
  if tail.length < t.length then some (t.length - 1 - tail.length) else none

/-- The last name without its ending: what stands before its last dot, unless the dot is
its first or last character. -/
def stem (p : Path) : Text :=
  match lastDot? p.name with
  | some i => if 0 < i ∧ i + 1 < p.name.length then p.name.take i else p.name
  | none => p.name

end Path

/-- The text of a location. -/
def Location.text (l : Location) : Text := (Path.ofLocation l).text

end ContractVerifier
