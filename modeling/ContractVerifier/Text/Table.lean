import ContractVerifier.Text.Digit

set_option autoImplicit false

/-! # Tables of numbers

A long table is written as a text: hexadecimal numbers, or other words, with blanks between.
Here is how such a text is read.
-/

namespace ContractVerifier.Table

/-- What is read so far: the numbers before this one, last first, and this one, if it has
begun. -/
structure State where
  done : List Nat := []
  current : Option Nat := none

/-- Ends a number. -/
def State.finish (s : State) : State :=
  match s.current with
  | some n => { done := n :: s.done }
  | none => s

/-- Reads one character: a digit goes on with a number, and anything else ends it. -/
def State.step (s : State) (c : Char) : State :=
  match Text.hexValue? c with
  | some d => { s with current := some (16 * s.current.getD 0 + d) }
  | none => s.finish

/-- The numbers of a table, in order. -/
def numbers (table : String) : List Nat :=
  (table.toList.foldl State.step {}).finish.done.reverse

/-- The words of a table, in order. -/
def words (table : String) : List Text :=
  (Text.split ' ' (table.toList.map fun c => if c = '\n' then ' ' else c)).filter (· ≠ [])

/-- What is in a list, two by two. -/
def twos {α : Type} : List α → List (α × α)
  | a :: b :: rest => (a, b) :: twos rest
  | _ => []

/-- The numbers three by three. -/
def threes : List Nat → List (Nat × Nat × Nat)
  | a :: b :: c :: rest => (a, b, c) :: threes rest
  | _ => []

/-- The numbers four by four. -/
def fours : List Nat → List (Nat × Nat × Nat × Nat)
  | a :: b :: c :: d :: rest => (a, b, c, d) :: fours rest
  | _ => []

/-- The ranges of a table that gives the ends of each. -/
def ranges (table : String) : List (Nat × Nat) := twos (numbers table)

example : ranges "41 5A  61 7A" = [(0x41, 0x5A), (0x61, 0x7A)] := by decide

end ContractVerifier.Table
