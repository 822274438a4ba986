import ContractVerifier.Text.Table

set_option autoImplicit false

/-! # Runs of characters

A table of characters with codes. Characters whose codes come one after another are a run, of
which the code of the first is given.
-/

namespace ContractVerifier.Charset

/-- A run: the code of its first character, and its characters. -/
structure Run where
  first : Nat
  chars : Array Char

/-- A table of characters. -/
abbrev Runs := List Run

namespace Runs

/-- The runs of a table that gives, with blanks between, a code in hexadecimal digits and
characters by turns. -/
def ofTable (table : String) : Runs :=
  (Table.twos (Table.words table)).map fun p =>
    ⟨p.1.foldl (fun n c => 16 * n + (Text.hexValue? c).getD 0) 0, p.2.toArray⟩

/-- The character with a code. -/
def char? (runs : Runs) (code : Nat) : Option Char :=
  runs.findSome? fun r => if code < r.first then none else r.chars[code - r.first]?

/-- All characters of a table. -/
def chars (runs : Runs) : List Char := runs.flatMap fun r => r.chars.toList

end Runs

end ContractVerifier.Charset
