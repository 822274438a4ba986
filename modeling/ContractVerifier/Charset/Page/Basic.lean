import ContractVerifier.Text.Table

set_option autoImplicit false

/-! # Pages

A page is a character set of at most 256 characters, each of which is one byte. Most pages
have ASCII in their lower half.

A reading of bytes, of which there are more in the modules beside this one, gives `none` in
the place of bytes that stand for nothing.
-/

namespace ContractVerifier.Charset

/-- What bytes stand for: characters, and `none` where they stand for nothing. -/
abbrev Reading := List (Option Char)

/-- A page: the codes of its characters, from the byte `start` on. Below that it has ASCII. -/
structure Page where
  start : Nat
  codes : List Nat
  deriving DecidableEq, Repr

namespace Page

/-- The code in a table that tells that a byte stands for nothing. -/
def noCode : Nat := 0xFFFD

/-- The page of a table, which gives the upper half of the page or all of it. -/
def ofTable (table : String) : Page :=
  let codes := Table.numbers table
  ⟨256 - codes.length, codes⟩

/-- The character that a byte stands for. -/
def char? (p : Page) (b : UInt8) : Option Char :=
  let n := b.toNat
  let code := if n < p.start then n else p.codes.getD (n - p.start) noCode
  if code = noCode then none else some (Char.ofNat code)

/-- The characters of some bytes. -/
def read (p : Page) (bytes : List UInt8) : Reading := bytes.map p.char?

end Page

end ContractVerifier.Charset
