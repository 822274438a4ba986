import ContractVerifier.Text.Half
import ContractVerifier.Text.Printable

set_option autoImplicit false

/-! # Quoted texts

A text in a message stands between quotes: single ones, or double ones if the text has a
single quote and no double one. What cannot be shown is escaped, so that the message stays
on one line.
-/

namespace ContractVerifier.Text

/-- A hexadecimal number of at least `width` small digits. -/
def hexPadded (width n : Nat) : Text :=
  let ds := Nat.toDigits 16 n
  List.replicate (width - ds.length) '0' ++ ds

/-- A character or half by its number. -/
def codeEscape (c : Char) : Text :=
  let n := code c
  if n < 0x100 then '\\' :: 'x' :: hexPadded 2 n
  else if n < 0x10000 then '\\' :: 'u' :: hexPadded 4 n
  else '\\' :: 'U' :: hexPadded 8 n

/-- A character between quotes of the kind `quote`. -/
def escapeChar (quote c : Char) : Text :=
  if c = quote ∨ c = '\\' then ['\\', c]
  else if c = '\n' then ['\\', 'n']
  else if c = '\r' then ['\\', 'r']
  else if c = '\t' then ['\\', 't']
  else if isPrintable c then [c]
  else codeEscape c

/-- The quoted form of a text. -/
def quoted (t : Text) : Text :=
  let quote := if t.contains '\'' && !t.contains '"' then '"' else '\''
  quote :: (t.flatMap (escapeChar quote) ++ [quote])

end ContractVerifier.Text
