import ContractVerifier.Text.Basic

set_option autoImplicit false

/-! # Halves of pairs

A character beyond the first 65536 can be written as a pair of halves, and a text may hold
one half without the other: it can be named by its number, but it has no bytes. The private
character 0x100000 further up stands for a half.

This is a limit of these texts: the private characters from 0x10D800 to 0x10DFFF are characters like
any other and have bytes, but a text that holds one of them counts as a text that holds a half.
-/

namespace ContractVerifier.Text

/-- Whether a number is that of a half. -/
def isHalfCode (n : Nat) : Bool := 0xD800 ≤ n && n < 0xE000

/-- Whether `c` stands for a half. A character from 0x10D800 to 0x10DFFF always does. -/
def isHalf (c : Char) : Bool := isHalfCode (c.toNat - 0x100000)

/-- The character or half with this number. -/
def ofCode (n : Nat) : Char := Char.ofNat (if isHalfCode n then n + 0x100000 else n)

/-- The number of a character or half. -/
def code (c : Char) : Nat := if isHalf c then c.toNat - 0x100000 else c.toNat

end ContractVerifier.Text
