import ContractVerifier.Text.Basic

set_option autoImplicit false

/-! # White space

The Unicode white space characters, and cutting them off the ends of a text.
-/

namespace ContractVerifier.Text

/-- The ranges of white space: the ASCII controls that separate, the space, and the Unicode
separators. The zero-width space and the byte order mark are not among them. -/
def blanks : List (Nat × Nat) :=
  [(0x09, 0x0D), (0x1C, 0x20), (0x85, 0x85), (0xA0, 0xA0), (0x1680, 0x1680),
   (0x2000, 0x200A), (0x2028, 0x2029), (0x202F, 0x202F), (0x205F, 0x205F), (0x3000, 0x3000)]

/-- Whether `c` is white space. -/
def isBlank (c : Char) : Bool := inTable blanks c

theorem isBlank_of_isWhitespace {c : Char} (h : c.isWhitespace = true) : isBlank c = true := by
  simp only [Char.isWhitespace, Bool.or_eq_true, decide_eq_true_eq] at h
  rcases h with ((h | h) | h) | h <;> subst h <;> decide

/-- `t` without the white space it ends with. -/
def stripEnd (t : Text) : Text := (t.reverse.dropWhile isBlank).reverse

/-- `t` without the white space at either end. -/
def strip (t : Text) : Text := stripEnd (t.dropWhile isBlank)

end ContractVerifier.Text
