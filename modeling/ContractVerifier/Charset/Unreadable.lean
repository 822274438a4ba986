import ContractVerifier.Encoding.Basic

set_option autoImplicit false

/-! # Bytes that are no text

Most character sets read any bytes in some way, with a replacement for what stands for
nothing. Here is why others do not.
-/

namespace ContractVerifier

/-- Why bytes are no text in a character set. -/
inductive Unreadable where
  /-- There is no mark to tell the order of the bytes; the units have so many bits. -/
  | noMark (width : Nat)
  /-- Too many bytes are there from where they break off. -/
  | longCut
  /-- The character set is there to stand for none. -/
  | undefined
  /-- The bytes of a host's name cannot be read with replacements. -/
  | strictOnly
  /-- The bytes become other bytes. -/
  | notText
  /-- Characters become other characters, and bytes are none. -/
  | rotation
  /-- There is a flaw where none can be replaced. -/
  | flawed (e : DecodeError)
  deriving DecidableEq, Repr

namespace Unreadable

/-- The name under which it is reported. -/
def kind : Unreadable → String
  | noMark _ => "UnicodeError"
  | longCut => "UnicodeError"
  | undefined => "UnicodeError"
  | strictOnly => "UnicodeError"
  | notText => "AssertionError"
  | rotation => "TypeError"
  | flawed _ => "UnicodeDecodeError"

/-- The wording of it. -/
def message : Unreadable → String
  | noMark width => "UTF-" ++ toString width ++ " stream does not start with BOM"
  | longCut => "pending buffer overflow"
  | undefined => "undefined encoding"
  | strictOnly => "Unsupported error handling replace"
  | notText => ""
  | rotation => "descriptor 'translate' for 'str' objects doesn't apply to a 'bytes' object"
  | flawed e => e.message

end Unreadable

end ContractVerifier
