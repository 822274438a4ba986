import ContractVerifier.Text.Quoted

set_option autoImplicit false

/-! # Characters that cannot be encoded

A text that has to become bytes may hold characters the encoding has no bytes for: those
beyond ASCII in ASCII, and halves of pairs in UTF-8.
-/

namespace ContractVerifier

/-- The encodings that texts are written in. -/
inductive WrittenAs where
  | ascii
  | utf8
  deriving DecidableEq, Repr

namespace WrittenAs

/-- The name of an encoding. -/
def name : WrittenAs → String
  | ascii => "ascii"
  | utf8 => "utf-8"

/-- Whether the encoding has bytes for `c`. -/
def has : WrittenAs → Char → Bool
  | ascii, c => c.toNat < 0x80
  | utf8, c => !Text.isHalf c

/-- What is said of a character the encoding has no bytes for. -/
def reason : WrittenAs → String
  | ascii => "ordinal not in range(128)"
  | utf8 => "surrogates not allowed"

end WrittenAs

/-- The first characters of a text without bytes, one behind the other, and their position. -/
structure Unencodable where
  encoding : WrittenAs
  position : Nat
  characters : Text
  deriving DecidableEq, Repr

namespace Unencodable

/-- What cannot be encoded in a text, if there is anything. -/
def find? (encoding : WrittenAs) (t : Text) : Option Unencodable :=
  let start := (t.takeWhile encoding.has).length
  match (t.drop start).takeWhile (!encoding.has ·) with
  | [] => none
  | characters => some ⟨encoding, start, characters⟩

/-- The wording names the character if there is just one, and the positions of the first and
the last otherwise. -/
def message (u : Unencodable) : Text :=
  let place := match u.characters with
    | [c] =>
      "character '".toList ++ Text.codeEscape c ++ "' in position ".toList ++ Text.ofInt u.position
    | cs =>
      "characters in position ".toList ++ Text.ofInt u.position ++ '-' ::
        Text.ofInt (u.position + cs.length - 1 : Nat)
  ("'" ++ u.encoding.name ++ "' codec can't encode ").toList ++ place ++
    (": " ++ u.encoding.reason).toList

end Unencodable

end ContractVerifier
