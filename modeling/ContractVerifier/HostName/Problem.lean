import ContractVerifier.Text.Half
import ContractVerifier.Text.Quoted

set_option autoImplicit false

/-! # Problems of host names

Why a text is no host's name. Positions in a label count from one.
-/

namespace ContractVerifier.HostName

/-- What is wrong with a name or one of its labels. -/
inductive Problem where
  | emptyName
  | longName
  | emptyLabel
  | longLabel
  /-- The label is not composed. -/
  | decomposed
  /-- There are hyphens in the third and the fourth place. -/
  | innerHyphens
  /-- There is a hyphen at an end. -/
  | outerHyphen
  | leadingMark
  /-- A joiner is not allowed where it stands. -/
  | joiner (c : Char) (position : Nat) (label : Text)
  /-- A character is not allowed in this company. -/
  | company (c : Char) (position : Nat) (label : Text)
  | notAllowed (c : Char) (position : Nat) (label : Text)
  | unknownDirection (position : Nat) (label : Text)
  /-- The first character does not say in which direction the label is written. -/
  | noDirection (label : Text)
  /-- A character does not go with the direction of the label. -/
  | direction (position : Nat) (isRightToLeft : Bool)
  | mixedNumbers
  /-- The last character does not go with the direction of the label. -/
  | lastDirection
  /-- Nothing is encoded in an encoded label. -/
  | nothingEncoded
  | encodedHyphen
  /-- An encoded label cannot be decoded. -/
  | notDecodable
  deriving DecidableEq, Repr

namespace Problem

/-- The number of a character as it is written. -/
def codeText (c : Char) : Text :=
  let digits := (Nat.toDigits 16 (Text.code c)).map Char.toUpper
  "U+".toList ++ List.replicate (4 - digits.length) '0' ++ digits

/-- The wording of a problem. -/
def message : Problem → Text
  | emptyName => "Empty domain".toList
  | longName => "Domain too long".toList
  | emptyLabel => "Empty Label".toList
  | longLabel => "Label too long".toList
  | decomposed => "Label must be in Normalization Form C".toList
  | innerHyphens => "Label has disallowed hyphens in 3rd and 4th position".toList
  | outerHyphen => "Label must not start or end with a hyphen".toList
  | leadingMark => "Label begins with an illegal combining character".toList
  | joiner c position label =>
    "Unknown codepoint adjacent to joiner ".toList ++ codeText c ++ " at position ".toList ++
      Text.ofInt position ++ " in ".toList ++ Text.quoted label
  | company c position label =>
    "Codepoint ".toList ++ codeText c ++ " not allowed at position ".toList ++
      Text.ofInt position ++ " in ".toList ++ Text.quoted label
  | notAllowed c position label =>
    "Codepoint ".toList ++ codeText c ++ " at position ".toList ++ Text.ofInt position ++
      " of ".toList ++ Text.quoted label ++ " not allowed".toList
  | unknownDirection position label =>
    "Unknown directionality in label ".toList ++ Text.quoted label ++ " at position ".toList ++
      Text.ofInt position
  | noDirection label =>
    "First codepoint in label ".toList ++ Text.quoted label ++
      " must be directionality L, R or AL".toList
  | direction position isRightToLeft =>
    "Invalid direction for codepoint at position ".toList ++ Text.ofInt position ++ " in a ".toList ++
      (if isRightToLeft then "right-to-left" else "left-to-right").toList ++ " label".toList
  | mixedNumbers => "Can not mix numeral types in a right-to-left label".toList
  | lastDirection => "Label ends with illegal codepoint directionality".toList
  | nothingEncoded => "Malformed A-label, no Punycode eligible content found".toList
  | encodedHyphen => "A-label must not end with a hyphen".toList
  | notDecodable => "Invalid A-label".toList

/-- The name under which a problem is reported. -/
def kind : Problem → String
  | company .. => "InvalidCodepointContext"
  | notAllowed .. => "InvalidCodepoint"
  | unknownDirection .. => "IDNABidiError"
  | noDirection .. => "IDNABidiError"
  | direction .. => "IDNABidiError"
  | mixedNumbers => "IDNABidiError"
  | lastDirection => "IDNABidiError"
  | _ => "IDNAError"

end Problem

end ContractVerifier.HostName
