import ContractVerifier.HostName.Allowed
import ContractVerifier.HostName.Direction
import ContractVerifier.HostName.Joining
import ContractVerifier.HostName.Problem
import ContractVerifier.HostName.Script
import ContractVerifier.Text.Composition
import ContractVerifier.Text.Mark

set_option autoImplicit false

/-! # Labels of host names

A label is a part of a host's name. It is composed, holds characters that are allowed in it,
each in good company, and has one direction of writing.

Main definition: `check`.
-/

namespace ContractVerifier.HostName

/-! ## Company

What stands before and behind a character decides whether a joiner, and a few characters
more, may stand there. The text before has its last character first. -/

/-- The class of the marks that take the vowel from a letter. -/
def viramaClass : Nat := 9

/-- Whether a joiner may stand between two texts: behind a letter without its vowel, or, to
keep two letters apart, between letters that would join. -/
def isJoinerApt (c : Char) (before behind : Text) : Bool :=
  let isBehindVirama := before.head?.any fun d => Text.markClass d = viramaClass
  -- a letter that no direction is known of is not known at all
  let isBehindUnknown := before.head?.any fun d =>
    Text.markClass d = 0 && Direction.ofChar d = .unknown
  let isBetween := (before.dropWhile isTransparent).head?.any joinsNext &&
    (behind.dropWhile isTransparent).head?.any joinsPrevious
  isBehindVirama || c.toNat = 0x200C && !isBehindUnknown && isBetween

/-- Whether `c` is a digit of the Arabic script proper. -/
def isArabicDigit (c : Char) : Bool := 0x660 ≤ c.toNat && c.toNat ≤ 0x669

/-- Whether `c` is a digit of the Arabic script further east. -/
def isEasternDigit (c : Char) : Bool := 0x6F0 ≤ c.toNat && c.toNat ≤ 0x6F9

/-- Whether one of the `companions` may stand between two texts: a raised point between two
letters l, a numeral sign before a Greek letter, a mark behind a Hebrew one, a middle point
in a Japanese label, and digits of one sort only. -/
def isCompanyApt (c : Char) (before behind : Text) : Bool :=
  let label := before ++ behind
  if c.toNat = 0xB7 then before.head? = some 'l' && behind.head? = some 'l'
  else if c.toNat = 0x375 then behind.head?.any isGreek
  else if c.toNat = 0x5F3 ∨ c.toNat = 0x5F4 then before.head?.any isHebrew
  else if c.toNat = 0x30FB then label.any fun d => d.toNat ≠ 0x30FB && isJapanese d
  else if isArabicDigit c then !label.any isEasternDigit
  else isEasternDigit c && !label.any isArabicDigit

/-- Checks one character of a label after the other. -/
def checkCharacters (label before : Text) : Text → Except Problem Unit
  | [] => .ok ()
  | c :: behind =>
    let position := before.length + 1
    if isAllowed c then checkCharacters label (c :: before) behind
    else if isJoiner c then
      if isJoinerApt c before behind then checkCharacters label (c :: before) behind
      else .error (.joiner c position label)
    else if isCompanion c then
      if isCompanyApt c before behind then checkCharacters label (c :: before) behind
      else .error (.company c position label)
    else .error (.notAllowed c position label)

/-! ## Direction -/

/-- Whether a direction makes a label one that is written from right to left in part. -/
def Direction.isRightToLeft : Direction → Bool
  | rightToLeft => true
  | arabicLetter => true
  | arabicNumber => true
  | _ => false

/-- Whether a direction goes with a label written in one of the two directions. -/
def Direction.fits (isRightToLeft : Bool) : Direction → Bool
  | leftToRight => !isRightToLeft
  | rightToLeft => isRightToLeft
  | arabicLetter => isRightToLeft
  | arabicNumber => isRightToLeft
  | unknown => false
  | _ => true

/-- Whether a label written in one of the two directions may end with a direction. -/
def Direction.ends (isRightToLeft : Bool) : Direction → Bool
  | leftToRight => !isRightToLeft
  | rightToLeft => isRightToLeft
  | arabicLetter => isRightToLeft
  | arabicNumber => isRightToLeft
  | europeanNumber => true
  | _ => false

/-- Checks the directions of a label one after the other: each must go with the label's, and
with it only one sort of numbers. `numbers` are the sort of those so far. -/
def checkEach (isRightToLeft : Bool) (position : Nat) (numbers : Option Direction) :
    List Direction → Except Problem Unit
  | [] => .ok ()
  | d :: rest =>
    if d.fits isRightToLeft then
      if isRightToLeft ∧ (d = .arabicNumber ∨ d = .europeanNumber) then
        if numbers.all (· = d) then checkEach isRightToLeft (position + 1) (some d) rest
        else .error .mixedNumbers
      else checkEach isRightToLeft (position + 1) numbers rest
    else .error (.direction position isRightToLeft)

/-- Checks the directions of a label. A label without anything from right to left is fine. -/
def checkDirections (label : Text) : Except Problem Unit :=
  let directions := label.map Direction.ofChar
  match directions.findIdx? (· = .unknown) with
  | some i => .error (.unknownDirection (i + 1) label)
  | none =>
    if directions.any (·.isRightToLeft) then
      let isRightToLeft? := match directions.head? with
        | some .leftToRight => some false
        | some .rightToLeft => some true
        | some .arabicLetter => some true
        | _ => none
      match isRightToLeft? with
      | none => .error (.noDirection label)
      | some isRightToLeft =>
        match checkEach isRightToLeft 1 none directions with
        | .error e => .error e
        | .ok _ =>
          if ((directions.reverse.dropWhile (· = .mark)).head?).any (·.ends isRightToLeft) then
            .ok ()
          else .error .lastDirection
    else .ok ()

/-! ## The whole label -/

/-- The most characters a label may have before it is encoded. -/
def maxUnencoded : Nat := 254

/-- Checks a label. -/
def check (label : Text) : Except Problem Unit :=
  if label = [] then .error .emptyLabel
  else if maxUnencoded < label.length then .error .longLabel
  else if !Text.isComposed label then .error .decomposed
  else if (label.drop 2).take 2 = ['-', '-'] then .error .innerHyphens
  else if label.head? = some '-' ∨ label.getLast? = some '-' then .error .outerHyphen
  else if label.head?.any Text.isMark then .error .leadingMark
  else
    match checkCharacters label [] label with
    | .error e => .error e
    | .ok _ => checkDirections label

end ContractVerifier.HostName
