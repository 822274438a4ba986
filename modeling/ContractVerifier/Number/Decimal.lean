import ContractVerifier.Text.Digit
import ContractVerifier.Text.Blank
import ContractVerifier.Text.Quoted

set_option autoImplicit false

/-! # Reading numbers from settings

A setting gives a number as free text: white space around it, a sign, decimal digits of any
script, and single underscores between digits. `readInt` reads whole numbers and
`readDecimal?` decimal fractions with an exponent, infinity and "not a number".
-/

namespace ContractVerifier.Number

/-- The most digits a whole number may be read from. -/
def maxDigits : Nat := 4300

/-- Why no whole number was read. -/
inductive IntError where
  /-- The text is no whole number. -/
  | malformed (text : Text)
  /-- The number has too many digits. -/
  | tooLong (digits : Nat)
  deriving DecidableEq, Repr

/-- The wording of the error. A quoted text of more than 200 characters is cut. -/
def IntError.message : IntError → String
  | malformed text =>
    "invalid literal for int() with base 10: " ++ String.ofList ((Text.quoted text).take 200)
  | tooLong digits =>
    "Exceeds the limit (4300 digits) for integer string conversion: value has " ++
      toString digits ++ " digits; use sys.set_int_max_str_digits() to increase the limit"

/-- Whether `c` may stand around a number: white space, but for the four ASCII controls that
separate files, groups, records and units. -/
def isPadding (c : Char) : Bool := Text.isBlank c && !(0x1C ≤ c.toNat && c.toNat ≤ 0x1F)

/-- The characters of a number in ASCII and without padding: digits of any script as ASCII
digits. -/
def plain (t : Text) : Text :=
  let t := ((t.dropWhile isPadding).reverse.dropWhile isPadding).reverse
  t.map fun c => ((Text.digitValue? c).map Nat.digitChar).getD c

/-- The text without its underscores, if each of them stands between two digits. -/
def dropUnderscores? (t : Text) : Option Text :=
  let rec go (before : Option Char) : Text → Option Text
    | [] => if before = some '_' then none else some []
    | c :: rest =>
      if c = '_' then
        if (before.map Char.isDigit).getD false then go (some c) rest else none
      else if before = some '_' ∧ ¬ c.isDigit then none
      else (go (some c) rest).map (c :: ·)
  go none t

/-- The value of decimal digits. -/
def digitsValue (digits : Text) : Nat :=
  digits.foldl (fun n c => 10 * n + (c.toNat - '0'.toNat)) 0

/-- Takes the sign off a number: whether it is negative, and the rest. -/
def unsign : Text → Bool × Text
  | '-' :: t => (true, t)
  | '+' :: t => (false, t)
  | t => (false, t)

/-- The whole number a text gives. That there are too many digits shows before what follows
them does. -/
def readInt (t : Text) : Except IntError Int :=
  let (negative, body) := unsign (plain t)
  let run := body.takeWhile fun c => c.isDigit || c = '_'
  match dropUnderscores? run with
  | none => .error (.malformed t)
  | some ds =>
    if maxDigits < ds.length then .error (.tooLong ds.length)
    else if ds.isEmpty || run.length < body.length then .error (.malformed t)
    else .ok (if negative then -(digitsValue ds : Int) else digitsValue ds)

/-- A decimal number as it is written: `digits` times ten to the power `exponent`. -/
structure Decimal where
  negative : Bool
  digits : Nat
  exponent : Int
  deriving DecidableEq, Repr

/-- What a text can stand for where a fraction is expected. -/
inductive Reading where
  | decimal (d : Decimal)
  | infinity (negative : Bool)
  | notANumber
  deriving DecidableEq, Repr

/-- The exponent after the digits of a number: nothing, or `e` with a signed whole number. -/
def readExponent? : Text → Option Int
  | [] => some 0
  | c :: t =>
    if c = 'e' ∨ c = 'E' then
      let (negative, ds) := unsign t
      if ds.isEmpty || !ds.all Char.isDigit then none
      else some (if negative then -(digitsValue ds : Int) else digitsValue ds)
    else none

/-- Digits, perhaps with a point among them, and an exponent. -/
def readUnsigned? (negative : Bool) (t : Text) : Option Decimal :=
  let whole := t.takeWhile Char.isDigit
  let rest := t.dropWhile Char.isDigit
  let fraction := match rest with
    | '.' :: r => r.takeWhile Char.isDigit
    | _ => []
  let rest := match rest with
    | '.' :: r => r.dropWhile Char.isDigit
    | _ => rest
  if whole.isEmpty && fraction.isEmpty then none
  else (readExponent? rest).map fun e =>
    ⟨negative, digitsValue (whole ++ fraction), e - fraction.length⟩

/-- The number a text gives where a fraction is expected. -/
def readDecimal? (t : Text) : Option Reading :=
  match dropUnderscores? (plain t) with
  | none => none
  | some s =>
    let (negative, body) := unsign s
    let name := String.ofList (Text.lowerLatin body)
    if name = "inf" ∨ name = "infinity" then some (.infinity negative)
    else if name = "nan" then some .notANumber
    else (readUnsigned? negative body).map .decimal

end ContractVerifier.Number
