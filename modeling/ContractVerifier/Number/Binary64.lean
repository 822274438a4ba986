import ContractVerifier.Number.Decimal

set_option autoImplicit false

/-! # Binary fractions

Numbers with 53 binary digits, as every JSON reader and every clock uses them: `sign · m ·
2^q` with `m < 2^53`. A decimal is read as the nearest such number, a tie going to the even
neighbour (`nearest`), and written with the fewest digits that are read back as the same
number (`shortest`), the nearest of those if there are several.

The notation is fixed in one place (`Layout`, `plainLayout`).
-/

namespace ContractVerifier.Number

/-- A number with 53 binary digits. In `finite` the value is `mantissa * 2 ^ exponent`; the
mantissa has 53 digits, or fewer with the least exponent, -1074. -/
inductive Binary64 where
  | finite (negative : Bool) (mantissa : Nat) (exponent : Int)
  | infinity (negative : Bool)
  | notANumber
  deriving DecidableEq, Repr

/-- The least exponent. -/
def minExponent : Int := -1074

/-- The greatest exponent. -/
def maxExponent : Int := 971

/-- `num / den` rounded to a whole number, a half going to the even neighbour. -/
def roundHalfEven (num den : Nat) : Nat :=
  let q := num / den
  let r := num % den
  if 2 * r < den then q
  else if den < 2 * r then q + 1
  else if q % 2 = 0 then q else q + 1

/-- `base ^ e` over one, or one over `base ^ (-e)`: a power as a numerator and a
denominator. -/
def powerParts (base : Nat) (e : Int) : Nat × Nat :=
  if 0 ≤ e then (Nat.pow base e.toNat, 1) else (1, Nat.pow base (-e).toNat)

/-- The exponent that gives `num / den` a mantissa of 53 digits, or the least one. -/
def exponentFor (num den : Nat) : Int :=
  let guess : Int := (num.log2 : Int) - (den.log2 : Int) - 52
  let (p, q) := powerParts 2 guess
  -- the guess is right or one too great
  let e := if num * q < den * p * Nat.pow 2 52 then guess - 1 else guess
  if e < minExponent then minExponent else e

/-- The number nearest to `num / den`. -/
def nearestRatio (negative : Bool) (num den : Nat) : Binary64 :=
  if num = 0 then .finite negative 0 minExponent
  else
    let e := exponentFor num den
    let (p, q) := powerParts 2 e
    let m := roundHalfEven (num * q) (den * p)
    -- rounding up may give a mantissa one digit more
    let (m, e) := if m = Nat.pow 2 53 then (Nat.pow 2 52, e + 1) else (m, e)
    if maxExponent < e then .infinity negative else .finite negative m e

/-- The number of decimal digits of `n`, zero for zero. -/
def digitCount (n : Nat) : Nat := if n = 0 then 0 else (Nat.toDigits 10 n).length

/-- The number nearest to a decimal. Beyond 10^310 and below 10^-330 the power of ten is not
worked out: the first is infinite and the second zero. -/
def nearest (d : Decimal) : Binary64 :=
  let magnitude := (digitCount d.digits : Int) + d.exponent
  if d.digits = 0 then .finite d.negative 0 minExponent
  else if 310 < magnitude then .infinity d.negative
  else if magnitude < -330 then .finite d.negative 0 minExponent
  else
    let (p, q) := powerParts 10 d.exponent
    nearestRatio d.negative (d.digits * p) q

/-- The number a text gives. -/
def Reading.toBinary64 : Reading → Binary64
  | .decimal d => nearest d
  | .infinity negative => .infinity negative
  | .notANumber => .notANumber

/-! ## The fewest digits -/

/-- The reals that are read as `m * 2 ^ e`, in quarters of a unit of the last place: from
`low` to `high`, the ends included if `m` is even. -/
def readingRange (m : Nat) (e : Int) : Nat × Nat :=
  -- below a power of two the numbers stand twice as close
  let low := if m = Nat.pow 2 52 ∧ minExponent < e then 4 * m - 1 else 4 * m - 2
  (low, 4 * m + 2)

/-- Whether `c * 10 ^ k` is read as `m * 2 ^ e`. -/
def readsAs (m : Nat) (e : Int) (c : Nat) (k : Int) : Bool :=
  let (low, high) := readingRange m e
  let (p2, q2) := powerParts 2 e
  let (p10, q10) := powerParts 10 k
  let x := 4 * c * p10 * q2
  let unit := p2 * q10
  if m % 2 = 0 then low * unit ≤ x && x ≤ high * unit
  else low * unit < x && x < high * unit

/-- The decimals `c * 10 ^ k` with the given `k` next to `m * 2 ^ e`, the nearer one first. -/
def neighbours (m : Nat) (e k : Int) : List Nat :=
  let (p2, q2) := powerParts 2 e
  let (p10, q10) := powerParts 10 k
  let num := m * p2 * q10
  let den := q2 * p10
  let below := num / den
  let near := roundHalfEven num den
  if near = below then [below, below + 1] else [below + 1, below]

/-- The decimal order of `m * 2 ^ e`: the power of ten just above it. -/
def decimalOrder (m : Nat) (e : Int) : Int :=
  let (p2, q2) := powerParts 2 e
  let num := m * p2
  let guess : Int := (digitCount num : Int) - (digitCount q2 : Int)
  let (p10, q10) := powerParts 10 guess
  if q2 * p10 ≤ num * q10 then guess + 1 else guess

/-- Looks for a decimal of `17 - more` digits that is read as `m * 2 ^ e`, then of one digit
more, and so on. Seventeen digits always suffice. -/
def searchDigits (m : Nat) (e order : Int) : Nat → Nat × Int
  | 0 =>
    let k := order - 17
    (((neighbours m e k).head?).getD 0, k)
  | more + 1 =>
    let k := order - (17 - (more + 1 : Nat) : Nat)
    match (neighbours m e k).find? fun c => readsAs m e c k with
    | some c => (c, k)
    | none => searchDigits m e order more

/-- Takes zeros off the end of a number; `k` counts them. -/
def dropZeros : Nat → Nat → Int → Nat × Int
  | 0, c, k => (c, k)
  | fuel + 1, c, k => if c ≠ 0 ∧ c % 10 = 0 then dropZeros fuel (c / 10) (k + 1) else (c, k)

/-- The fewest decimal digits that are read as `m * 2 ^ e`, as a whole number times a power
of ten. -/
def shortest (m : Nat) (e : Int) : Nat × Int :=
  let (c, k) := searchDigits m e (decimalOrder m e) 16
  dropZeros 20 c k

/-! ## Notation -/

/-- How digits are laid out: which decimal orders are written with a point and no exponent,
and the least number of digits of an exponent. -/
structure Layout where
  /-- From ten to this power on, the number is written with a point. -/
  firstPlain : Int
  /-- From ten to this power on, the number is written with an exponent. -/
  firstScientific : Int
  exponentWidth : Nat
  infinity : String
  notANumber : String

/-- Numbers from 10^-4 to below 10^16 have a point and at least one digit behind it; others
have a signed exponent of at least two digits. -/
def plainLayout : Layout := ⟨-4, 16, 2, "inf", "nan"⟩

/-- Digits with the point behind the first `point` of them. -/
def placePoint (digits : Text) (point : Int) : Text :=
  if point ≤ 0 then
    "0.".toList ++ List.replicate (-point).toNat '0' ++ digits
  else
    let n := point.toNat
    let whole := digits.take n ++ List.replicate (n - digits.length) '0'
    let fraction := digits.drop n
    whole ++ '.' :: (if fraction.isEmpty then ['0'] else fraction)

/-- Digits with the point behind the first of them, and an exponent. -/
def placeExponent (width : Nat) (digits : Text) (exponent : Int) : Text :=
  let fraction := digits.drop 1
  let shown := Nat.toDigits 10 exponent.natAbs
  digits.take 1 ++ (if fraction.isEmpty then [] else '.' :: fraction) ++
    'e' :: (if exponent < 0 then '-' else '+') ::
      (List.replicate (width - shown.length) '0' ++ shown)

/-- The text of a number. -/
def Layout.text (layout : Layout) : Binary64 → Text
  | .notANumber => layout.notANumber.toList
  | .infinity negative => (if negative then ['-'] else []) ++ layout.infinity.toList
  | .finite negative m e =>
    let sign := if negative then ['-'] else []
    if m = 0 then sign ++ "0.0".toList
    else
      let (c, k) := shortest m e
      let digits := Nat.toDigits 10 c
      let order := k + digits.length - 1
      sign ++
        if layout.firstPlain ≤ order ∧ order < layout.firstScientific then
          placePoint digits (order + 1)
        else placeExponent layout.exponentWidth digits order

/-- The text of a number in the plain layout. -/
def Binary64.text (x : Binary64) : Text := plainLayout.text x

-- the limits of the layout, and the least number above zero
example : [⟨true, 0, 0⟩, ⟨false, 1, -4⟩, ⟨false, 1, -5⟩, ⟨false, 9999999999999998, 0⟩,
    ⟨false, 1, 16⟩, ⟨false, 4, -324⟩].map (fun d => (nearest d).text) =
      ["-0.0", "0.0001", "1e-05", "9999999999999998.0", "1e+16", "5e-324"].map String.toList := by
  decide +kernel

/-- Whether the number is zero, of either sign. -/
def Binary64.isZero : Binary64 → Bool
  | .finite _ m _ => m = 0
  | _ => false

/-- Whether the number is finite. -/
def Binary64.isFinite : Binary64 → Bool
  | .finite .. => true
  | _ => false

/-- Whether the number is above zero. -/
def Binary64.isPositive : Binary64 → Bool
  | .finite negative m _ => !negative && m ≠ 0
  | .infinity negative => !negative
  | .notANumber => false

end ContractVerifier.Number
