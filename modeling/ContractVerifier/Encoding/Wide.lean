import ContractVerifier.Encoding.Basic
import ContractVerifier.Text.Half

set_option autoImplicit false

/-! # UTF-16 and UTF-32

Units of two or four bytes in either byte order. A half of a pair that stands alone counts as
a character, or is a flaw. At the end of the bytes such a flaw takes a half unit along.
-/

namespace ContractVerifier.Wide

/-- The order of the bytes within a unit. -/
inductive ByteOrder where
  | little
  | big
  deriving DecidableEq, Repr

/-- The value of a unit. -/
def unitValue : ByteOrder → List UInt8 → Nat
  | .little, bytes => bytes.foldr (fun b n => b.toNat + 256 * n) 0
  | .big, bytes => bytes.foldl (fun n b => 256 * n + b.toNat) 0

/-- Whether a 16-bit unit is the first of a pair. -/
def isHighSurrogate (n : Nat) : Bool := 0xD800 ≤ n && n < 0xDC00

/-- Whether a 16-bit unit is the second of a pair. -/
def isLowSurrogate (n : Nat) : Bool := 0xDC00 ≤ n && n < 0xE000

/-- The character of a pair of surrogates. -/
def joinSurrogates (high low : Nat) : Char :=
  Char.ofNat (0x10000 + (high - 0xD800) * 0x400 + (low - 0xDC00))

/-- The token of a unit of so many bytes. -/
def unitToken (counts : Bool) (n size : Nat) : Token :=
  if 0x110000 ≤ n then .flaw .outOfRange size
  else if Text.isHalfCode n && !counts then .flaw .half size
  else .char (Text.ofCode n) size

/-- The loop of `tokens16`; `high` is a first half that waits for its partner. -/
def tokens16From (order : ByteOrder) (counts : Bool) :
    List Token → Option Nat → List UInt8 → List Token
  | done, none, [] => done.reverse
  | done, none, [_] => (.flaw .truncated 1 :: done).reverse
  | done, some h, [] =>
    if counts then (unitToken counts h 2 :: done).reverse else (.flaw .ending 2 :: done).reverse
  | done, some h, [_] =>
    if counts then (.flaw .truncated 1 :: unitToken counts h 2 :: done).reverse
    else (.flaw .ending 3 :: done).reverse
  | done, some h, a :: b :: rest =>
    let n := unitValue order [a, b]
    if isLowSurrogate n then
      tokens16From order counts (.char (joinSurrogates h n) 4 :: done) none rest
    else
      let done := unitToken counts h 2 :: done
      if isHighSurrogate n then tokens16From order counts done (some n) rest
      else tokens16From order counts (unitToken counts n 2 :: done) none rest
  | done, none, a :: b :: rest =>
    let n := unitValue order [a, b]
    if isHighSurrogate n then tokens16From order counts done (some n) rest
    else tokens16From order counts (unitToken counts n 2 :: done) none rest

/-- The tokens of UTF-16 in the given byte order. -/
def tokens16 (order : ByteOrder) (counts : Bool) (bytes : List UInt8) : List Token :=
  tokens16From order counts [] none bytes

/-- The loop of `tokens32`. -/
def tokens32From (order : ByteOrder) (counts : Bool) : List Token → List UInt8 → List Token
  | done, [] => done.reverse
  | done, a :: b :: c :: d :: rest =>
    tokens32From order counts (unitToken counts (unitValue order [a, b, c, d]) 4 :: done) rest
  | done, short => (.flaw .truncated short.length :: done).reverse

/-- The tokens of UTF-32 in the given byte order. -/
def tokens32 (order : ByteOrder) (counts : Bool) (bytes : List UInt8) : List Token :=
  tokens32From order counts [] bytes

end ContractVerifier.Wide
