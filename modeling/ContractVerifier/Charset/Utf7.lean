import ContractVerifier.Charset.Page.Basic
import ContractVerifier.Encoding.Wide

set_option autoImplicit false

/-! # UTF-7

Every character but ASCII is written in ASCII: a plus sign, the UTF-16 units of the
characters in digits of base 64, and any other character as the end, which is dropped if it
is a hyphen. A plus sign itself is written `+-`.
-/

namespace ContractVerifier.Charset.Utf7

/-- The value of a digit of base 64. -/
def digitValue? (b : UInt8) : Option Nat :=
  let c := Char.ofNat b.toNat
  if 'A' ≤ c ∧ c ≤ 'Z' then some (c.toNat - 'A'.toNat)
  else if 'a' ≤ c ∧ c ≤ 'z' then some (c.toNat - 'a'.toNat + 26)
  else if '0' ≤ c ∧ c ≤ '9' then some (c.toNat - '0'.toNat + 52)
  else if c = '+' then some 62
  else if c = '/' then some 63
  else none

/-- Digits that are being read: how many bits are not used up, their value, and a first half
that waits for its partner. -/
structure Shift where
  bits : Nat := 0
  buffer : Nat := 0
  half : Option Nat := none

/-- Where reading stands: what the bytes so far stand for, last first, the digits that are
being read, and whether a plus sign was just read. -/
structure State where
  done : Reading := []
  shift : Option Shift := none
  isPlus : Bool := false

/-- Takes a UTF-16 unit. -/
def State.takeUnit (s : State) (bits buffer : Nat) (half : Option Nat) (n : Nat) : State :=
  match half with
  | some h =>
    if Wide.isLowSurrogate n then
      { done := some (Wide.joinSurrogates h n) :: s.done, shift := some ⟨bits, buffer, none⟩ }
    else
      let done := some (Text.ofCode h) :: s.done
      if Wide.isHighSurrogate n then { done, shift := some ⟨bits, buffer, some n⟩ }
      else { done := some (Text.ofCode n) :: done, shift := some ⟨bits, buffer, none⟩ }
  | none =>
    if Wide.isHighSurrogate n then { done := s.done, shift := some ⟨bits, buffer, some n⟩ }
    else { done := some (Text.ofCode n) :: s.done, shift := some ⟨bits, buffer, none⟩ }

/-- Takes a digit. -/
def State.takeDigit (s : State) (shift : Shift) (d : Nat) : State :=
  let bits := shift.bits + 6
  let buffer := shift.buffer * 64 + d
  if 16 ≤ bits then
    let rest := Nat.pow 2 (bits - 16)
    s.takeUnit (bits - 16) (buffer % rest) shift.half (buffer / rest)
  else { done := s.done, shift := some ⟨bits, buffer, shift.half⟩ }

/-- Whether no digits may end here: a unit has begun, or is filled up with other bits than
zeros. -/
def Shift.isBroken (shift : Shift) : Bool :=
  6 ≤ shift.bits || 0 < shift.bits && shift.buffer ≠ 0

/-- Takes a byte outside of digits. -/
def State.takePlain (s : State) (b : UInt8) : State :=
  if b = 0x2B then { done := s.done, isPlus := true }
  else if b < 0x80 then { done := some (Char.ofNat b.toNat) :: s.done }
  else { done := none :: s.done }

/-- Takes a byte that ends digits. If they may not end, it is lost with them. -/
def State.leave (s : State) (shift : Shift) (b : UInt8) : State :=
  if shift.isBroken then { done := none :: s.done }
  else
    let half := if b < 0x80 then shift.half.map fun h => some (Text.ofCode h) else none
    let s : State := { done := half.toList ++ s.done }
    if b = 0x2D then s else s.takePlain b

/-- Takes a byte. -/
def State.step (s : State) (b : UInt8) : State :=
  if s.isPlus then
    if b = 0x2D then { done := some '+' :: s.done }
    else
      match digitValue? b with
      | some d => s.takeDigit {} d
      | none => { done := none :: s.done }
  else
    match s.shift with
    | none => s.takePlain b
    | some shift =>
      match digitValue? b with
      | some d => s.takeDigit shift d
      | none => s.leave shift b

/-- What is read when no more bytes come. -/
def State.finish (s : State) : Reading :=
  match s.shift with
  | some shift => if shift.isBroken || shift.half.isSome then none :: s.done else s.done
  | none => s.done

/-- The characters of some bytes in UTF-7. -/
def read (bytes : List UInt8) : Reading := (bytes.foldl State.step {}).finish.reverse

end ContractVerifier.Charset.Utf7
