import ContractVerifier.Charset.Page.Basic
import ContractVerifier.Charset.Runs

set_option autoImplicit false

/-! # Reading bytes piece by piece

In many character sets some bytes begin a sequence of more. Bytes are read from the front: what
they begin with is a piece, and then the rest is read. There may be a state that goes along.

Main definition: `readBy`.
-/

namespace ContractVerifier.Charset

/-- What bytes begin with. -/
inductive Piece where
  /-- Characters, or none, that take the first byte and so many more. -/
  | chars (cs : List Char) (more : Nat)
  /-- The first byte and so many more stand for nothing. -/
  | unknown (more : Nat)
  /-- The bytes break off inside a piece. -/
  | cut
  deriving DecidableEq, Repr

variable {σ : Type}

/-- Reads bytes piece by piece. Bytes that break off stand for nothing as a whole. -/
def readBy (next : σ → UInt8 → List UInt8 → Piece × σ) (s : σ) (bytes : List UInt8) : Reading :=
  match bytes with
  | [] => []
  | b :: rest =>
    match next s b rest with
    | (.chars cs more, s) => cs.map some ++ readBy next s (rest.drop more)
    | (.unknown more, s) => none :: readBy next s (rest.drop more)
    | (.cut, _) => [none]
termination_by bytes.length
decreasing_by all_goals simp only [List.length_drop, List.length_cons]; omega

/-- How many bytes there are from where they break off. -/
def cutSize (next : σ → UInt8 → List UInt8 → Piece × σ) (s : σ) (bytes : List UInt8) : Nat :=
  match bytes with
  | [] => 0
  | b :: rest =>
    match next s b rest with
    | (.chars _ more, s) => cutSize next s (rest.drop more)
    | (.unknown more, s) => cutSize next s (rest.drop more)
    | (.cut, _) => rest.length + 1
termination_by bytes.length
decreasing_by all_goals simp only [List.length_drop, List.length_cons]; omega

/-- Reads bytes piece by piece without a state. -/
def readPieces (next : UInt8 → List UInt8 → Piece) (bytes : List UInt8) : Reading :=
  readBy (fun (_ : Unit) b rest => (next b rest, ())) () bytes

/-! ## One byte and two -/

/-- The number of two bytes. -/
def pairCode (a b : UInt8) : Nat := a.toNat * 256 + b.toNat

/-- A byte as the character with its number. -/
def single (b : UInt8) : Piece := .chars [Char.ofNat b.toNat] 0

/-- A character, if there is one, of so many bytes more than one. -/
def pieceOf (more : Nat) : Option Char → Piece
  | some c => .chars [c] more
  | none => .unknown 0

/-- Two bytes that are a character by their number. If they are none, only the first is lost. -/
def double (char? : Nat → Option Char) (a : UInt8) : List UInt8 → Piece
  | [] => .cut
  | b :: _ => pieceOf 1 (char? (pairCode a b))

/-- Reads bytes of which those of ASCII stand for themselves and others are characters two by
two. -/
def readDouble (char? : Nat → Option Char) : List UInt8 → Reading :=
  readPieces fun b rest => if b < 0x80 then single b else double char? b rest

/-- The code of a cell in a table of rows for two bytes that both have their upper bit set. -/
def cellOfUpper (code : Nat) : Option Nat :=
  if 0x8080 ≤ code ∧ 0x80 ≤ code % 256 then some (code - 0x8080) else none

/-- The character of two bytes that have their upper bits set besides the numbers of its cell. -/
def upperChar? (runs : Runs) (code : Nat) : Option Char := (cellOfUpper code).bind runs.char?

end ContractVerifier.Charset
