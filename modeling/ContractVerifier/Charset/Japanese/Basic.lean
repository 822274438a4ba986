import ContractVerifier.Charset.Japanese.Jis0208
import ContractVerifier.Charset.Japanese.Jis0212
import ContractVerifier.Charset.Japanese.Jis0213
import ContractVerifier.Charset.Japanese.Vendor
import ContractVerifier.Charset.Pieces

set_option autoImplicit false

/-! # Japanese character sets

The tables by row and cell are written in two ways. In one (EUC) the two bytes are the numbers
of row and cell with their upper bits set. In the other (Shift JIS) they are shifted to leave
room for katakana of one byte: two rows have one first byte.
-/

namespace ContractVerifier.Charset

/-! ## The tables -/

/-- The editions of JIS X 0213. -/
inductive Edition where
  | of2000
  | of2004
  deriving DecidableEq, Repr

/-- Letters with a mark of their own, which are two characters: the code of the first letter of
a row, the letters, and the mark. -/
def marked : List (Nat × List Nat × Nat) :=
  [(0x2477, [0x304B, 0x304D, 0x304F, 0x3051, 0x3053], 0x309A),
   (0x2577, [0x30AB, 0x30AD, 0x30AF, 0x30B1, 0x30B3, 0x30BB, 0x30C4, 0x30C8], 0x309A),
   (0x2678, [0x31F7], 0x309A), (0x2B44, [0xE6], 0x300), (0x2B48, [0x254], 0x300),
   (0x2B49, [0x254], 0x301), (0x2B4A, [0x28C], 0x300), (0x2B4B, [0x28C], 0x301),
   (0x2B4C, [0x259], 0x300), (0x2B4D, [0x259], 0x301), (0x2B4E, [0x25A], 0x300),
   (0x2B4F, [0x25A], 0x301), (0x2B65, [0x2E9], 0x2E5), (0x2B66, [0x2E5], 0x2E9)]

/-- The two characters of a letter with a mark of its own. -/
def marked? (code : Nat) : Option (List Char) :=
  marked.findSome? fun (first, letters, mark) =>
    if code < first then none
    else (letters[code - first]?).map fun letter => [Char.ofNat letter, Char.ofNat mark]

/-- The codes that came with the later edition. -/
def codesOf2004 : List Nat :=
  [0x2E21, 0x2F7E, 0x4F54, 0x4F7E, 0x7427, 0x7E7A, 0x7E7B, 0x7E7C, 0x7E7D, 0x7E7E]

/-- The codes of the backslash and of the tilde. -/
def backslashCode : Nat := 0x2140
def tildeCode : Nat := 0x2232

/-- The wide forms of the backslash and of the tilde. -/
def wideBackslash : Char := Char.ofNat 0xFF3C
def wideTilde : Char := Char.ofNat 0xFF5E

/-- Whether a code came after an edition. -/
def isLater (edition : Edition) (code : Nat) : Bool :=
  edition = .of2000 && codesOf2004.contains code

/-- The characters of a cell in the first plane. The backslash and the tilde are given. -/
def first? (edition : Edition) (backslash tilde : Char) (code : Nat) : Option (List Char) :=
  if code = backslashCode then some [backslash]
  else if code = tildeCode then some [tilde]
  else if isLater edition code then none
  else
    match (jis0208.char? code).orElse fun _ => jis0213First.char? code with
    | some c => some [c]
    | none => marked? code

/-- The character of a cell in the second plane. One was another before. -/
def second? (edition : Edition) (code : Nat) : Option Char :=
  if edition = .of2000 ∧ code = 0x7D3B then some (Char.ofNat 0x9B1D) else jis0213Second.char? code

/-- Whether a byte is a katakana of half the width. -/
def isKatakana (b : UInt8) : Bool := 0xA1 ≤ b && b ≤ 0xDF

/-- The katakana that a byte is. -/
def katakana (b : UInt8) : Char := Char.ofNat (0xFEC0 + b.toNat)

/-- Characters of two bytes, if there are any. If there are none, only the first is lost. -/
def ofPair : Option (List Char) → Piece
  | some cs => .chars cs 1
  | none => .unknown 0

/-- The piece that a cell in the first plane is. Both bytes of one that came later are lost. -/
def firstPiece (edition : Edition) (backslash tilde : Char) (code : Nat) : Piece :=
  if isLater edition code then .unknown 1 else ofPair (first? edition backslash tilde code)

/-! ## EUC -/

/-- Reads characters of two bytes, katakana behind the byte 8E, and characters of two more
bytes behind the byte 8F. -/
def readEuc (two : Nat → Piece) (three : Nat → Option Char) : List UInt8 → Reading :=
  readPieces fun a rest =>
    if a < 0x80 then single a
    else if a = 0x8E then
      match rest with
      | [] => .cut
      | b :: _ => if isKatakana b then .chars [katakana b] 1 else .unknown 0
    else if a = 0x8F then
      match rest with
      | b :: c :: _ => pieceOf 2 ((cellOfUpper (pairCode b c)).bind three)
      | _ => .cut
    else
      match rest with
      | [] => .cut
      | b :: _ => (cellOfUpper (pairCode a b)).elim (.unknown 0) two

/-- Reads EUC with JIS X 0208 and JIS X 0212. -/
def readEucJp : List UInt8 → Reading :=
  readEuc (fun code => pieceOf 1 (jis0208.char? code)) jis0212.char?

/-- Reads EUC with JIS X 0213, and JIS X 0212 where there is nothing else. -/
def readEuc0213 (edition : Edition) : List UInt8 → Reading :=
  readEuc (firstPiece edition wideBackslash wideTilde) fun code =>
    (second? edition code).orElse fun _ => jis0212.char? code

/-! ## Shift JIS -/

/-- The place of a first byte among those there are. -/
def shiftedLead (a : Nat) : Option Nat :=
  if 0x81 ≤ a ∧ a ≤ 0x9F then some (a - 0x81)
  else if 0xE0 ≤ a ∧ a ≤ 0xFC then some (a - 0xC1)
  else none

/-- The place of a second byte among those there are. -/
def shiftedTrail (b : Nat) : Option Nat :=
  if 0x40 ≤ b ∧ b ≤ 0x7E then some (b - 0x40)
  else if 0x80 ≤ b ∧ b ≤ 0xFC then some (b - 0x41)
  else none

/-- The row and the cell that two bytes mean, counted from zero. -/
def shiftedCell (code : Nat) : Option (Nat × Nat) := do
  let a ← shiftedLead (code / 256)
  let b ← shiftedTrail (code % 256)
  return if b < 94 then (2 * a, b) else (2 * a + 1, b - 94)

/-- The code of a cell. -/
def cellCode (row cell : Nat) : Nat := (row + 0x21) * 256 + cell + 0x21

/-- Reads characters of one byte and of two. -/
def readShifted (one : UInt8 → Option Char) (two : Nat → Piece) : List UInt8 → Reading :=
  readPieces fun a rest =>
    match one a with
    | some c => .chars [c] 0
    | none =>
      match rest with
      | [] => .cut
      | b :: _ => two (pairCode a b)

/-- Reads Shift JIS. -/
def readShiftJis : List UInt8 → Reading :=
  readShifted
    (fun a =>
      if a < 0x80 then some (Char.ofNat a.toNat)
      else if isKatakana a then some (katakana a)
      else none)
    (fun code => pieceOf 1 do
      let (row, cell) ← shiftedCell code
      jis0208.char? (cellCode row cell))

/-- The row that has its place behind the first plane. -/
def secondRow (row : Nat) : Nat :=
  if 0x67 ≤ row then row + 0x07
  else if 0x63 ≤ row ∨ row = 0x5F then row - 0x37
  else row - 0x3D

/-- Reads Shift JIS with JIS X 0213. -/
def readShift0213 (edition : Edition) : List UInt8 → Reading :=
  readShifted
    (fun a =>
      if a = 0x5C then some (Char.ofNat 0xA5)
      else if a = 0x7E then some (Char.ofNat 0x203E)
      else if a < 0x80 then some (Char.ofNat a.toNat)
      else if isKatakana a then some (katakana a)
      else none)
    (fun code =>
      match shiftedCell code with
      | none => .unknown 0
      | some (row, cell) =>
        if row < 94 then firstPiece edition '\\' '~' (cellCode row cell)
        else pieceOf 1 (second? edition (secondRow row * 256 + cell + 0x21)))

/-- The character of two bytes with a vendor's additions. Ten first bytes are left to users. -/
def vendorChar? (code : Nat) : Option Char :=
  (shiftAdditions.char? code).orElse fun _ => do
    let (row, cell) ← shiftedCell code
    if 0xF0 ≤ code / 256 ∧ code / 256 ≤ 0xF9 then
      return Char.ofNat (0xE000 + (row / 2 + 0xC1 - 0xF0) * 188 + row % 2 * 94 + cell)
    else jis0208.char? (cellCode row cell)

/-- Reads Shift JIS with a vendor's additions. -/
def readCp932 : List UInt8 → Reading :=
  readShifted
    (fun a =>
      if a ≤ 0x80 then some (Char.ofNat a.toNat)
      else if a = 0xA0 then some (Char.ofNat 0xF8F0)
      else if isKatakana a then some (katakana a)
      else if 0xFD ≤ a then some (Char.ofNat (0xF8F1 + a.toNat - 0xFD))
      else none)
    (fun code => pieceOf 1 (vendorChar? code))

end ContractVerifier.Charset
