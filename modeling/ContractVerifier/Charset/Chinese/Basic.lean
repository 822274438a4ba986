import ContractVerifier.Charset.Chinese.Big5
import ContractVerifier.Charset.Chinese.Extended
import ContractVerifier.Charset.Chinese.Gb2312
import ContractVerifier.Charset.Chinese.HongKong
import ContractVerifier.Charset.Pieces
import ContractVerifier.Text.Half

set_option autoImplicit false

/-! # Chinese character sets

Simplified characters: GB 2312, which two extensions fill up with what it leaves out, in the
order of the characters' numbers; and traditional ones: Big5 with two sets of additions.
-/

namespace ContractVerifier.Charset

/-! ## Extensions of GB 2312 -/

/-- Whether a number is that of a character of GB 2312. -/
def isGb2312 : Array Bool :=
  gb2312.chars.foldl (fun (a : Array Bool) c => a.setIfInBounds c.toNat true)
    (Array.replicate 0x10000 false)

/-- The numbers of the Chinese characters that came first. -/
def ideographs : List Nat := (List.range 20902).map (0x4E00 + ·)

/-- The Chinese characters that GB 2312 leaves out, in order. -/
def gbkIdeographs : Array Char :=
  ((ideographs.filter fun n => !isGb2312.getD n false).map Char.ofNat).toArray

/-- The place of a second byte among those there are: 40 to FE but for 7F. -/
def gbkColumn (b : Nat) : Nat := if b < 0x7F then b - 0x40 else b - 0x41

/-- How many places a row has up to A0. -/
def leftColumns : Nat := 96

/-- The place of two bytes among those that are left to Chinese characters: whole rows first,
and then the left part of rows. -/
def gbkPlace (a b : Nat) : Option Nat :=
  if b < 0x40 ∨ b = 0x7F ∨ 0xFE < b then none
  else if 0x81 ≤ a ∧ a ≤ 0xA0 then some ((a - 0x81) * 190 + gbkColumn b)
  else if 0xAA ≤ a ∧ a ≤ 0xFE ∧ b ≤ 0xA0 then
    some (32 * 190 + (a - 0xAA) * leftColumns + gbkColumn b)
  else none

/-- The character of two bytes in GBK. -/
def gbkChar? (code : Nat) : Option Char :=
  (gbkSigns.char? code).orElse fun _ =>
    (upperChar? gb2312 code).orElse fun _ =>
      (gbkPlace (code / 256) (code % 256)).bind (gbkIdeographs[·]?)

/-- The first number of the characters for private use. -/
def firstPrivate : Nat := 0xE000

/-- The place of two bytes among those that are left to users: the right part of six rows, that
of seven more, and the left part of seven. -/
def userPlace (a b : Nat) : Option Nat :=
  if 0xAA ≤ a ∧ a ≤ 0xAF ∧ 0xA1 ≤ b ∧ b ≤ 0xFE then some ((a - 0xAA) * 94 + (b - 0xA1))
  else if 0xF8 ≤ a ∧ a ≤ 0xFE ∧ 0xA1 ≤ b ∧ b ≤ 0xFE then
    some ((a - 0xF8 + 6) * 94 + (b - 0xA1))
  else if 0xA1 ≤ a ∧ a ≤ 0xA7 ∧ 0x40 ≤ b ∧ b ≤ 0xA0 ∧ b ≠ 0x7F then
    some (13 * 94 + (a - 0xA1) * leftColumns + gbkColumn b)
  else none

/-- The codes that GBK leaves vacant among its signs, as ranges. -/
def vacantCodes : List (Nat × Nat) := Table.ranges
  "A2AB A2B0 A2E3 A2E4 A2EF A2F0 A2FD A2FE A4F4 A4FE A5F7 A5FE A6B9 A6C0 A6D9 A6DF A6EC A6ED A6F3
   A6F3 A6F6 A6FE A7C2 A7D0 A7F2 A7FE A896 A8A0 A8BC A8BC A8BF A8BF A8C1 A8C4 A8EA A8FE A958 A958
   A95B A95B A95D A95F A989 A995 A997 A9A3 A9F0 A9FE D7FA D7FE FE50 FE7E FE80 FEA0"

/-- The place of a code in ranges. -/
def placeIn : List (Nat × Nat) → Nat → Option Nat
  | [], _ => none
  | (first, last) :: ranges, code =>
    if first ≤ code ∧ code ≤ last then some (code - first)
    else (placeIn ranges code).map (· + (last + 1 - first))

/-- The character of two bytes in GB 18030. What nobody has laid down is for private use. -/
def gb18030Char? (code : Nat) : Option Char :=
  (gbkChar? code).orElse fun _ =>
    (gb18030Signs.char? code).orElse fun _ =>
      let users := userPlace (code / 256) (code % 256)
      let vacant := (placeIn vacantCodes code).map (· + (13 * 94 + 7 * leftColumns))
      (users.orElse fun _ => vacant).map fun n => Char.ofNat (firstPrivate + n)

/-- All codes of two bytes in GB 18030. -/
def gb18030Codes : List Nat :=
  (List.range 126).flatMap fun a => (List.range 191).map fun b => (a + 0x81) * 256 + b + 0x40

/-- Whether a number is that of a character of two bytes in GB 18030. -/
def isGb18030Double : Array Bool :=
  (gb18030Codes.filterMap gb18030Char?).foldl
    (fun (a : Array Bool) c => a.setIfInBounds c.toNat true) (Array.replicate 0x10000 false)

/-- The characters among the first 65536 that have four bytes in GB 18030, in order. -/
def gb18030Quads : Array Char :=
  (((List.range 0x10000).filter fun n =>
    0x80 ≤ n && !Text.isHalfCode n && !isGb18030Double.getD n false).map Char.ofNat).toArray

/-- The character of four bytes in GB 18030, given by their places among the bytes there are. -/
def quadChar? (a b c d : Nat) : Option Char :=
  let place := (a * 10 + b) * 1260 + c * 10 + d
  if a < 4 then gb18030Quads[place]?
  else if a < 15 then none
  else
    let n := 0x10000 + place - 15 * 12600
    if n < 0x110000 then some (Char.ofNat n) else none

/-- Whether a byte is the second of four. -/
def isQuadDigit (b : UInt8) : Bool := 0x30 ≤ b && b ≤ 0x39

/-- Whether a byte is the first or the third of four. -/
def isQuadLead (b : UInt8) : Bool := 0x81 ≤ b && b ≤ 0xFE

/-- Four bytes in GB 18030. -/
def quad (a b : UInt8) : List UInt8 → Piece
  | c :: d :: _ =>
    if isQuadLead a && isQuadLead c && isQuadDigit d then
      pieceOf 3 (quadChar? (a.toNat - 0x81) (b.toNat - 0x30) (c.toNat - 0x81) (d.toNat - 0x30))
    else .unknown 0
  | _ => .cut

/-- Reads GB 2312. -/
def readGb2312 : List UInt8 → Reading := readDouble (upperChar? gb2312)

/-- Reads GBK. -/
def readGbk : List UInt8 → Reading := readDouble gbkChar?

/-- Reads GB 18030. -/
def readGb18030 : List UInt8 → Reading :=
  readPieces fun a rest =>
    if a < 0x80 then single a
    else
      match rest with
      | b :: behind => if isQuadDigit b then quad a b behind else double gb18030Char? a rest
      | [] => .cut

/-- What bytes begin with where GB 2312 is written in seven bits; the state tells whether it is
switched on. -/
def nextHz (isOn : Bool) (a : UInt8) (rest : List UInt8) : Piece × Bool :=
  if a = 0x7E then
    match rest with
    | [] => (.cut, isOn)
    | b :: _ =>
      if isOn then (if b = 0x7D then (.chars [] 1, false) else (.unknown 0, isOn))
      else if b = 0x7E then (.chars ['~'] 1, isOn)
      else if b = 0x7B then (.chars [] 1, true)
      else if b = 0x0A then (.chars [] 1, isOn)
      else (.unknown 0, isOn)
  else if 0x80 ≤ a then (.unknown 0, isOn)
  else if isOn then (double gb2312.char? a rest, isOn)
  else (single a, isOn)

/-- Reads GB 2312 in seven bits. -/
def readHz : List UInt8 → Reading := readBy nextHz false

/-! ## Big5 -/

/-- Reads Big5. -/
def readBig5 : List UInt8 → Reading := readDouble big5.char?

/-- Reads Big5 with the additions of a vendor. -/
def readCp950 : List UInt8 → Reading :=
  readDouble fun code => (big5Additions.char? code).orElse fun _ => big5.char? code

/-- Letters with two marks, which are two characters. -/
def doubleMarked : List (Nat × List Nat) :=
  [(0x8862, [0xCA, 0x304]), (0x8864, [0xCA, 0x30C]), (0x88A3, [0xEA, 0x304]),
   (0x88A5, [0xEA, 0x30C])]

/-- Codes of Big5 that are vacant in Hong Kong. -/
def vacantInHongKong : List Nat := [0xC6CF, 0xC6D3, 0xC6D5, 0xC6D7, 0xC6DE, 0xC6DF]

/-- The character of two bytes in Hong Kong. -/
def hongKongChar? (code : Nat) : Option Char :=
  (hongKong.char? code).orElse fun _ =>
    if vacantInHongKong.contains code then none else big5.char? code

/-- Reads Big5 as it is used in Hong Kong. -/
def readHongKong : List UInt8 → Reading :=
  readPieces fun a rest =>
    if a < 0x80 then single a
    else
      match rest with
      | b :: _ =>
        match doubleMarked.lookup (pairCode a b) with
        | some codes => .chars (codes.map Char.ofNat) 1
        | none => double hongKongChar? a rest
      | [] => .cut

end ContractVerifier.Charset
