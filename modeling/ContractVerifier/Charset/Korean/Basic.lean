import ContractVerifier.Charset.Korean.Ks1001
import ContractVerifier.Charset.Pieces

set_option autoImplicit false

/-! # Korean character sets

A Hangul syllable is made of an initial, a vowel, and a final that may be missing. KS X 1001
has the syllables that are in use, and two extensions have them all: one fills up with those
that it leaves out, and one writes the three parts.
-/

namespace ContractVerifier.Charset

/-! ## Syllables -/

/-- The number of the first syllable. -/
def firstSyllable : Nat := 0xAC00

/-- How many syllables there are. -/
def syllableCount : Nat := 11172

/-- The syllable of an initial, a vowel and a final, which is 0 if it is missing. -/
def syllable (initial vowel final : Nat) : Char :=
  Char.ofNat (firstSyllable + initial * 588 + vowel * 28 + final)

/-- The letters that are initials, by their places in the row of letters. -/
def initialPlaces : List Nat :=
  [0, 1, 3, 6, 7, 8, 16, 17, 18, 20, 21, 22, 23, 24, 25, 26, 27, 28, 29]

/-- The letters that are finals, by their places in the row of letters. -/
def finalPlaces : List Nat :=
  [0, 1, 2, 3, 4, 5, 6, 8, 9, 10, 11, 12, 13, 14, 15, 16, 17, 19, 20, 21, 22, 23, 25, 26, 27, 28,
   29]

/-! ## Syllables written out in letters -/

/-- The row of letters, and the place that tells that a part is missing. -/
def letterRow : UInt8 := 0xA4
def filler : UInt8 := 0xD4

/-- The place of a letter that comes at or behind another one. -/
def placeFrom (first b : UInt8) : Option Nat :=
  if first ≤ b then some (b.toNat - first.toNat) else none

/-- The syllable of three letters. -/
def spelledSyllable (a b c : UInt8) : Option Char := do
  let initial ← (placeFrom 0xA1 a).bind (initialPlaces.idxOf? ·)
  let vowel ← (placeFrom 0xBF b).filter (· < 21)
  let final ← if c = filler then some 0
    else ((placeFrom 0xA1 c).bind (finalPlaces.idxOf? ·)).map (· + 1)
  return syllable initial vowel final

/-- The letters behind a filler. -/
def spelled : List UInt8 → Piece
  | r :: a :: s :: b :: t :: c :: _ =>
    if r = letterRow ∧ s = letterRow ∧ t = letterRow then pieceOf 7 (spelledSyllable a b c)
    else .unknown 0
  | _ => .cut

/-- Reads KS X 1001, in which a syllable may be written out behind a filler. -/
def readEucKr : List UInt8 → Reading :=
  readPieces fun a rest =>
    if a < 0x80 then single a
    else
      match rest with
      | b :: behind =>
        if a = letterRow ∧ b = filler then spelled behind else double (upperChar? ks1001) a rest
      | [] => .cut

/-! ## The first extension -/

/-- The syllables that KS X 1001 leaves out, in order. -/
def otherSyllables : Array Char :=
  let known := ks1001.chars.foldl (fun (a : Array Bool) c => a.setIfInBounds c.toNat true)
    (Array.replicate 0x10000 false)
  ((((List.range syllableCount).map (firstSyllable + ·)).filter fun n =>
    !known.getD n false).map Char.ofNat).toArray

/-- The place of a second byte among those there are: letters, and then the upper half. -/
def syllableColumn (b : Nat) : Option Nat :=
  if 0x41 ≤ b ∧ b ≤ 0x5A then some (b - 0x41)
  else if 0x61 ≤ b ∧ b ≤ 0x7A then some (b - 0x61 + 26)
  else if 0x81 ≤ b ∧ b ≤ 0xFE then some (b - 0x81 + 52)
  else none

/-- The place of two bytes among those that KS X 1001 leaves: whole rows of 178, and behind
them the left part of rows, of 84. -/
def otherPlace (a b : Nat) : Option Nat :=
  (syllableColumn b).bind fun column =>
    if 0x81 ≤ a ∧ a ≤ 0xA0 then some ((a - 0x81) * 178 + column)
    else if 0xA1 ≤ a ∧ a ≤ 0xC6 ∧ b ≤ 0xA0 then some (32 * 178 + (a - 0xA1) * 84 + column)
    else none

/-- The character of two bytes in the extension. -/
def cp949Char? (code : Nat) : Option Char :=
  (upperChar? ks1001 code).orElse fun _ =>
    (otherPlace (code / 256) (code % 256)).bind (otherSyllables[·]?)

/-- Reads the extension. -/
def readCp949 : List UInt8 → Reading := readDouble cp949Char?

/-! ## The second extension -/

/-- A part of a syllable: five bits that stand for nothing, for a missing part, or for a letter
with its place and its number. -/
inductive Part where
  | nothing
  | missing
  | letter (place number : Nat)

/-- The parts that five bits stand for: the bits for a missing part, the bits for letters in
order, and the numbers of the letters. -/
structure Parts where
  missing : Nat
  bits : List Nat
  numbers : List Nat

/-- The part that five bits stand for. -/
def Parts.ofBits (p : Parts) (n : Nat) : Part :=
  if n = p.missing then .missing
  else
    match p.bits.idxOf? n with
    | some place => .letter place (p.numbers.getD place 0)
    | none => .nothing

/-- The numbers of letters in the order of the row of letters. -/
def letterNumbers (places : List Nat) : List Nat := places.map (0x3131 + ·)

/-- The initials. -/
def initials : Parts := ⟨1, (List.range 19).map (· + 2), letterNumbers initialPlaces⟩

/-- The vowels. -/
def vowels : Parts :=
  ⟨2, [3, 4, 5, 6, 7, 10, 11, 12, 13, 14, 15, 18, 19, 20, 21, 22, 23, 26, 27, 28, 29],
   (List.range 21).map (0x314F + ·)⟩

/-- The finals. -/
def finals : Parts :=
  ⟨1, (List.range 16).map (· + 2) ++ (List.range 11).map (· + 19), letterNumbers finalPlaces⟩

/-- The character of three parts: a syllable, or a letter on its own. -/
def ofParts : Part → Part → Part → Option Char
  | .letter i _, .letter v _, .missing => some (syllable i v 0)
  | .letter i _, .letter v _, .letter f _ => some (syllable i v (f + 1))
  | .letter _ n, .missing, .missing => some (Char.ofNat n)
  | .missing, .letter _ n, .missing => some (Char.ofNat n)
  | .missing, .missing, .letter _ n => some (Char.ofNat n)
  | .missing, .missing, .missing => some (Char.ofNat 0x3000)
  | _, _, _ => none

/-- The cell of KS X 1001 that two bytes mean: rows are taken two by two. -/
def johabCell (a b : Nat) : Option Nat :=
  if a < 0xD9 ∨ a = 0xDF ∨ 0xF9 < a then none
  else if b < 0x31 ∨ 0x80 ≤ b ∧ b < 0x91 ∨ b % 128 = 0x7F then none
  -- the letters have codes of their own
  else if a = 0xDA ∧ 0xA1 ≤ b ∧ b ≤ 0xD3 then none
  else
    let row := if a < 0xE0 then 2 * (a - 0xD9) else 2 * a - 0x197
    let column := if b < 0x91 then b - 0x31 else b - 0x43
    some (if column < 94 then (row + 0x21) * 256 + column + 0x21
      else (row + 0x22) * 256 + (column - 94) + 0x21)

/-- The character of two bytes in the extension. -/
def johabChar? (code : Nat) : Option Char :=
  if code < 0xD800 then
    ofParts (initials.ofBits (code / 1024 % 32)) (vowels.ofBits (code / 32 % 32))
      (finals.ofBits (code % 32))
  else (johabCell (code / 256) (code % 256)).bind ks1001.char?

/-- Reads the extension. -/
def readJohab : List UInt8 → Reading := readDouble johabChar?

end ContractVerifier.Charset
