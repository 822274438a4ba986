import ContractVerifier.Text.Decomposition

set_option autoImplicit false

/-! # Composed texts

A text is **composed** if its characters are put together with their marks as far as there
are characters for that. To compose a text, its characters are taken apart, their marks are
put in order, and what belongs together is put together again.

Main definition: `Text.compose`. Two texts that look the same compose to the same text.
-/

namespace ContractVerifier.Text

/-! ## Korean syllables

A syllable stands for a leading consonant, a vowel and perhaps a trailing consonant. Its
place among the syllables tells which. -/

/-- The parts of the syllable at a place. -/
def syllableParts (n : Nat) : Text :=
  let parts := [Char.ofNat (0x1100 + n / 588), Char.ofNat (0x1161 + n % 588 / 28)]
  if n % 28 = 0 then parts else parts ++ [Char.ofNat (0x11A7 + n % 28)]

/-- The syllable that a consonant and a vowel make up, or a syllable without a trailing
consonant and such a consonant. -/
def syllable? (a b : Char) : Option Char :=
  let (a, b) := (a.toNat, b.toNat)
  if 0x1100 ≤ a ∧ a < 0x1113 ∧ 0x1161 ≤ b ∧ b < 0x1176 then
    some (Char.ofNat (0xAC00 + ((a - 0x1100) * 21 + (b - 0x1161)) * 28))
  else if 0xAC00 ≤ a ∧ a < 0xD7A4 ∧ (a - 0xAC00) % 28 = 0 ∧ 0x11A7 < b ∧ b < 0x11C3 then
    some (Char.ofNat (a + (b - 0x11A7)))
  else none

/-! ## Taking apart -/

/-- The characters that `c` stands for in the end. The first of two may stand for others in
turn; the bound is how often. -/
def takeApart : Nat → Char → Text
  | 0, c => [c]
  | bound + 1, c =>
    if 0xAC00 ≤ c.toNat ∧ c.toNat < 0xD7A4 then syllableParts (c.toNat - 0xAC00)
    else
      match pairs.find? fun p => p.1 = c.toNat with
      | some (_, a, b) => takeApart bound (Char.ofNat a) ++ [Char.ofNat b]
      | none =>
        match aliases.lookup c.toNat with
        | some a => takeApart bound (Char.ofNat a)
        | none => [c]

/-- How often characters stand for others at most. -/
def maxDepth : Nat := 4

/-- Puts a character at the end of a text, which has its last character first: a mark goes in
front of marks of a higher class. -/
def place (c : Char) : Text → Text
  | d :: t => if 0 < markClass c ∧ markClass c < markClass d then d :: place c t else c :: d :: t
  | [] => [c]

/-- The characters of a text taken apart, with their marks in order. -/
def decompose (t : Text) : Text :=
  ((t.flatMap (takeApart maxDepth)).foldl (fun done c => place c done) []).reverse

/-! ## Putting together -/

/-- The character that two others make up. -/
def composed? (a b : Char) : Option Char :=
  match syllable? a b with
  | some c => some c
  | none =>
    (compositions.find? fun p => p.2.1 = a.toNat && p.2.2 = b.toNat).map (Char.ofNat ·.1)

/-- What is put together so far: the text up to the last character that takes marks, that
character, and the marks behind it that stay. Both texts have their last character first. -/
structure Composing where
  done : Text := []
  base : Option Char := none
  marks : Text := []

/-- What is put together, last character first. -/
def Composing.all (s : Composing) : Text := s.marks ++ s.base.toList ++ s.done

/-- Puts one more character to the text. A mark does not reach its character over a mark of
its own class or a higher one. -/
def Composing.step (s : Composing) (c : Char) : Composing :=
  let reaches := s.marks.head?.all fun mark => markClass mark < markClass c
  match s.base.bind fun base => if reaches then composed? base c else none with
  | some base => { s with base := some base }
  | none =>
    if markClass c = 0 then { done := s.all, base := some c }
    else { s with marks := c :: s.marks }

/-- The composed text. -/
def compose (t : Text) : Text := ((decompose t).foldl Composing.step {}).all.reverse

/-- Whether a text is composed. -/
def isComposed (t : Text) : Bool := compose t = t

end ContractVerifier.Text
