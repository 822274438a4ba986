import ContractVerifier.Charset.Chinese.Gb2312
import ContractVerifier.Charset.Japanese.Basic
import ContractVerifier.Charset.Korean.Ks1001

set_option autoImplicit false

/-! # Designated character sets

In seven bits several character sets take turns. An escape sequence puts one of them in one of
three places, and which place is in use is told by shifts. Which sets there are, and what can
be done with them, differs from one repertoire to another.

Main definition: `Repertoire.read`.
-/

namespace ContractVerifier.Charset

/-- The character sets that are put in a place. -/
inductive Designated where
  | ascii
  /-- ASCII with a yen sign and an overline. -/
  | roman
  | katakana
  | jis0208
  | jis0212
  | jis0213First (edition : Edition)
  | jis0213Second
  | gb2312
  | ks1001
  /-- The upper halves of Latin-1 and of a Greek set, for single characters only. -/
  | latin
  | greek
  deriving DecidableEq, Repr

namespace Designated

/-- The character that a byte is in a set of single bytes. -/
def single? (d : Designated) (b : UInt8) : Option Char :=
  match d with
  | ascii => some (Char.ofNat b.toNat)
  | roman => some (if b = 0x5C then Char.ofNat 0xA5 else if b = 0x7E then Char.ofNat 0x203E
      else Char.ofNat b.toNat)
  | katakana => if isKatakana (b + 0x80) then some (Charset.katakana (b + 0x80)) else none
  | _ => none

/-- The characters of a cell in a set of rows, and none for other sets. -/
def cells? : Designated → Option (Nat → Option (List Char))
  | jis0208 => some fun code => (Charset.jis0208.char? code).map ([·])
  | jis0212 => some fun code => (Charset.jis0212.char? code).map ([·])
  | jis0213First edition => some (first? edition wideBackslash '~')
  | jis0213Second => some fun code => (second? .of2004 code).map ([·])
  | gb2312 => some fun code => (Charset.gb2312.char? code).map ([·])
  | ks1001 => some fun code => (Charset.ks1001.char? code).map ([·])
  | _ => none

/-- The letters of the Greek set that are not in their places, by their bytes. -/
def greekSigns : List (Nat × Nat) := [(0xA1, 0x2018), (0xA2, 0x2019), (0xAF, 0x2015)]

/-- The bytes of the Greek set that stand for the characters with their numbers. -/
def greekLatin : List Nat :=
  [0xA0, 0xA3, 0xA6, 0xA7, 0xA8, 0xA9, 0xAB, 0xAC, 0xAD, 0xB0, 0xB1, 0xB2, 0xB3, 0xB7, 0xBB, 0xBD]

/-- The character of a byte in the Greek set. -/
def greek? (b : Nat) : Option Char :=
  match greekSigns.lookup b with
  | some n => some (Char.ofNat n)
  | none =>
    if b < 0xA0 ∨ greekLatin.contains b then some (Char.ofNat b)
    else if 0xB4 ≤ b ∧ b ≤ 0xFE ∧ b ≠ 0xD2 then some (Char.ofNat (0x2D0 + b))
    else none

/-- The single character of a byte whose upper bit is left out. -/
def third? (d : Designated) (b : UInt8) : Option Char :=
  match d with
  | ascii => if b < 0x80 then some (Char.ofNat b.toNat) else none
  | latin => if b < 0x80 then some (Char.ofNat (b.toNat + 0x80)) else none
  | greek => greek? (b ^^^ 0x80).toNat
  | _ => none

end Designated

/-- What can be used: sets of single bytes and of rows by the last bytes of their escape
sequences, and whether there are shifts, a third place, and another way to designate
JIS X 0208. -/
structure Repertoire where
  singles : List (Char × Designated)
  rows : List (Char × Designated)
  hasShifts : Bool := false
  hasThird : Bool := false
  hasUpdate : Bool := true

/-- The places, whether the second is in use, and whether an escape sequence of another kind is
passed through. -/
structure Places where
  zeroth : Designated := .ascii
  first : Designated := .ascii
  third : Designated := .ascii
  isShifted : Bool := false
  isPassing : Bool := false

namespace Places

/-- Puts a set in a place. -/
def put (p : Places) (place : Nat) (d : Designated) : Places :=
  match place with
  | 0 => { p with zeroth := d }
  | 1 => { p with first := d }
  | _ => { p with third := d }

/-- The set in use. -/
def current (p : Places) : Designated := if p.isShifted then p.first else p.zeroth

end Places

/-! ## Escape sequences -/

/-- Where an escape sequence ends. -/
inductive EscapeEnd where
  /-- It has so many bytes behind the escape character. -/
  | size (n : Nat)
  | endless
  | cut

/-- Whether a byte ends an escape sequence. -/
def endsEscape (b : UInt8) : Bool := 0x40 ≤ b && b ≤ 0x5A

/-- The most bytes behind an escape character. -/
def maxEscape : Nat := 15

/-- Looks for the end of an escape sequence, of which `n` bytes are passed. An update of a set
is a sequence of its own in front. -/
def findEnd (hasUpdate : Bool) (n : Nat) (ahead : List UInt8) : EscapeEnd :=
  if maxEscape ≤ n then .endless
  else
    match ahead with
    | [] => .cut
    | b :: rest =>
      if endsEscape b then .size (n + 1)
      else if hasUpdate ∧ b = 0x26 ∧ rest.head? = some 0x40 then
        findEnd hasUpdate (n + 3) (rest.drop 2)
      else findEnd hasUpdate (n + 1) rest
termination_by ahead.length
decreasing_by all_goals simp only [List.length_drop, List.length_cons]; omega

/-- The characters of bytes that are written in ASCII. -/
def asciiOf (bytes : List UInt8) : Text := bytes.map fun b => Char.ofNat b.toNat

/-- What an escape sequence designates, and in which place. Two bytes in front may tell that a
set was updated. -/
def Repertoire.designation? (r : Repertoire) (sequence : Text) : Option (Nat × Designated) :=
  let single (place : Nat) (c : Char) :=
    (if c = 'B' then some .ascii else r.singles.lookup c).map fun d => (place, d)
  let rows (place : Nat) (c : Char) := (r.rows.lookup c).map fun d => (place, d)
  match sequence with
  | ['$', c] => rows 0 c
  | ['(', c] => single 0 c
  | [')', c] => single 1 c
  | ['.', c] => if r.hasThird then single 2 c else none
  | ['$', '(', c] => rows 0 c
  | ['$', ')', c] => rows 1 c
  | [_, _, '\x1B', '$', 'B'] => if r.hasUpdate then rows 0 'B' else none
  | _ => none

/-- The bytes that begin an escape sequence which designates a set. -/
def beginsDesignation (b : UInt8) : Bool := ['(', ')', '$', '.', '&'].contains (Char.ofNat b.toNat)

/-- What bytes behind an escape character begin with. -/
def Repertoire.escape (r : Repertoire) (p : Places) (ahead : List UInt8) : Piece × Places :=
  match ahead with
  | [] => (.cut, p)
  | b :: rest =>
    if beginsDesignation b then
      match findEnd r.hasUpdate 0 ahead with
      | .cut => (.cut, p)
      | .endless => (.unknown 0, p)
      | .size n =>
        match r.designation? (asciiOf (ahead.take n)) with
        | some (place, d) => (.chars [] n, p.put place d)
        | none => (.unknown n, p)
    else if r.hasThird ∧ b = 0x4E then
      match rest with
      | [] => (.cut, p)
      | c :: _ =>
        match p.third.third? c with
        | some ch => (.chars [ch] 2, p)
        | none => (.unknown 2, p)
    else (.chars ['\x1B'] 0, { p with isPassing := true })

/-! ## Reading -/

/-- A character in the set in use. -/
def Places.char (p : Places) (b : UInt8) (ahead : List UInt8) : Piece :=
  match p.current.cells? with
  | none =>
    match p.current.single? b with
    | some c => .chars [c] 0
    | none => .unknown 0
  | some cells =>
    match ahead with
    | [] => .cut
    | c :: _ =>
      match cells (pairCode b c) with
      | some cs => .chars cs 1
      | none => .unknown 1

/-- What bytes begin with. A line end ends the use of the second place. -/
def Repertoire.next (r : Repertoire) (p : Places) (b : UInt8) (ahead : List UInt8) :
    Piece × Places :=
  if p.isPassing then (single b, { p with isPassing := !endsEscape b })
  else if b = 0x1B then r.escape p ahead
  else if r.hasShifts ∧ b = 0x0F then (.chars [] 0, { p with isShifted := false })
  else if r.hasShifts ∧ b = 0x0E then (.chars [] 0, { p with isShifted := true })
  else if b = 0x0A then (single b, { p with isShifted := false })
  else if b < 0x20 then (single b, p)
  else if 0x80 ≤ b then (.unknown 0, p)
  else (p.char b ahead, p)

/-- Reads bytes in a repertoire. -/
def Repertoire.read (r : Repertoire) : List UInt8 → Reading := readBy r.next {}

/-- How many bytes there are from where they break off. -/
def Repertoire.cutSize (r : Repertoire) : List UInt8 → Nat := Charset.cutSize r.next {}

/-! ## The repertoires -/

/-- JIS X 0208 in its two editions. -/
def rows0208 : List (Char × Designated) := [('B', .jis0208), ('@', .jis0208)]

/-- Japanese. -/
def Repertoire.japanese : Repertoire := ⟨[('J', .roman)], rows0208, false, false, true⟩

/-- Japanese with JIS X 0212. -/
def Repertoire.japanese1 : Repertoire :=
  { japanese with rows := rows0208 ++ [('D', .jis0212)] }

/-- Japanese with Chinese, Korean, and letters of Europe. -/
def Repertoire.japanese2 : Repertoire :=
  { singles := [('J', .roman), ('A', .latin), ('F', .greek)]
    rows := rows0208 ++ [('D', .jis0212), ('C', .ks1001), ('A', .gb2312)]
    hasThird := true }

/-- Japanese with JIS X 0213 in its first edition. -/
def Repertoire.japanese3 : Repertoire :=
  { singles := []
    rows := [('B', .jis0208), ('O', .jis0213First .of2000), ('P', .jis0213Second)] }

/-- Japanese with JIS X 0213 in its second edition. -/
def Repertoire.japanese2004 : Repertoire :=
  { singles := []
    rows := [('B', .jis0208), ('Q', .jis0213First .of2004), ('P', .jis0213Second)] }

/-- Japanese with JIS X 0212 and katakana. -/
def Repertoire.japaneseExtended : Repertoire :=
  { japanese1 with singles := [('J', .roman), ('I', .katakana)] }

/-- Korean, with the second place for KS X 1001. -/
def Repertoire.korean : Repertoire :=
  { singles := [], rows := [('C', .ks1001)], hasShifts := true, hasUpdate := false }

end ContractVerifier.Charset
