import ContractVerifier.Charset.Page.Basic
import ContractVerifier.Text.Half

set_option autoImplicit false

/-! # Escapes behind a backslash

Two ways to write every character in ASCII: Latin-1 in which a backslash begins an escape.
In the **raw** way only a character's number may be escaped, behind `\u` or `\U`; in the
other there are names for control characters, numbers in base 8 and 16, and lines may be
broken.
-/

namespace ContractVerifier.Charset.Escapes

/-- The character with the number of a byte. -/
def ofByte (b : UInt8) : Char := Char.ofNat b.toNat

/-- Reads a number of so many hexadecimal digits. If there are not enough, the second part is
what stands behind those that are there. -/
def readHex : Nat → Nat → List UInt8 → Option Nat × List UInt8
  | 0, n, rest => (some n, rest)
  | _ + 1, _, [] => (none, [])
  | more + 1, n, b :: rest =>
    match Text.hexValue? (ofByte b) with
    | some d => readHex more (16 * n + d) rest
    | none => (none, b :: rest)

theorem readHex_length (more n : Nat) (bytes : List UInt8) :
    (readHex more n bytes).2.length ≤ bytes.length := by
  induction more generalizing n bytes with
  | zero => simp [readHex]
  | succ more ih =>
    cases bytes with
    | nil => simp [readHex]
    | cons b rest =>
      rw [readHex]
      split
      · exact Nat.le_succ_of_le (ih _ _)
      · simp

/-- The character with a number, if there is one. -/
def char? (n : Option Nat) : Option Char :=
  (n.filter (· < 0x110000)).map Text.ofCode

/-- Reads a number of at most so many digits of base 8. -/
def readOctal : Nat → Nat → List UInt8 → Nat × List UInt8
  | more + 1, n, b :: rest =>
    if 0x30 ≤ b ∧ b ≤ 0x37 then readOctal more (8 * n + (b.toNat - 0x30)) rest else (n, b :: rest)
  | _, n, rest => (n, rest)

theorem readOctal_length (more n : Nat) (bytes : List UInt8) :
    (readOctal more n bytes).2.length ≤ bytes.length := by
  induction more generalizing n bytes with
  | zero => cases bytes <;> simp [readOctal]
  | succ more ih =>
    cases bytes with
    | nil => simp [readOctal]
    | cons b rest =>
      rw [readOctal]
      split
      · exact Nat.le_succ_of_le (ih _ _)
      · simp

/-- The characters that single letters and signs stand for behind a backslash. -/
def simple : List (Char × Char) :=
  [('\\', '\\'), ('\'', '\''), ('"', '"'), ('b', '\x08'), ('f', '\x0C'), ('t', '\t'),
   ('n', '\n'), ('r', '\r'), ('v', '\x0B'), ('a', '\x07')]

/-- How many hexadecimal digits stand behind a letter. -/
def widths : List (Char × Nat) := [('x', 2), ('u', 4), ('U', 8)]

/-- The letters among them that are known in the raw way. -/
def rawWidths : List (Char × Nat) := [('u', 4), ('U', 8)]

/-- What stands behind a name in braces, and what is read of a name. No characters are known
by their names. -/
def skipName : List UInt8 → List UInt8
  | 0x7B :: 0x7D :: rest => 0x7D :: rest
  | 0x7B :: rest => (rest.dropWhile (· ≠ 0x7D)).drop 1
  | rest => rest

theorem skipName_length (bytes : List UInt8) : (skipName bytes).length ≤ bytes.length := by
  unfold skipName
  split
  · simp
  · rename_i rest _
    have := (List.dropWhile_sublist (· ≠ 0x7D) (l := rest)).length_le
    simp only [List.length_drop, List.length_cons]
    omega
  · exact Nat.le_refl _

/-- The characters of some bytes. -/
def read (bytes : List UInt8) : Reading :=
  match bytes with
  | [] => []
  | [0x5C] => [none]
  | 0x5C :: b :: rest =>
    let c := ofByte b
    if c = '\n' then read rest
    else if c = 'N' then
      have := skipName_length rest
      none :: read (skipName rest)
    else
      match simple.lookup c, widths.lookup c with
      | some d, _ => some d :: read rest
      | _, some width =>
        have := readHex_length width 0 rest
        char? (readHex width 0 rest).1 :: read (readHex width 0 rest).2
      | _, _ =>
        if '0' ≤ c ∧ c ≤ '7' then
          have := readOctal_length 3 0 (b :: rest)
          have := readOctal_length 2 (b.toNat - 0x30) rest
          some (Char.ofNat (readOctal 2 (b.toNat - 0x30) rest).1) ::
            read (readOctal 2 (b.toNat - 0x30) rest).2
        else some '\\' :: some c :: read rest
  | b :: rest => some (ofByte b) :: read rest
termination_by bytes.length
decreasing_by all_goals simp only [List.length_cons] at *; omega

/-- The characters of some bytes in the raw way. -/
def readRaw (bytes : List UInt8) : Reading :=
  match bytes with
  | [] => []
  | 0x5C :: b :: rest =>
    match rawWidths.lookup (ofByte b) with
    | some width =>
      have := readHex_length width 0 rest
      char? (readHex width 0 rest).1 :: readRaw (readHex width 0 rest).2
    | none => some '\\' :: some (ofByte b) :: readRaw rest
  | b :: rest => some (ofByte b) :: readRaw rest
termination_by bytes.length
decreasing_by all_goals simp only [List.length_cons] at *; omega

end ContractVerifier.Charset.Escapes
