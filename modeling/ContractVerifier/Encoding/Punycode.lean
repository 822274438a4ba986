import ContractVerifier.Text.Half

set_option autoImplicit false

/-! # Punycode

A text written in ASCII letters, digits and hyphens. The ASCII characters come first, behind
them a hyphen, and then where the other characters go: in the order of their codes, each is
given by the distance to the one before it, counted in places where it might go. Distances
are written in digits of base 36 with the least first. A digit below its **threshold** is
the last of its number; the thresholds follow from a **bias** that adapts to the distances.
-/

namespace ContractVerifier.Punycode

/-- The threshold of the digit at place `j`. -/
def threshold (j bias : Nat) : Nat := min 26 (max 1 (36 * (j + 1) - bias))

/-- Brings a distance down to the digits that are known beforehand, and counts them. -/
def shrink (distance : Nat) : Nat × Nat :=
  if _h : 455 < distance then
    let (d, n) := shrink (distance / 35)
    (d, n + 1)
  else (distance, 0)
termination_by distance
decreasing_by exact Nat.div_lt_self (by omega) (by omega)

/-- The bias after a distance; `count` is the number of characters that are there then. -/
def adapt (distance count : Nat) (isFirst : Bool) : Nat :=
  let scaled := if isFirst then distance / 700 else distance / 2
  let (d, n) := shrink (scaled + scaled / count)
  36 * n + 36 * d / (d + 38)

/-- The bias at the beginning. -/
def startBias : Nat := 72

/-! ## Reading -/

/-- The value of a digit: letters of either case, then the ten digits. -/
def digitValue? (c : Char) : Option Nat :=
  if 'a' ≤ c ∧ c ≤ 'z' then some (c.toNat - 'a'.toNat)
  else if 'A' ≤ c ∧ c ≤ 'Z' then some (c.toNat - 'A'.toNat)
  else if '0' ≤ c ∧ c ≤ '9' then some (c.toNat - '0'.toNat + 26)
  else none

/-- Reads a number: `j` digits are read, the next one counts `weight`, and `sum` is the value
so far. -/
def readNumber (bias : Nat) : Nat → Nat → Nat → Text → Option (Nat × Text)
  | _, _, _, [] => none
  | j, weight, sum, c :: t =>
    match digitValue? c with
    | none => none
    | some d =>
      let limit := threshold j bias
      if d < limit then some (sum + d * weight, t)
      else readNumber bias (j + 1) (weight * (36 - limit)) (sum + d * weight) t

theorem readNumber_length {bias j weight sum n : Nat} {t rest : Text}
    (h : readNumber bias j weight sum t = some (n, rest)) : rest.length < t.length := by
  induction t generalizing j weight sum with
  | nil => simp [readNumber] at h
  | cons c t ih =>
    rw [readNumber] at h
    split at h
    · cases h
    · simp only at h
      split at h
      · simp only [Option.some.injEq, Prod.mk.injEq] at h
        simp [← h.2]
      · have := ih h
        simp only [List.length_cons]
        omega

/-- Where reading stands: the characters so far, the place behind the last one put in, the
code of that one, and the bias. -/
structure State where
  chars : Text
  place : Nat := 0
  code : Nat := 0x80
  bias : Nat := startBias

/-- Puts a character in, a distance behind the last one. A code beyond the last there is
becomes that of a question mark. -/
def State.insert (s : State) (distance : Nat) (isFirst : Bool) : State :=
  let next := s.place + distance
  let places := s.chars.length + 1
  let code := s.code + next / places
  let code := if 0x110000 ≤ code then '?'.toNat else code
  let place := next % places
  { chars := s.chars.take place ++ Text.ofCode code :: s.chars.drop place
    place := place + 1, code, bias := adapt distance places isFirst }

/-- Whether a character a distance behind the last one has a code. -/
def State.isWithin (s : State) (distance : Nat) : Bool :=
  s.code + (s.place + distance) / (s.chars.length + 1) < 0x110000

/-- Puts in what the numbers say. If they break off, or a code is too high, there is no text;
in a `lossy` reading what was there before stands, and a question mark. -/
def insertAll (lossy isFirst : Bool) (s : State) (t : Text) : Option Text :=
  match t with
  | [] => some s.chars
  | c :: t =>
    match _h : readNumber s.bias 0 1 0 (c :: t) with
    | none => if lossy then some s.chars else none
    | some (distance, rest) =>
      if lossy || s.isWithin distance then
        insertAll lossy false (s.insert distance isFirst) rest
      else none
termination_by t.length
decreasing_by exact readNumber_length _h

/-- The ASCII characters at the beginning and the numbers behind the last hyphen. -/
def parts (t : Text) : Text × Text :=
  match t.reverse.span (· ≠ '-') with
  | (numbers, _ :: base) => (base.reverse, numbers.reverse)
  | (numbers, []) => ([], numbers.reverse)

/-- The text that an ASCII text stands for, if it stands for one. -/
def decode? (t : Text) : Option Text :=
  let (base, numbers) := parts t
  insertAll false true { chars := base } numbers

/-! ## Writing -/

/-- The digit with this value. -/
def digit (n : Nat) : Char := Char.ofNat (if n < 26 then 'a'.toNat + n else '0'.toNat + n - 26)

/-- A number whose digits from place `j` on are to be written. -/
def writeNumber (bias j n : Nat) : Text :=
  let limit := threshold j bias
  if _h : n < limit then [digit n]
  else
    digit (limit + (n - limit) % (36 - limit)) ::
      writeNumber bias (j + 1) ((n - limit) / (36 - limit))
termination_by n
decreasing_by
  have : (n - threshold j bias) / (36 - threshold j bias) ≤ n - threshold j bias :=
    Nat.div_le_self _ _
  have : 1 ≤ threshold j bias := by unfold threshold; omega
  omega

/-- Where writing stands: the numbers so far, the distance since the last character, how many
characters are written, and the bias. -/
structure Writing where
  numbers : Text := []
  distance : Nat := 0
  count : Nat
  bias : Nat := startBias

/-- Passes over a character of the text while those with code `n` are written. -/
def Writing.pass (isFirst : Nat → Bool) (n : Nat) (w : Writing) (c : Char) : Writing :=
  if Text.code c < n then { w with distance := w.distance + 1 }
  else if Text.code c = n then
    { numbers := w.numbers ++ writeNumber w.bias 0 w.distance
      distance := 0
      count := w.count + 1
      bias := adapt w.distance (w.count + 1) (isFirst w.count) }
  else w

/-- Writes the characters of the text that have one of the codes, which are given in order;
`last` is the one after the code before. -/
def writeCodes (t : Text) (isFirst : Nat → Bool) : Nat → List Nat → Writing → Writing
  | _, [], w => w
  | last, n :: codes, w =>
    let w := { w with distance := w.distance + (n - last) * (w.count + 1) }
    let w := t.foldl (Writing.pass isFirst n) w
    writeCodes t isFirst (n + 1) codes { w with distance := w.distance + 1 }

/-- The ASCII text that stands for a text. -/
def encode (t : Text) : Text :=
  let base := t.filter fun c => c.toNat < 0x80
  let codes := ((t.filter fun c => !(c.toNat < 0x80)).map Text.code).eraseDups.mergeSort
  let writing := writeCodes t (· = base.length) 0x80 codes { count := base.length }
  (if base = [] then [] else base ++ ['-']) ++ writing.numbers

example : encode "bücher".toList = "bcher-kva".toList := by decide +kernel

example : decode? "bcher-kva".toList = some "bücher".toList := by decide +kernel

end ContractVerifier.Punycode
