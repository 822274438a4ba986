import ContractVerifier.Encoding.Basic
import ContractVerifier.Text.Half

set_option autoImplicit false

/-! # UTF-8

The decoder reads one byte at a time. Between characters it expects a leading byte, which
fixes how many bytes are still owed and the range of the next one; the ranges exclude
overlong forms and surrogates. A byte outside the range ends the character begun with a
flaw and is read again as a leading byte, so that a flaw covers as many bytes as could
still have become a character.

Main statement: `decode_encode`, a text is read back from its bytes.
-/

namespace ContractVerifier.Utf8

/-- The bytes of a text. -/
def encode (t : Text) : List UInt8 := t.flatMap String.utf8EncodeChar

/-- A character of which some bytes are still owed. -/
structure Pending where
  /-- The bits read so far. -/
  code : Nat
  /-- How many bytes are still owed, less one. -/
  more : Nat
  /-- The least value of the next byte. -/
  low : Nat
  /-- The greatest value of the next byte. -/
  high : Nat
  /-- How many bytes were read so far. -/
  size : Nat
  deriving DecidableEq, Repr

/-- Where the decoder stands: the tokens so far, last first, and the character begun. -/
structure State where
  done : List Token
  pending : Option Pending
  deriving DecidableEq, Repr

/-- A leading byte, read between characters. -/
def lead (done : List Token) (n : Nat) : State :=
  if n < 0x80 then ⟨.char (Char.ofNat n) 1 :: done, none⟩
  else if n < 0xC2 then ⟨.flaw .start 1 :: done, none⟩
  else if n < 0xE0 then ⟨done, some ⟨n % 32, 0, 0x80, 0xBF, 1⟩⟩
  else if n < 0xF0 then
    ⟨done, some ⟨n % 16, 1, if n = 0xE0 then 0xA0 else 0x80, if n = 0xED then 0x9F else 0xBF, 1⟩⟩
  else if n < 0xF5 then
    ⟨done, some ⟨n % 8, 2, if n = 0xF0 then 0x90 else 0x80, if n = 0xF4 then 0x8F else 0xBF, 1⟩⟩
  else ⟨.flaw .start 1 :: done, none⟩

/-- One byte. -/
def step (s : State) (b : UInt8) : State :=
  let n := b.toNat
  match s.pending with
  | none => lead s.done n
  | some p =>
    if p.low ≤ n ∧ n ≤ p.high then
      let code := p.code * 64 + n % 64
      match p.more with
      | 0 => ⟨.char (Char.ofNat code) (p.size + 1) :: s.done, none⟩
      | more + 1 => ⟨s.done, some ⟨code, more, 0x80, 0xBF, p.size + 1⟩⟩
    else lead (.flaw .continuation p.size :: s.done) n

/-- The tokens of some bytes. A character begun and not ended is a flaw. -/
def tokens (bytes : List UInt8) : List Token :=
  let last := bytes.foldl step ⟨[], none⟩
  match last.pending with
  | none => last.done.reverse
  | some p => (.flaw .ending p.size :: last.done).reverse

/-- Tokens in which a half of a pair counts as a character. Without that it is three flaws, one
for each of its bytes. -/
def countHalves : List UInt8 → List Token → List Token
  | 0xED :: b :: c :: bytes, t :: t' :: t'' :: tokens =>
    if 0xA0 ≤ b ∧ b ≤ 0xBF ∧ 0x80 ≤ c ∧ c ≤ 0xBF then
      .char (Text.ofCode (0xD000 + b.toNat % 64 * 64 + c.toNat % 64)) 3 :: countHalves bytes tokens
    else t :: countHalves ((0xED :: b :: c :: bytes).drop t.size) (t' :: t'' :: tokens)
  | bytes, t :: tokens => t :: countHalves (bytes.drop t.size) tokens
  | _, [] => []

/-- The strict reading of UTF-8. -/
def decode (bytes : List UInt8) : Except DecodeError Text :=
  Token.collect "utf-8" bytes (tokens bytes)

/-- The lossy reading of UTF-8. -/
def decodeLossy (bytes : List UInt8) : Text := Token.replaceFlaws (tokens bytes)

/-! ## Reading back what was written -/

theorem step_lead (done : List Token) (n : Nat) (h : n < 256) :
    step ⟨done, none⟩ (UInt8.ofNat n) = lead done n := by
  have : (UInt8.ofNat n).toNat = n := by simp; omega
  simp only [step, this]

theorem step_within {done : List Token} {p : Pending} {n : Nat}
    (h : n < 256) (hlow : p.low ≤ n) (hhigh : n ≤ p.high) :
    step ⟨done, some p⟩ (UInt8.ofNat n) =
      match p.more with
      | 0 => ⟨.char (Char.ofNat (p.code * 64 + n % 64)) (p.size + 1) :: done, none⟩
      | more + 1 => ⟨done, some ⟨p.code * 64 + n % 64, more, 0x80, 0xBF, p.size + 1⟩⟩ := by
  have : (UInt8.ofNat n).toNat = n := by simp; omega
  simp [step, this, hlow, hhigh]

/-- The bytes of one character take the decoder from between characters over that character
to between characters. -/
theorem foldl_step_encodeChar (done : List Token) (c : Char) :
    (String.utf8EncodeChar c).foldl step ⟨done, none⟩ =
      ⟨.char c (String.utf8EncodeChar c).length :: done, none⟩ := by
  have hv : c.val.toNat < 0xD800 ∨ 0xDFFF < c.val.toNat ∧ c.val.toNat < 0x110000 := c.valid
  have hc : Char.ofNat c.val.toNat = c := Char.ofNat_toNat c
  simp only [String.utf8EncodeChar]
  generalize c.val.toNat = v at hv hc ⊢
  split
  -- one byte
  · rename_i h
    simp only [List.foldl_cons, List.foldl_nil, step_lead done v (by omega), lead,
      if_pos (show v < 0x80 by omega), hc, List.length_cons, List.length_nil]
  · split
    -- a leading byte and one more
    · rename_i h0 h1
      simp only [List.foldl_cons, List.foldl_nil, List.length_cons, List.length_nil]
      rw [step_lead _ _ (by omega), lead, if_neg (by omega), if_neg (by omega),
        if_pos (by omega), step_within (by omega) (by show 0x80 ≤ _; omega)
          (by show _ ≤ 0xBF; omega)]
      have e : (v / 64 % 32 + 192) % 32 * 64 + (v % 64 + 128) % 64 = v := by omega
      simp only [e, hc]
    · split
      -- a leading byte and two more: the range of the first leaves out surrogates
      · rename_i h0 h1 h2
        simp only [List.foldl_cons, List.foldl_nil, List.length_cons, List.length_nil]
        rw [step_lead _ _ (by omega), lead, if_neg (by omega), if_neg (by omega),
          if_neg (by omega), if_pos (by omega),
          step_within (by omega) (by show ite _ _ _ ≤ _; split <;> omega)
            (by show _ ≤ ite _ _ _; split <;> omega)]
        simp only
        rw [step_within (by omega) (by show 0x80 ≤ _; omega) (by show _ ≤ 0xBF; omega)]
        have e : ((v / 4096 % 16 + 224) % 16 * 64 + (v / 64 % 64 + 128) % 64) * 64
            + (v % 64 + 128) % 64 = v := by omega
        simp only [e, hc]
      -- a leading byte and three more
      · rename_i h0 h1 h2
        simp only [List.foldl_cons, List.foldl_nil, List.length_cons, List.length_nil]
        rw [step_lead _ _ (by omega), lead, if_neg (by omega), if_neg (by omega),
          if_neg (by omega), if_neg (by omega), if_pos (by omega),
          step_within (by omega) (by show ite _ _ _ ≤ _; split <;> omega)
            (by show _ ≤ ite _ _ _; split <;> omega)]
        simp only
        rw [step_within (by omega) (by show 0x80 ≤ _; omega) (by show _ ≤ 0xBF; omega)]
        simp only
        rw [step_within (by omega) (by show 0x80 ≤ _; omega) (by show _ ≤ 0xBF; omega)]
        have e : (((v / 262144 % 8 + 240) % 8 * 64 + (v / 4096 % 64 + 128) % 64) * 64
            + (v / 64 % 64 + 128) % 64) * 64 + (v % 64 + 128) % 64 = v := by omega
        simp only [e, hc]

theorem foldl_step_encode (done : List Token) (t : Text) :
    (encode t).foldl step ⟨done, none⟩ =
      ⟨(t.map fun c => Token.char c (String.utf8EncodeChar c).length).reverse ++ done, none⟩ := by
  induction t generalizing done with
  | nil => rfl
  | cons c t ih =>
    have h : encode (c :: t) = String.utf8EncodeChar c ++ encode t := rfl
    rw [h, List.foldl_append, foldl_step_encodeChar, ih]
    simp

theorem tokens_encode (t : Text) :
    tokens (encode t) = t.map fun c => Token.char c (String.utf8EncodeChar c).length := by
  simp [tokens, foldl_step_encode]

theorem collectFrom_chars (encoding : String) (position : Nat) (rest : List UInt8)
    (done : Text) (t : Text) (size : Char → Nat) :
    Token.collectFrom encoding position rest done (t.map fun c => Token.char c (size c)) =
      .ok (done.reverse ++ t) := by
  induction t generalizing position rest done with
  | nil => simp [Token.collectFrom]
  | cons c t ih => simp [Token.collectFrom, ih]

/-- A text is read back from its bytes. -/
theorem decode_encode (t : Text) : decode (encode t) = .ok t := by
  simp [decode, Token.collect, tokens_encode, collectFrom_chars]

end ContractVerifier.Utf8
