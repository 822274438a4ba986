import ContractVerifier.Encoding.Utf8
import Mathlib

set_option autoImplicit false

/-! # The lossy reading of UTF-8

What was written is read back, and the reading never has more characters than were written, even if
bytes have got between them: a character takes one token (`length_tokens_encode_append`), and one
byte more makes one token more at most (`length_tokens_cons_le`).
-/

namespace ContractVerifier.Utf8

theorem encode_cons (c : Char) (t : Text) : encode (c :: t) = encode [c] ++ encode t := by
  simp [encode]

/-- The lossy reading, too, gives back what was written. -/
theorem decodeLossy_encode (t : Text) : decodeLossy (encode t) = t := by
  rw [decodeLossy, tokens_encode, Token.replaceFlaws, List.map_map]
  exact List.map_id t

theorem length_decodeLossy (bs : List UInt8) : (decodeLossy bs).length = (tokens bs).length :=
  List.length_map _

/-! ## Counting tokens -/

/-- How many tokens some bytes make up, behind a character that may be begun. -/
def count (pending : Option Pending) (bs : List UInt8) : Nat :=
  let last := bs.foldl step ⟨[], pending⟩
  last.done.length + last.pending.toList.length

/-- The tokens that are done make no difference to what follows. -/
theorem step_append (done done' : List Token) (pending : Option Pending) (b : UInt8) :
    step ⟨done ++ done', pending⟩ b =
      ⟨(step ⟨done, pending⟩ b).done ++ done', (step ⟨done, pending⟩ b).pending⟩ := by
  have hlead : ∀ (done done' : List Token) n, lead (done ++ done') n =
      ⟨(lead done n).done ++ done', (lead done n).pending⟩ := by
    intro done done' n
    unfold lead
    split_ifs <;> rfl
  unfold step
  cases pending with
  | none => exact hlead done done' b.toNat
  | some p =>
      simp only
      split
      · split <;> rfl
      · exact hlead (.flaw .continuation p.size :: done) done' b.toNat

theorem foldl_step_append (bs : List UInt8) (done done' : List Token) (pending : Option Pending) :
    bs.foldl step ⟨done ++ done', pending⟩ =
      ⟨(bs.foldl step ⟨done, pending⟩).done ++ done', (bs.foldl step ⟨done, pending⟩).pending⟩ := by
  induction bs generalizing done pending with
  | nil => rfl
  | cons b bs ih =>
      rw [List.foldl_cons, step_append, ih]
      rfl

theorem count_cons (pending : Option Pending) (b : UInt8) (bs : List UInt8) :
    count pending (b :: bs) =
      (step ⟨[], pending⟩ b).done.length + count (step ⟨[], pending⟩ b).pending bs := by
  unfold count
  have h := foldl_step_append bs [] (step ⟨[], pending⟩ b).done (step ⟨[], pending⟩ b).pending
  simp only [List.foldl_cons]
  rw [List.nil_append] at h
  rw [h]
  simp only [List.length_append]
  omega

theorem length_tokens (bs : List UInt8) : (tokens bs).length = count none bs := by
  unfold tokens count
  simp only
  split
  · rename_i h
    simp [h]
  · rename_i p h
    simp [h]

/-- A byte that continues a character is a token of its own between characters. -/
theorem count_none_continuation {b : UInt8} (hlow : 0x80 ≤ b.toNat) (hhigh : b.toNat ≤ 0xBF)
    (bs : List UInt8) : count none (b :: bs) = 1 + count none bs := by
  rw [count_cons]
  simp only [step]
  rw [lead, if_neg (by omega), if_pos (by omega)]
  rfl

/-- The bytes that are owed are none that begin a character. -/
def Pending.Owes (p : Pending) : Prop := 0x80 ≤ p.low ∧ p.high ≤ 0xBF

theorem lead_cases (n : Nat) :
    (∃ token, lead [] n = ⟨[token], none⟩) ∨ ∃ p, lead [] n = ⟨[], some p⟩ ∧ p.Owes := by
  unfold lead
  split_ifs <;>
    first
      | exact .inl ⟨_, rfl⟩
      | exact .inr ⟨_, rfl, by unfold Pending.Owes; simp⟩

/-- What is begun counts as one token at most, whatever follows. -/
theorem count_some_le {p : Pending} (hp : p.Owes) (bs : List UInt8) :
    count (some p) bs ≤ 1 + count none bs := by
  induction bs generalizing p with
  | nil => exact Nat.le_refl 1
  | cons b bs ih =>
      by_cases hb : p.low ≤ b.toNat ∧ b.toNat ≤ p.high
      · -- on its own, `b` would be a token
        have hown : count none (b :: bs) = 1 + count none bs :=
          count_none_continuation (hp.1.trans hb.1) (hb.2.trans hp.2) bs
        rw [hown, count_cons]
        simp only [step, if_pos hb]
        split
        · simp only [List.length_singleton]
          omega
        · rename_i more hmore
          have hrest := ih (p := ⟨p.code * 64 + b.toNat % 64, more, 0x80, 0xBF, p.size + 1⟩)
            ⟨Nat.le_refl _, Nat.le_refl _⟩
          simp only [List.length_nil]
          omega
      · have hstep : step ⟨[], some p⟩ b =
            ⟨(step ⟨[], none⟩ b).done ++ [.flaw .continuation p.size],
              (step ⟨[], none⟩ b).pending⟩ := by
          rw [← step_append]
          simp only [step, if_neg hb, List.nil_append]
        rw [count_cons, count_cons none, hstep]
        simp only [List.length_append, List.length_singleton]
        omega

/-- One byte more makes one token more at most. -/
theorem length_tokens_cons_le (b : UInt8) (bs : List UInt8) :
    (tokens (b :: bs)).length ≤ 1 + (tokens bs).length := by
  rw [length_tokens, length_tokens, count_cons]
  show (lead [] b.toNat).done.length + count (lead [] b.toNat).pending bs ≤ _
  rcases lead_cases b.toNat with ⟨token, hlead⟩ | ⟨p, hlead, hp⟩
  · rw [hlead]
    exact Nat.le_refl _
  · rw [hlead]
    have := count_some_le hp bs
    simp only [List.length_nil]
    omega

/-- A character is one token. -/
theorem length_tokens_encode_append (c : Char) (bs : List UInt8) :
    (tokens (encode [c] ++ bs)).length = 1 + (tokens bs).length := by
  have hc : encode [c] = String.utf8EncodeChar c := by simp [encode]
  rw [length_tokens, length_tokens, hc]
  unfold count
  have h := foldl_step_append bs [] [.char c (String.utf8EncodeChar c).length] none
  rw [List.nil_append] at h
  simp only [List.foldl_append, foldl_step_encodeChar, h, List.length_append,
    List.length_singleton]
  omega

end ContractVerifier.Utf8
