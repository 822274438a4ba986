import ContractVerifier.Json.Reader

set_option autoImplicit false

/-! # Nesting that is too deep

A list inside a list inside a list, and so on, is read as long as the nesting stays within the depth
that the reader is given. One list more stops it, before it knows whether the lists are ever closed
(`Json.readBytes_brackets`).
-/

namespace ContractVerifier

/-- Bytes that begin no half of a pair hold none. -/
theorem Utf8.countHalves_of_not_mem {bytes : List UInt8} {tokens : List Token}
    (h : 0xED ∉ bytes) : countHalves bytes tokens = tokens := by
  fun_induction countHalves bytes tokens with
  | case1 => simp at h
  | case2 => simp at h
  | case3 bytes t tokens _ ih => rw [ih fun hmem => h (List.mem_of_mem_drop hmem)]
  | case4 => rfl

namespace Json

/-- A list stops the reader if its first item does. -/
theorem readValue_of_first_item {bound depth position : Nat} {rest : Text} {stop : Stop}
    (hbound : 0 < bound) (hitem : (skipGap (position + 1) rest).rest.head? ≠ some ']')
    (h : readValue bound depth (skipGap (position + 1) rest) = .error stop) :
    readValue bound (depth + 1) ⟨position, '[' :: rest⟩ = .error stop := by
  obtain ⟨bound, rfl⟩ : ∃ b, bound = b + 1 := ⟨bound - 1, by omega⟩
  have hitems : readItems (readValue (bound + 1) depth) (bound + 1) []
      (skipGap (position + 1) rest) = .error stop := by
    rw [readItems, h]
  rw [readValue]
  simp only [hitems]
  split
  · rename_i hclosed
    rw [hclosed] at hitem
    exact absurd rfl hitem
  · rfl

/-- Brackets beyond the depth stop the reader, whatever stands behind them. -/
theorem readValue_brackets {bound : Nat} (hbound : 0 < bound) (depth position : Nat) (rest : Text) :
    readValue bound depth ⟨position, List.replicate (depth + 1) '[' ++ rest⟩ =
      .error (.depth .array) := by
  induction depth generalizing position with
  | zero => rfl
  | succ depth ih =>
      have hskip : skipGap (position + 1) (List.replicate (depth + 1) '[' ++ rest) =
          ⟨position + 1, List.replicate (depth + 1) '[' ++ rest⟩ := rfl
      have hitem : (skipGap (position + 1) (List.replicate (depth + 1) '[' ++ rest)).rest.head? ≠
          some ']' := by
        rw [hskip]
        simp [List.replicate_succ]
      exact readValue_of_first_item hbound hitem (hskip ▸ ih (position + 1))

theorem readDocument_brackets {n depth : Nat} (h : depth < n) :
    readDocument (List.replicate n '[') depth = .error (.depth .array) := by
  obtain ⟨m, rfl⟩ : ∃ m, n = depth + 1 + m := ⟨n - (depth + 1), by omega⟩
  have hskip : skipGap 0 (List.replicate (depth + 1 + m) '[') =
      ⟨0, List.replicate (depth + 1) '[' ++ List.replicate m '['⟩ := by
    rw [List.replicate_append_replicate, Nat.add_right_comm, List.replicate_succ]
    rfl
  rw [readDocument, hskip]
  simp only
  rw [readValue_brackets (by omega)]
  rfl

/-- **Brackets alone**, more of them than lists may be nested, are nested too deeply. -/
theorem readBytes_brackets {n depth : Nat} (h : depth < n) :
    readBytes (List.replicate n 0x5B) depth = .error (.depth .array) := by
  have hencode : List.replicate n 0x5B = Utf8.encode (List.replicate n '[') := by
    rw [Utf8.encode, List.flatMap_replicate]
    show _ = (List.replicate n [0x5B]).flatten
    rw [List.flatten_replicate_singleton]
  have hencoding : Encoding.ofJsonBytes (List.replicate n 0x5B) = .utf8 := by
    -- the first four bytes tell the encoding, if there are as many
    match n with
    | 0 | 1 | 2 | 3 => rfl
    | m + 4 => rfl
  have htokens : Encoding.utf8Tokens true (List.replicate n 0x5B) =
      Utf8.tokens (List.replicate n 0x5B) := by
    refine Utf8.countHalves_of_not_mem ?_
    simp
  have hdecode : Encoding.utf8.decode true (List.replicate n 0x5B) =
      .ok (List.replicate n '[') := by
    show Token.collectFrom "utf-8" 0 _ [] (Encoding.utf8Tokens true _) = _
    rw [htokens, hencode, Utf8.tokens_encode, Utf8.collectFrom_chars]
    rfl
  rw [readBytes, hencoding, hdecode]
  exact readDocument_brackets h

end Json

end ContractVerifier
