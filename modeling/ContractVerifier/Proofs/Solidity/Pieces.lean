import ContractVerifier.Solidity.Piece
import Mathlib

set_option autoImplicit false

/-! # Cutting a text step by step

`piecesFrom` takes what is recognised off a text, or else a line. Here stands what each step does
to a text of which is known how it begins, for any recogniser: with what is recognised
(`piecesFrom_found`), with a line (`piecesFrom_line`), or without a line end (`piecesFrom_rest`).
-/

namespace ContractVerifier.Solidity

variable {α : Type} {recognise : Recogniser α} {atLine : Bool} {t w : Text}

/-- A text of a single line, or a line and what follows it. -/
theorem exists_line (t : Text) :
    ∃ w, '\n' ∉ w ∧ (t = w ∨ ∃ t', t = w ++ '\n' :: t') := by
  induction t with
  | nil => exact ⟨[], by simp, .inl rfl⟩
  | cons c t ih =>
      by_cases hc : c = '\n'
      · exact ⟨[], by simp, .inr ⟨t, by simp [hc]⟩⟩
      · obtain ⟨w, hw, h⟩ := ih
        refine ⟨c :: w, ?_, ?_⟩
        · simpa [hw] using Ne.symm hc
        · rcases h with rfl | ⟨t', rfl⟩
          · exact .inl rfl
          · exact .inr ⟨t', rfl⟩

theorem takeWhile_append_of_single (hw : '\n' ∉ w) (t : Text) :
    (w ++ t).takeWhile (· ≠ '\n') = w ++ t.takeWhile (· ≠ '\n') := by
  refine List.takeWhile_append_of_pos fun c hc => ?_
  simpa using fun h : c = '\n' => hw (h ▸ hc)

theorem takeWhile_line (hw : '\n' ∉ w) (t : Text) :
    (w ++ '\n' :: t).takeWhile (· ≠ '\n') = w := by
  rw [takeWhile_append_of_single hw]
  simp

theorem takeWhile_rest (hw : '\n' ∉ w) : w.takeWhile (· ≠ '\n') = w := by
  simpa using takeWhile_append_of_single hw []

/-- What stands before the first line feed belongs to the first line. -/
theorem firstLine_append (hw : '\n' ∉ w) (t : Text) : firstLine (w ++ t) = w ++ firstLine t := by
  simp only [firstLine, takeWhile_append_of_single hw, List.length_append, ← List.drop_drop,
    List.drop_left, List.append_assoc]

theorem firstLine_line (hw : '\n' ∉ w) (t : Text) : firstLine (w ++ '\n' :: t) = w ++ ['\n'] := by
  rw [firstLine_append hw]
  rfl

theorem firstLine_rest (hw : '\n' ∉ w) : firstLine w = w := by
  simpa [firstLine] using firstLine_append hw []

theorem drop_line (w t : Text) : (w ++ '\n' :: t).drop (w ++ ['\n']).length = t := by
  rw [List.append_cons w '\n' t, List.drop_left]

theorem length_lt_line (w t : Text) : t.length < (w ++ '\n' :: t).length := by
  simp only [List.length_append, List.length_cons]
  omega

/-- What is recognised is taken off. -/
theorem piecesFrom_found {raw : Text} {v : α} (hraw : raw ≠ [])
    (h : recognise (raw ++ t) = some (raw, v)) :
    piecesFrom recognise true (raw ++ t) =
      .found raw v :: piecesFrom recognise (raw.getLast? = some '\n') t := by
  obtain ⟨d, raw, rfl⟩ := List.exists_cons_of_ne_nil hraw
  rw [List.cons_append] at h ⊢
  rw [piecesFrom]
  simp only [h, if_true, List.drop_left]

theorem piecesFrom_plain {c : Char} (h : atLine = true → recognise (c :: t) = none) :
    piecesFrom recognise atLine (c :: t) =
      .plain (firstLine (c :: t)) ::
        piecesFrom recognise true ((c :: t).drop (firstLine (c :: t)).length) := by
  rw [piecesFrom]
  cases atLine with
  | false => rfl
  | true => simp only [h rfl, if_true]

/-- A line at which nothing is recognised is taken off. -/
theorem piecesFrom_line (hw : '\n' ∉ w)
    (h : atLine = true → recognise (w ++ '\n' :: t) = none) :
    piecesFrom recognise atLine (w ++ '\n' :: t) =
      .plain (w ++ ['\n']) :: piecesFrom recognise true t := by
  obtain ⟨c, r, hcr⟩ := List.exists_cons_of_ne_nil (l := w ++ '\n' :: t) (by simp)
  have hplain : piecesFrom recognise atLine (c :: r) = .plain (firstLine (c :: r)) ::
      piecesFrom recognise true ((c :: r).drop (firstLine (c :: r)).length) :=
    piecesFrom_plain (hcr ▸ h)
  rwa [← hcr, firstLine_line hw, drop_line] at hplain

/-- Nothing follows a piece without a line end. -/
theorem piecesFrom_rest (hne : w ≠ []) (hw : '\n' ∉ w)
    (h : atLine = true → recognise w = none) : piecesFrom recognise atLine w = [.plain w] := by
  obtain ⟨c, r, rfl⟩ := List.exists_cons_of_ne_nil hne
  rw [piecesFrom_plain h, firstLine_rest hw, List.drop_length, piecesFrom]

/-- Where nothing is recognised, what stands on a line takes along what follows on it. -/
theorem piecesFrom_append (hne : w ≠ []) (hw : '\n' ∉ w)
    (h : atLine = true → recognise (w ++ t) = none) :
    piecesFrom recognise atLine (w ++ t) =
      .plain (w ++ firstLine t) :: piecesFrom recognise true (t.drop (firstLine t).length) := by
  obtain ⟨c, r, rfl⟩ := List.exists_cons_of_ne_nil hne
  rw [List.cons_append] at h ⊢
  rw [piecesFrom_plain h, ← List.cons_append, firstLine_append hw, List.length_append,
    ← List.drop_drop, List.drop_left]

/-- What a piece holds was recognised somewhere. -/
theorem exists_of_mem_piecesFrom {raw : Text} {v : α}
    (h : .found raw v ∈ piecesFrom recognise atLine t) : ∃ t', recognise t' = some (raw, v) := by
  fun_induction piecesFrom recognise atLine t with
  | case1 => cases h
  | case2 atLine c t d raw' v' hrec ih =>
      rcases List.mem_cons.mp h with h | h
      · cases h
        cases atLine with
        | false => cases hrec
        | true => exact ⟨c :: t, hrec⟩
      · exact ih h
  | case3 atLine c t line _ ih =>
      rcases List.mem_cons.mp h with h | h
      · cases h
      · exact ih h

/-- What is found in a text is recognised where one of its pieces begins. -/
theorem exists_of_mem_found {v : α} (h : v ∈ found recognise t) :
    ∃ raw t', .found raw v ∈ pieces recognise t ∧ recognise t' = some (raw, v) := by
  obtain ⟨p, hp, hvalue⟩ := List.mem_filterMap.mp h
  cases p with
  | plain => cases hvalue
  | found raw v' =>
      obtain rfl := Option.some.inj hvalue
      obtain ⟨t', hrec⟩ := exists_of_mem_piecesFrom hp
      exact ⟨raw, t', hp, hrec⟩

/-- What is left of a piece if what is `dropped` goes. -/
def Piece.kept (dropped : α → Bool) : Piece α → Text
  | plain t => t
  | found raw v => if dropped v then [] else raw

/-- A text without what is recognised in it and is to be `dropped`; a line may begin here or
not. -/
def eraseFrom (recognise : Recogniser α) (dropped : α → Bool) (atLine : Bool) (t : Text) : Text :=
  (piecesFrom recognise atLine t).flatMap (Piece.kept dropped)

theorem eraseWhere_eq_eraseFrom (recognise : Recogniser α) (dropped : α → Bool) (t : Text) :
    eraseWhere recognise dropped t = eraseFrom recognise dropped true t :=
  rfl

variable {dropped : α → Bool}

theorem flatMap_kept_plain (ls : List Text) :
    (ls.map Piece.plain).flatMap (Piece.kept dropped) = ls.flatten := by
  rw [List.flatMap_map]
  exact List.flatMap_id

@[simp]
theorem eraseFrom_nil : eraseFrom recognise dropped atLine [] = [] := by
  rw [eraseFrom, piecesFrom]
  rfl

theorem eraseFrom_found {raw : Text} {v : α} (hraw : raw ≠ [])
    (h : recognise (raw ++ t) = some (raw, v)) :
    eraseFrom recognise dropped true (raw ++ t) =
      (if dropped v then [] else raw) ++
        eraseFrom recognise dropped (raw.getLast? = some '\n') t := by
  rw [eraseFrom, piecesFrom_found hraw h]
  rfl

theorem eraseFrom_line (hw : '\n' ∉ w)
    (h : atLine = true → recognise (w ++ '\n' :: t) = none) :
    eraseFrom recognise dropped atLine (w ++ '\n' :: t) =
      w ++ '\n' :: eraseFrom recognise dropped true t := by
  rw [eraseFrom, piecesFrom_line hw h, List.flatMap_cons]
  exact (List.append_cons w '\n' _).symm

theorem eraseFrom_rest (hne : w ≠ []) (hw : '\n' ∉ w)
    (h : atLine = true → recognise w = none) : eraseFrom recognise dropped atLine w = w := by
  rw [eraseFrom, piecesFrom_rest hne hw h]
  exact List.append_nil w

end ContractVerifier.Solidity
