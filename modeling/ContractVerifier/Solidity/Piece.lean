import ContractVerifier.Text.Blank

set_option autoImplicit false

/-! # What stands at the beginning of a line

Imports and header lines are recognised where a line begins. A **recogniser** looks at the
text from there on and gives what it recognises: the characters it covers, never none, and
their meaning. `pieces` cuts a text into what was recognised and the plain text between, so
that listing, replacing and erasing are all a walk over the pieces.

Main statement: `flatMap_raw_pieces`, the pieces put together again are the text.
-/

namespace ContractVerifier.Solidity

/-- What stands at the beginning of a text: the characters it covers and what they mean. -/
abbrev Recogniser (α : Type) := Text → Option (Text × α)

/-- A piece of a text. -/
inductive Piece (α : Type) where
  | plain (t : Text)
  | found (raw : Text) (value : α)

/-- The characters of a piece. -/
def Piece.raw {α : Type} : Piece α → Text
  | plain t => t
  | found raw _ => raw

/-- What was recognised, if anything. -/
def Piece.value? {α : Type} : Piece α → Option α
  | plain _ => none
  | found _ v => some v

/-- The first line of a text, its line feed included. -/
def firstLine (t : Text) : Text :=
  let line := t.takeWhile (· ≠ '\n')
  line ++ (t.drop line.length).take 1

theorem firstLine_cons_ne_nil (c : Char) (t : Text) : firstLine (c :: t) ≠ [] := by
  unfold firstLine
  by_cases h : c = '\n'
  · simp [h]
  · simp [h]

theorem firstLine_isPrefix (t : Text) : firstLine t <+: t := by
  have h : t.takeWhile (· ≠ '\n') <+: t := List.takeWhile_prefix _
  have ht := List.prefix_iff_eq_append.1 h
  refine ⟨(t.drop (t.takeWhile (· ≠ '\n')).length).drop 1, ?_⟩
  rw [firstLine, List.append_assoc, List.take_append_drop, ht]

/-- Cuts a text into pieces. `atLine` tells whether a line begins here. What is recognised
is taken off the text and the search goes on behind it; a line begins there if what was
recognised ends with a line feed. -/
def piecesFrom {α : Type} (recognise : Recogniser α) (atLine : Bool) (t : Text) :
    List (Piece α) :=
  match t with
  | [] => []
  | c :: t =>
    match if atLine then recognise (c :: t) else none with
    | some (d :: raw, v) =>
      .found (d :: raw) v ::
        piecesFrom recognise ((d :: raw).getLast? = some '\n') (t.drop raw.length)
    -- nothing is recognised before the next line begins
    | _ =>
      let line := firstLine (c :: t)
      .plain line :: piecesFrom recognise true ((c :: t).drop line.length)
termination_by t.length
decreasing_by
  · simp only [List.length_drop, List.length_cons]
    omega
  · have h := firstLine_cons_ne_nil c t
    have : 0 < (firstLine (c :: t)).length := List.length_pos_iff.2 h
    simp only [List.length_drop, List.length_cons]
    omega

/-- The pieces of a text. -/
def pieces {α : Type} (recognise : Recogniser α) (t : Text) : List (Piece α) :=
  piecesFrom recognise true t

/-- What is recognised in a text, in order. -/
def found {α : Type} (recognise : Recogniser α) (t : Text) : List α :=
  (pieces recognise t).filterMap Piece.value?

/-- A text without what is recognised in it and is to be `dropped`. -/
def eraseWhere {α : Type} (recognise : Recogniser α) (dropped : α → Bool) (t : Text) : Text :=
  (pieces recognise t).flatMap fun
    | .plain t => t
    | .found raw v => if dropped v then [] else raw

/-- A text without what is recognised in it. -/
def erase {α : Type} (recognise : Recogniser α) (t : Text) : Text :=
  eraseWhere recognise (fun _ => true) t

/-- A recogniser is sound if what it covers is the beginning of the text. -/
def Sound {α : Type} (recognise : Recogniser α) : Prop :=
  ∀ t raw v, recognise t = some (raw, v) → raw <+: t

/-- The pieces of a text, put together, are the text. -/
theorem flatMap_raw_piecesFrom {α : Type} {recognise : Recogniser α} (h : Sound recognise)
    (atLine : Bool) (t : Text) :
    (piecesFrom recognise atLine t).flatMap Piece.raw = t := by
  fun_induction piecesFrom recognise atLine t with
  | case1 => rfl
  | case2 atLine c t d raw v hv ih =>
    have hpre : (d :: raw) <+: c :: t := by
      split at hv
      · exact h _ _ _ hv
      · cases hv
    obtain ⟨r, hr⟩ := hpre
    simp only [List.cons_append, List.cons.injEq] at hr
    obtain ⟨hd, rfl⟩ := hr
    subst hd
    simp only [List.flatMap_cons, Piece.raw, ih]
    simp
  | case3 atLine c t _ line ih =>
    have h := List.prefix_iff_eq_append.1 (firstLine_isPrefix (c :: t))
    simp only [List.flatMap_cons, Piece.raw, ih]
    exact h

theorem flatMap_raw_pieces {α : Type} {recognise : Recogniser α} (h : Sound recognise)
    (t : Text) : (pieces recognise t).flatMap Piece.raw = t :=
  flatMap_raw_piecesFrom h true t

end ContractVerifier.Solidity
