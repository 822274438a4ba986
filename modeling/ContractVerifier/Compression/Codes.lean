import ContractVerifier.Compression.Code

set_option autoImplicit false

/-! # The codes of a block

A block of deflated data has two codes, either those that are known beforehand or its own. Its
own are given by the lengths of their words, which are in turn words of a third code.

Main definitions: `Codes.fixed` and `readCodes`.
-/

namespace ContractVerifier.Compression

/-- The codes of a block: for bytes, lengths and the end, and for distances. -/
structure Codes where
  literals : Code
  distances : Code
  deriving DecidableEq, Repr

/-- The codes that are known beforehand. -/
def Codes.fixed : Codes where
  literals := .ofLengths (List.replicate 144 8 ++ List.replicate 112 9 ++ List.replicate 24 7 ++
    List.replicate 8 8)
  distances := .ofLengths (List.replicate 32 5)

/-- The order in which the lengths of words for lengths are given. -/
def lengthOrder : List Nat := [16, 17, 18, 0, 8, 7, 9, 6, 10, 5, 11, 4, 12, 3, 13, 2, 14, 1, 15]

/-- Reads so many numbers of three bits. -/
def readThrees : Nat → Reader (List Nat)
  | 0 => pure []
  | n + 1 => do
    let first ← readNumber 3
    return first :: (← readThrees n)

/-- Reads which length is repeated, and how often beyond once. -/
def readRepetition (symbol : Nat) (done : List Nat) : Reader (Nat × Nat) := do
  if symbol = 16 then
    let more ← readNumber 2
    match done with
    | [] => fail .repetition
    | last :: _ => return (last, 2 + more)
  else if symbol = 17 then return (0, 2 + (← readNumber 3))
  else return (0, 10 + (← readNumber 7))

/-- Reads so many lengths; `done` holds those before, last first. A code without words stands
for zeros. -/
def readLengths (code : Code) (done : List Nat) (left : Nat) : Reader (List Nat) :=
  match left with
  | 0 => pure done.reverse
  | left + 1 => do
    let symbol := (← code.read).getD 0
    if symbol < 16 then readLengths code (symbol :: done) left
    else
      let (length, more) ← readRepetition symbol done
      if left < more then fail .repetition
      else readLengths code (List.replicate (more + 1) length ++ done) (left - more)
termination_by left
decreasing_by
  · exact Nat.lt_succ_self _
  · exact Nat.lt_succ_of_le (Nat.sub_le _ _)

/-- The symbol for the end of a block. -/
def endSymbol : Nat := 256

/-- Reads the codes of a block. -/
def readCodes : Reader Codes := do
  let literals := (← readNumber 5) + 257
  let distances := (← readNumber 5) + 1
  let count := (← readNumber 4) + 4
  if literals > 286 ∨ distances > 30 then fail .tooManySymbols
  else
    let given := lengthOrder.zip (← readThrees count)
    let code := Code.ofLengths ((List.range 19).map fun n => (given.lookup n).getD 0)
    if !code.isComplete && !code.isEmpty then fail .lengthCode
    else
      let lengths ← readLengths code [] (literals + distances)
      let codes : Codes :=
        ⟨.ofLengths (lengths.take literals), .ofLengths (lengths.drop literals)⟩
      if lengths.getD endSymbol 0 = 0 then fail .noEnd
      else if !codes.literals.isUsable then fail .literalLengths
      else if !codes.distances.isUsable then fail .distanceLengths
      else return codes

/-! ## Reading takes bits and gives none back -/

theorem usesUp_readThrees (n : Nat) : UsesUp 0 (readThrees n) := by
  induction n with
  | zero => exact usesUp_pure []
  | succ n ih =>
    exact usesUp_bind_zero (usesUp_readNumber 3) fun _ => usesUp_bind_zero ih fun _ => usesUp_pure _

theorem usesUp_readRepetition (symbol : Nat) (done : List Nat) :
    UsesUp 0 (readRepetition symbol done) := by
  unfold readRepetition
  split
  · refine usesUp_bind_zero (usesUp_readNumber 2) fun _ => ?_
    split
    · exact usesUp_fail _
    · exact usesUp_pure _
  · split
    · exact usesUp_bind_zero (usesUp_readNumber 3) fun _ => usesUp_pure _
    · exact usesUp_bind_zero (usesUp_readNumber 7) fun _ => usesUp_pure _

theorem usesUp_readLengths (code : Code) (done : List Nat) (left : Nat) :
    UsesUp 0 (readLengths code done left) := by
  induction left using Nat.strongRecOn generalizing done with
  | ind left ih =>
    rw [readLengths.eq_def]
    split
    · exact usesUp_pure _
    · rename_i left
      refine usesUp_bind_zero (Code.usesUp_read code) fun symbol => ?_
      dsimp only
      split
      · exact ih left (Nat.lt_succ_self left) _
      · refine usesUp_bind_zero (usesUp_readRepetition _ done) fun p => ?_
        split
        · exact usesUp_fail _
        · exact ih (left - p.2) (Nat.lt_succ_of_le (Nat.sub_le left p.2)) _

theorem usesUp_readCodes : UsesUp 0 readCodes := by
  unfold readCodes
  refine usesUp_bind_zero (usesUp_readNumber 5) fun _ => ?_
  refine usesUp_bind_zero (usesUp_readNumber 5) fun _ => ?_
  refine usesUp_bind_zero (usesUp_readNumber 4) fun _ => ?_
  split
  · exact usesUp_fail _
  · refine usesUp_bind_zero (usesUp_readThrees _) fun _ => ?_
    dsimp only
    split
    · exact usesUp_fail _
    · refine usesUp_bind_zero (usesUp_readLengths _ _ _) fun _ => ?_
      split
      · exact usesUp_fail _
      · split
        · exact usesUp_fail _
        · split
          · exact usesUp_fail _
          · exact usesUp_pure _

end ContractVerifier.Compression
