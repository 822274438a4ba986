import ContractVerifier.Compression.Item

set_option autoImplicit false

/-! # Deflated data

Deflated data are blocks of bytes, which are stored as they are or in words of a code.

Main definition: `inflate`. If the data break off, what could be read is the result. Main
statement: `step_length`, every step takes bits, so that inflating ends.
-/

namespace ContractVerifier.Compression

/-! ## Blocks -/

/-- What is to be read next. -/
inductive Phase where
  | header
  /-- So many bytes and one more as they are. -/
  | stored (isLast : Bool) (more : Nat)
  | items (isLast : Bool) (codes : Codes)
  | finished

/-- What is to be read behind a block. -/
def Phase.behind (isLast : Bool) : Phase := if isLast then finished else header

/-- Reads the length of a stored block, which is given twice. -/
def readStored (isLast : Bool) : Reader Phase := do
  finishByte
  let length ← readNumber 16
  let check ← readNumber 16
  if length + check ≠ 0xFFFF then fail .storedLength
  else
    match length with
    | 0 => return .behind isLast
    | more + 1 => return .stored isLast more

/-- Reads the beginning of a block of some sort. -/
def readSort (isLast : Bool) (sort : Nat) : Reader Phase :=
  if sort = 0 then readStored isLast
  else if sort = 1 then pure (.items isLast .fixed)
  else if sort = 2 then do return .items isLast (← readCodes)
  else fail .blockType

/-- Reads the beginning of a block. -/
def readHeader : Reader Phase := do
  let n ← readNumber 3
  readSort (n % 2 = 1) (n / 2)

/-- The bytes with some of them copied to their end, from a distance before it. -/
def copied (distance : Nat) : Nat → Array UInt8 → Array UInt8
  | 0, done => done
  | n + 1, done =>
    let b := done.getD (done.size - distance) 0
    copied distance n (done.push b)

/-- Where inflating stands: the bytes so far and what is to be read next. -/
structure State where
  done : Array UInt8 := #[]
  phase : Phase := .header

/-- The state after an item. -/
def State.take (done : Array UInt8) (isLast : Bool) (codes : Codes) : Item → Except Flaw State
  | .byte b => .ok ⟨done.push b, .items isLast codes⟩
  | .copy length distance =>
    if done.size < distance then .error .tooFar
    else .ok ⟨copied distance length done, .items isLast codes⟩
  | .ending => .ok ⟨done, .behind isLast⟩

/-- What came of the bits ahead, together with the bytes so far where it matters. -/
abbrev Outcome := Except (Array UInt8 × Stop) (State × Bits)

/-- One step from a state that is not finished. -/
def step (done : Array UInt8) (phase : Phase) (bits : Bits) : Outcome :=
  match phase with
  | .header =>
    match readHeader bits with
    | .error stop => .error (done, stop)
    | .ok (phase, bits) => .ok (⟨done, phase⟩, bits)
  | .stored isLast more =>
    match readNumber 8 bits with
    | .error stop => .error (done, stop)
    | .ok (n, bits) =>
      let phase := match more with
        | 0 => .behind isLast
        | more + 1 => .stored isLast more
      .ok (⟨done.push (UInt8.ofNat n), phase⟩, bits)
  | .items isLast codes =>
    match readItem codes bits with
    | .error stop => .error (done, stop)
    | .ok (item, bits) =>
      match State.take done isLast codes item with
      | .ok s => .ok (s, bits)
      | .error flaw => .error (#[], .flawed flaw)
  | .finished => .error (done, .cut)

/-! ## Every step takes bits -/

theorem usesUp_readStored (isLast : Bool) : UsesUp 0 (readStored isLast) := by
  refine usesUp_bind_zero usesUp_finishByte fun _ => ?_
  refine usesUp_bind_zero (usesUp_readNumber 16) fun length => ?_
  refine usesUp_bind_zero (usesUp_readNumber 16) fun check => ?_
  split
  · exact usesUp_fail _
  · split
    · exact usesUp_pure _
    · exact usesUp_pure _

theorem usesUp_readSort (isLast : Bool) (sort : Nat) : UsesUp 0 (readSort isLast sort) := by
  unfold readSort
  split
  · exact usesUp_readStored isLast
  · split
    · exact usesUp_pure _
    · split
      · exact usesUp_bind_zero usesUp_readCodes fun _ => usesUp_pure _
      · exact usesUp_fail _

theorem usesUp_readHeader : UsesUp (3 + 0) readHeader :=
  usesUp_bind (usesUp_readNumber 3) fun n => usesUp_readSort (n % 2 = 1) (n / 2)

theorem step_length {done : Array UInt8} {phase : Phase} {bits rest : Bits} {s : State}
    (h : step done phase bits = .ok (s, rest)) : rest.length < bits.length := by
  unfold step at h
  split at h
  · split at h
    · cases h
    · rename_i he
      cases h
      have := usesUp_readHeader _ _ _ he
      omega
  · split at h
    · cases h
    · rename_i he
      cases h
      have := usesUp_readNumber 8 _ _ _ he
      omega
  · split at h
    · cases h
    · rename_i he
      split at h
      · cases h
        have := usesUp_readItem _ _ _ _ he
        omega
      · cases h
  · cases h

/-! ## Inflating -/

/-- Goes on to the end of the last block or of the data. The bits behind the last block come
with the bytes. -/
def run (s : State) (bits : Bits) : Except Flaw (Array UInt8 × Option Bits) :=
  match s with
  | ⟨done, .finished⟩ => .ok (done, some bits)
  | ⟨done, phase⟩ =>
    match h : step done phase bits with
    | .error (done, .cut) => .ok (done, none)
    | .error (_, .flawed flaw) => .error flaw
    | .ok (s, rest) =>
      have := step_length h
      run s rest
termination_by bits.length

/-- The bytes that were deflated, and the bytes behind them unless the data break off. -/
def inflate (bytes : List UInt8) : Except Flaw (List UInt8 × Option (List UInt8)) :=
  (run {} (bitsOf bytes)).map fun p => (p.1.toList, p.2.map fun bits => bytesOf (toByte bits))

end ContractVerifier.Compression
