import ContractVerifier.Compression.Bits

set_option autoImplicit false

/-! # Codes of symbols

A code gives every symbol a word of bits, none of which begins with another. The lengths of
the words alone say which they are: among words of one length those of smaller symbols come
first, and longer words come behind shorter ones.
-/

namespace ContractVerifier.Compression

/-- A code: the symbols with words of one bit, and those with longer words, length by length,
in the order of their words. -/
structure Code where
  short : List Nat
  longer : List (List Nat)
  deriving DecidableEq, Repr

namespace Code

/-- The symbols that have words of so many bits. -/
def symbols (lengths : List Nat) (size : Nat) : List Nat :=
  (lengths.zipIdx.filter fun p => p.1 = size).map (·.2)

/-- The code in which symbol `i` has a word of `lengths[i]` bits, and none if that is 0. -/
def ofLengths (lengths : List Nat) : Code :=
  ⟨symbols lengths 1, (List.range (lengths.foldl max 0 - 1)).map fun n => symbols lengths (n + 2)⟩

/-- The symbols, length by length. -/
def levels (c : Code) : List (List Nat) := c.short :: c.longer

/-- How many words of the last length are left over if `left` beginnings of words are there
at first. There may be too few. -/
def leftOver? : List (List Nat) → Nat → Option Nat
  | [], left => some left
  | level :: levels, left =>
    if level.length ≤ 2 * left then leftOver? levels (2 * left - level.length) else none

/-- Whether no symbol has a word. -/
def isEmpty (c : Code) : Bool := c.levels.all (·.isEmpty)

/-- Whether every sequence of bits begins with a word. -/
def isComplete (c : Code) : Bool := leftOver? c.levels 1 = some 0

/-- Whether the code is complete, or so small that it need not be. -/
def isUsable (c : Code) : Bool :=
  c.isComplete || c.longer.isEmpty && (leftOver? c.levels 1).isSome

/-- Reads a word whose bits before this level make up number `k` of those that are no word. -/
def readFrom : List (List Nat) → Nat → Reader (Option Nat)
  | [], _ => pure none
  | level :: levels, k => do
    let k := 2 * k + (← readNumber 1)
    match level[k]? with
    | some symbol => pure (some symbol)
    | none => readFrom levels (k - level.length)

/-- Reads a word. There may be no symbol for it. -/
def read (c : Code) : Reader (Option Nat) := readFrom c.levels 0

theorem usesUp_readFrom (levels : List (List Nat)) (k : Nat) : UsesUp 0 (readFrom levels k) := by
  induction levels generalizing k with
  | nil => exact usesUp_pure none
  | cons level levels ih =>
    refine usesUp_bind_zero (usesUp_readNumber 1) fun b => ?_
    show UsesUp 0 (match level[2 * k + b]? with
      | some symbol => pure (some symbol)
      | none => readFrom levels (2 * k + b - level.length))
    split
    · exact usesUp_pure _
    · exact ih _

/-- A word has at least one bit. -/
theorem usesUp_read (c : Code) : UsesUp (1 + 0) c.read := by
  refine usesUp_bind (usesUp_readNumber 1) fun b => ?_
  show UsesUp 0 (match c.short[2 * 0 + b]? with
    | some symbol => pure (some symbol)
    | none => readFrom c.longer (2 * 0 + b - c.short.length))
  split
  · exact usesUp_pure _
  · exact usesUp_readFrom _ _

end Code

end ContractVerifier.Compression
