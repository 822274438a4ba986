import ContractVerifier.Compression.Codes

set_option autoImplicit false

/-! # Items of a block

The words of a block stand for bytes, for the end of the block, and for bytes to be copied
from those before: so many, from a distance before the end.

Main definition: `readItem`.
-/

namespace ContractVerifier.Compression

/-- What a word stands for. -/
inductive Item where
  | byte (b : UInt8)
  | copy (length distance : Nat)
  | ending
  deriving DecidableEq, Repr

/-- For each symbol of a length the least one, and how many bits tell how much is added. -/
def lengthSymbols : List (Nat × Nat) :=
  [(3, 0), (4, 0), (5, 0), (6, 0), (7, 0), (8, 0), (9, 0), (10, 0), (11, 1), (13, 1), (15, 1),
   (17, 1), (19, 2), (23, 2), (27, 2), (31, 2), (35, 3), (43, 3), (51, 3), (59, 3), (67, 4),
   (83, 4), (99, 4), (115, 4), (131, 5), (163, 5), (195, 5), (227, 5), (258, 0)]

/-- The same for distances. -/
def distanceSymbols : List (Nat × Nat) :=
  [(1, 0), (2, 0), (3, 0), (4, 0), (5, 1), (7, 1), (9, 2), (13, 2), (17, 3), (25, 3), (33, 4),
   (49, 4), (65, 5), (97, 5), (129, 6), (193, 6), (257, 7), (385, 7), (513, 8), (769, 8),
   (1025, 9), (1537, 9), (2049, 10), (3073, 10), (4097, 11), (6145, 11), (8193, 12),
   (12289, 12), (16385, 13), (24577, 13)]

/-- Reads what is added to the least value of a symbol, if there is such a symbol. -/
def readValue (symbols : List (Nat × Nat)) (symbol : Option Nat) (flaw : Flaw) : Reader Nat :=
  match symbol.bind (symbols[·]?) with
  | some (least, bits) => do return least + (← readNumber bits)
  | none => fail flaw

/-- What a symbol for bytes, lengths and the end stands for. -/
def readItemOf (codes : Codes) : Option Nat → Reader Item
  | none => fail .literal
  | some symbol =>
    if symbol < endSymbol then pure (.byte (UInt8.ofNat symbol))
    else if symbol = endSymbol then pure .ending
    else do
      let length ← readValue lengthSymbols (some (symbol - endSymbol - 1)) .literal
      let symbol ← codes.distances.read
      return .copy length (← readValue distanceSymbols symbol .distance)

/-- Reads one item. -/
def readItem (codes : Codes) : Reader Item := do readItemOf codes (← codes.literals.read)

/-! ## Reading an item takes bits -/

theorem usesUp_readValue (symbols : List (Nat × Nat)) (symbol : Option Nat) (flaw : Flaw) :
    UsesUp 0 (readValue symbols symbol flaw) := by
  unfold readValue
  split
  · exact usesUp_bind_zero (usesUp_readNumber _) fun _ => usesUp_pure _
  · exact usesUp_fail _

theorem usesUp_readItemOf (codes : Codes) (symbol : Option Nat) :
    UsesUp 0 (readItemOf codes symbol) := by
  unfold readItemOf
  split
  · exact usesUp_fail _
  · split
    · exact usesUp_pure _
    · split
      · exact usesUp_pure _
      · exact usesUp_bind_zero (usesUp_readValue _ _ _) fun _ =>
          usesUp_bind_zero (Code.usesUp_read _) fun _ =>
            usesUp_bind_zero (usesUp_readValue _ _ _) fun _ => usesUp_pure _

theorem usesUp_readItem (codes : Codes) : UsesUp (1 + 0) (readItem codes) :=
  usesUp_bind (Code.usesUp_read codes.literals) fun symbol => usesUp_readItemOf codes symbol

end ContractVerifier.Compression
