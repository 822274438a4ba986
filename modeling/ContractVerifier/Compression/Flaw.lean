set_option autoImplicit false

/-! # Flaws of compressed data

What can be wrong with compressed data. Data that break off are not flawed.
-/

namespace ContractVerifier.Compression

/-- What is wrong with compressed data. -/
inductive Flaw where
  | header
  | method
  | window
  | headerFlags
  | headerSum
  /-- The data refer to other data that are not there. -/
  | dictionary
  | blockType
  | storedLength
  | tooManySymbols
  | lengthCode
  | repetition
  /-- Nothing stands for the end of a block. -/
  | noEnd
  | literalLengths
  | distanceLengths
  | literal
  | distance
  /-- A distance leads before the beginning. -/
  | tooFar
  | dataSum
  | size
  deriving DecidableEq, Repr

namespace Flaw

/-- The wording of a flaw, where there is one. -/
def reason? : Flaw → Option String
  | header => some "incorrect header check"
  | method => some "unknown compression method"
  | window => some "invalid window size"
  | headerFlags => some "unknown header flags set"
  | headerSum => some "header crc mismatch"
  | dictionary => none
  | blockType => some "invalid block type"
  | storedLength => some "invalid stored block lengths"
  | tooManySymbols => some "too many length or distance symbols"
  | lengthCode => some "invalid code lengths set"
  | repetition => some "invalid bit length repeat"
  | noEnd => some "invalid code -- missing end-of-block"
  | literalLengths => some "invalid literal/lengths set"
  | distanceLengths => some "invalid distances set"
  | literal => some "invalid literal/length code"
  | distance => some "invalid distance code"
  | tooFar => some "invalid distance too far back"
  | dataSum => some "incorrect data check"
  | size => some "incorrect length check"

/-- The message of a flaw, with its number. -/
def message (f : Flaw) : String :=
  match f.reason? with
  | some reason => "Error -3 while decompressing data: " ++ reason
  | none => "Error 2 while decompressing data"

end Flaw

end ContractVerifier.Compression
