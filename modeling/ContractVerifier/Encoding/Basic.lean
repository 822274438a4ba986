import ContractVerifier.Text.Basic

set_option autoImplicit false

/-! # Reading bytes as characters

Every encoding turns bytes into **tokens**: a character, or a flaw where the bytes follow
none of its rules, each with the number of bytes it covers. There are two readings of the
tokens: the strict one stops at the first flaw and says where it is (`Token.collect`), the
lossy one puts the replacement character in its place (`Token.replaceFlaws`).
-/

namespace ContractVerifier

/-- How bytes fail to encode a character. -/
inductive Flaw where
  /-- No character starts with this byte. -/
  | start
  /-- A byte that should continue a character does not. -/
  | continuation
  /-- The bytes end inside a character. -/
  | ending
  /-- The bytes end inside a unit of two or four bytes. -/
  | truncated
  /-- The unit is no code point. -/
  | outOfRange
  /-- A half of a pair stands alone. -/
  | half
  /-- The byte is not one of ASCII. -/
  | beyondAscii
  deriving DecidableEq, Repr

/-- The wording of a flaw. -/
def Flaw.reason : Flaw → String
  | start => "invalid start byte"
  | continuation => "invalid continuation byte"
  | ending => "unexpected end of data"
  | truncated => "truncated data"
  | outOfRange => "code point not in range(0x110000)"
  | half => "illegal encoding"
  | beyondAscii => "ordinal not in range(128)"

/-- One step of a decoder: a character or a flaw, with the number of bytes it covers. -/
inductive Token where
  | char (c : Char) (size : Nat)
  | flaw (flaw : Flaw) (size : Nat)
  deriving DecidableEq, Repr

/-- The number of bytes a token covers. -/
def Token.size : Token → Nat
  | char _ size => size
  | flaw _ size => size

/-- The first flaw of some bytes: which encoding they were read in, the bytes it covers and
the position of the first of them. -/
structure DecodeError where
  encoding : String
  position : Nat
  bytes : List UInt8
  flaw : Flaw
  deriving DecidableEq, Repr

/-- Two small hexadecimal digits. -/
def hexByte (n : Nat) : String :=
  String.ofList [Nat.digitChar (n / 16), Nat.digitChar (n % 16)]

/-- The wording names the byte if the flaw covers just one, and the positions of the first
and the last byte otherwise. -/
def DecodeError.message (e : DecodeError) : String :=
  let what :=
    match e.bytes with
    | [b] => "byte 0x" ++ hexByte b.toNat ++ " in position " ++ toString e.position
    | bs => "bytes in position " ++ toString e.position ++ "-" ++
        toString (e.position + bs.length - 1)
  "'" ++ e.encoding ++ "' codec can't decode " ++ what ++ ": " ++ e.flaw.reason

namespace Token

/-- The loop of `collect`: `position` bytes are behind, `rest` are ahead, and `done` holds
the characters so far, last first. -/
def collectFrom (encoding : String) :
    Nat → List UInt8 → Text → List Token → Except DecodeError Text
  | _, _, done, [] => .ok done.reverse
  | position, rest, done, .char c size :: tokens =>
    collectFrom encoding (position + size) (rest.drop size) (c :: done) tokens
  | position, rest, _, .flaw f size :: _ =>
    .error { encoding, position, bytes := rest.take size, flaw := f }

/-- The strict reading: the characters of the tokens, or the first flaw. -/
def collect (encoding : String) (bytes : List UInt8) (tokens : List Token) :
    Except DecodeError Text :=
  collectFrom encoding 0 bytes [] tokens

/-- The lossy reading: the replacement character stands for each flaw. -/
def replaceFlaws (tokens : List Token) : Text :=
  tokens.map fun
    | .char c _ => c
    | .flaw _ _ => Char.ofNat 0xFFFD

end Token

end ContractVerifier
