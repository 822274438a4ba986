import ContractVerifier.Encoding.Utf8
import ContractVerifier.Encoding.Wide

set_option autoImplicit false

/-! # Unicode encodings

The encodings that every character can be written in. A JSON document shows which of them it
is written in by its first bytes (`Encoding.ofJsonBytes`). A byte order mark is part of the
text unless the encoding asks for one.
-/

namespace ContractVerifier

/-- The encodings of all characters. -/
inductive Encoding where
  | utf8
  /-- UTF-8 behind a byte order mark that is not part of the text. -/
  | utf8Marked
  | utf16 (order : Wide.ByteOrder)
  /-- UTF-16 whose byte order is told by a mark; little-endian without one. -/
  | utf16Marked
  | utf32 (order : Wide.ByteOrder)
  /-- UTF-32 whose byte order is told by a mark; little-endian without one. -/
  | utf32Marked
  deriving DecidableEq, Repr

namespace Encoding

/-- The tokens of UTF-8, in which halves may count as characters. -/
def utf8Tokens (counts : Bool) (bytes : List UInt8) : List Token :=
  if counts then Utf8.countHalves bytes (Utf8.tokens bytes) else Utf8.tokens bytes

/-- The name of an encoding, the number of bytes its mark takes, and the tokens of the
bytes behind the mark. A mark that breaks off is no text either. -/
def read (encoding : Encoding) (counts : Bool) (bytes : List UInt8) :
    String × Nat × List Token :=
  match encoding with
  | utf8 => ("utf-8", 0, utf8Tokens counts bytes)
  | utf8Marked =>
    match bytes with
    | 0xEF :: 0xBB :: 0xBF :: rest => ("utf-8", 3, utf8Tokens counts rest)
    | [0xEF, 0xBB] => ("utf-8", 2, [])
    | [0xEF] => ("utf-8", 1, [])
    | _ => ("utf-8", 0, utf8Tokens counts bytes)
  | utf16 .little => ("utf-16-le", 0, Wide.tokens16 .little counts bytes)
  | utf16 .big => ("utf-16-be", 0, Wide.tokens16 .big counts bytes)
  | utf16Marked =>
    match bytes with
    | 0xFF :: 0xFE :: rest => ("utf-16-le", 2, Wide.tokens16 .little counts rest)
    | 0xFE :: 0xFF :: rest => ("utf-16-be", 2, Wide.tokens16 .big counts rest)
    | _ => ("utf-16-le", 0, Wide.tokens16 .little counts bytes)
  | utf32 .little => ("utf-32-le", 0, Wide.tokens32 .little counts bytes)
  | utf32 .big => ("utf-32-be", 0, Wide.tokens32 .big counts bytes)
  | utf32Marked =>
    match bytes with
    | 0xFF :: 0xFE :: 0x00 :: 0x00 :: rest => ("utf-32-le", 4, Wide.tokens32 .little counts rest)
    | 0x00 :: 0x00 :: 0xFE :: 0xFF :: rest => ("utf-32-be", 4, Wide.tokens32 .big counts rest)
    | _ => ("utf-32-le", 0, Wide.tokens32 .little counts bytes)

/-- The strict reading. Positions count from behind the mark in UTF-8 and from the first byte
in the wide encodings. -/
def decode (encoding : Encoding) (counts : Bool) (bytes : List UInt8) :
    Except DecodeError Text :=
  let (name, mark, tokens) := encoding.read counts bytes
  let counted := if encoding = utf8Marked then 0 else mark
  Token.collectFrom name counted (bytes.drop mark) [] tokens

/-- The lossy reading. -/
def decodeLossy (encoding : Encoding) (bytes : List UInt8) : Text :=
  Token.replaceFlaws (encoding.read false bytes).2.2

/-- The width of the units of bytes that do not start with the mark their encoding asks for,
though they are enough for one. -/
def unmarkedWidth? (encoding : Encoding) (bytes : List UInt8) : Option Nat :=
  match encoding with
  | utf16Marked =>
    match bytes with
    | 0xFF :: 0xFE :: _ => none
    | 0xFE :: 0xFF :: _ => none
    | _ :: _ :: _ => some 16
    | _ => none
  | utf32Marked =>
    match bytes with
    | 0xFF :: 0xFE :: 0x00 :: 0x00 :: _ => none
    | 0x00 :: 0x00 :: 0xFE :: 0xFF :: _ => none
    | _ :: _ :: _ :: _ :: _ => some 32
    | _ => none
  | _ => none

/-- The encoding of a JSON document: told by a byte order mark if there is one, else by
which of the first four bytes are zero, since the first two characters are ASCII. -/
def ofJsonBytes (bytes : List UInt8) : Encoding :=
  match bytes with
  | 0x00 :: 0x00 :: 0xFE :: 0xFF :: _ => utf32Marked
  | 0xFF :: 0xFE :: 0x00 :: 0x00 :: _ => utf32Marked
  | 0xFE :: 0xFF :: _ => utf16Marked
  | 0xFF :: 0xFE :: _ => utf16Marked
  | 0xEF :: 0xBB :: 0xBF :: _ => utf8Marked
  | a :: b :: c :: d :: _ =>
    if a = 0 then (if b = 0 then utf32 .big else utf16 .big)
    else if b = 0 then (if c = 0 ∧ d = 0 then utf32 .little else utf16 .little)
    else utf8
  | [a, b] => if a = 0 then utf16 .big else if b = 0 then utf16 .little else utf8
  | _ => utf8

end Encoding

end ContractVerifier
