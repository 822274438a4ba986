import ContractVerifier.Charset.Designated
import ContractVerifier.Charset.Page.Basic
import ContractVerifier.Charset.Unreadable
import ContractVerifier.Encoding.Choice
import ContractVerifier.Encoding.Punycode
import ContractVerifier.HostName.Basic

set_option autoImplicit false

/-! # Character sets

What a label in a content type stands for. Most character sets are a rule that turns bytes
into characters. Of a few others some are no character sets at all.

Main definitions: the lossy reading `Charset.decodeLossy`, which has the replacement character
where bytes stand for nothing, and the strict one `Charset.decode?`, which gives up there.
-/

namespace ContractVerifier

/-- A character set. -/
inductive Charset where
  | unicode (encoding : Encoding)
  /-- A rule by which bytes are read. -/
  | rules (read : List UInt8 → Charset.Reading)
  /-- Several character sets take turns. -/
  | designated (repertoire : Charset.Repertoire)
  | punycode
  /-- The bytes are the ASCII form of a host's name. -/
  | hostName
  /-- Nothing can be read in it. -/
  | undefined
  /-- It turns bytes into bytes. -/
  | otherBytes
  /-- It turns characters into characters. -/
  | rotation

namespace Charset

/-- The character set of a page. -/
def ofPage (p : Page) : Charset := .rules p.read

/-- The characters of some bytes in ASCII. -/
def readAscii (bytes : List UInt8) : Reading :=
  bytes.map fun b => if b < 0x80 then some (Char.ofNat b.toNat) else none

/-- The characters of some bytes in Latin-1: each byte is the number of one. -/
def readLatin (bytes : List UInt8) : Reading := bytes.map fun b => some (Char.ofNat b.toNat)

/-- The replacement character for what stands for nothing. -/
def Reading.replaced (r : Reading) : Text := r.map (·.getD (Char.ofNat 0xFFFD))

/-! ## Punycode in bytes -/

/-- The bytes before the last hyphen and those behind it. -/
def punycodeParts (bytes : List UInt8) : List UInt8 × List UInt8 :=
  match bytes.reverse.span fun b => b ≠ 0x2D with
  | (numbers, _ :: base) => (base.reverse, numbers.reverse)
  | (numbers, []) => ([], numbers.reverse)

/-- The characters that ASCII bytes stand for. -/
def asciiText (bytes : List UInt8) : Text := bytes.map fun b => Char.ofNat b.toNat

/-- What Punycode stands for. Only behind the last hyphen all must be ASCII; positions are
counted from there. -/
def decodePunycode (bytes : List UInt8) : Except Unreadable Text :=
  let (base, numbers) := punycodeParts bytes
  match numbers.span (· < 0x80) with
  | (before, b :: _) => .error (.flawed ⟨"ascii", before.length, [b], .beyondAscii⟩)
  | (_, []) =>
    let chars := (readAscii base).replaced
    .ok ((Punycode.insertAll true true { chars } (asciiText numbers)).getD chars)

/-! ## Reading -/

/-- The most bytes that may be there from where the bytes of a repertoire break off. -/
def maxCut : Nat := 8

/-- The lossy reading. A mark that the encoding asks for must be there. -/
def decodeLossy : Charset → List UInt8 → Except Unreadable Text
  | unicode encoding, bytes =>
    match encoding.unmarkedWidth? bytes with
    | some width => .error (.noMark width)
    | none => .ok (encoding.decodeLossy bytes)
  | rules read, bytes => .ok (read bytes).replaced
  | designated repertoire, bytes =>
    if maxCut < repertoire.cutSize bytes then .error .longCut
    else .ok (repertoire.read bytes).replaced
  | punycode, bytes => decodePunycode bytes
  | hostName, _ => .error .strictOnly
  | undefined, _ => .error .undefined
  | otherBytes, _ => .error .notText
  | rotation, _ => .error .rotation

/-- The strict reading. -/
def decode? : Charset → List UInt8 → Option Text
  | unicode encoding, bytes => (encoding.decode false bytes).toOption
  | rules read, bytes => (read bytes).mapM id
  | designated repertoire, bytes => (repertoire.read bytes).mapM id
  | punycode, bytes =>
    if bytes.all (· < 0x80) then Punycode.decode? (asciiText bytes) else none
  | hostName, bytes =>
    -- no label of an encoding is encoded itself
    let t := asciiText bytes
    let isEncoded := (Text.split '.' t).any (Text.startsWith HostName.encodedStart)
    if bytes.all (· < 0x80) && !isEncoded then some t else none
  | _, _ => none

end Charset

end ContractVerifier
