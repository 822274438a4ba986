import ContractVerifier.Compression.Checksum
import ContractVerifier.Compression.Deflate

set_option autoImplicit false

/-! # Streams of compressed data

Deflated data stand between a header and a checksum, in one of two forms: with a long header
that may hold names (`gunzip`) and with a short one (`uncompress`). If the data break off, what
could be read is the result. What comes behind a stream is passed over.
-/

namespace ContractVerifier.Compression

/-- The number that bytes make up, least first. -/
def littleNumber (bytes : List UInt8) : Nat := bytes.foldr (fun b n => b.toNat + 256 * n) 0

/-- The bytes behind so many, if there are that many. -/
def drop? (n : Nat) (bytes : List UInt8) : Option (List UInt8) :=
  if bytes.length < n then none else some (bytes.drop n)

/-! ## The long header -/

/-- What a header may have, each told by a bit. -/
def hasSum (flags : UInt8) : Bool := flags.toNat.testBit 1
def hasExtra (flags : UInt8) : Bool := flags.toNat.testBit 2
def hasName (flags : UInt8) : Bool := flags.toNat.testBit 3
def hasComment (flags : UInt8) : Bool := flags.toNat.testBit 4

/-- The bytes behind extra data, which begin with their length. -/
def skipExtra (bytes : List UInt8) : Option (List UInt8) :=
  match bytes with
  | a :: b :: rest => drop? (littleNumber [a, b]) rest
  | _ => none

/-- The bytes behind a text, which ends with a zero. -/
def skipText (bytes : List UInt8) : Option (List UInt8) :=
  match bytes.dropWhile (· ≠ 0) with
  | _ :: rest => some rest
  | [] => none

/-- Passes over a part of a header if it is there. -/
def skipIf (isThere : Bool) (skip : List UInt8 → Option (List UInt8)) (bytes : List UInt8) :
    Option (List UInt8) :=
  if isThere then skip bytes else some bytes

/-- The bytes behind a long header, unless the data break off. -/
def afterLongHeader (bytes : List UInt8) : Except Flaw (Option (List UInt8)) :=
  match bytes with
  | 0x1F :: 0x8B :: method :: flags :: rest =>
    if method ≠ 8 then .error .method
    else if 0x20 ≤ flags then .error .headerFlags
    else
      let rest := do
        let rest ← drop? 6 rest
        let rest ← skipIf (hasExtra flags) skipExtra rest
        let rest ← skipIf (hasName flags) skipText rest
        skipIf (hasComment flags) skipText rest
      match rest with
      | none => .ok none
      | some rest =>
        if hasSum flags then
          match rest with
          | a :: b :: behind =>
            let sum := crc32 (bytes.take (bytes.length - rest.length))
            if littleNumber [a, b] = sum.toNat % 65536 then .ok (some behind)
            else .error .headerSum
          | _ => .ok none
        else .ok (some rest)
  | 0x1F :: 0x8B :: _ => .ok none
  | _ :: _ :: _ => .error .header
  | _ => .ok none

/-- Checks the sum and the size behind the data, as far as they are there. -/
def checkLongEnd (data behind : List UInt8) : Except Flaw Unit :=
  match behind with
  | a :: b :: c :: d :: behind =>
    if littleNumber [a, b, c, d] ≠ (crc32 data).toNat then .error .dataSum
    else
      match behind with
      | a :: b :: c :: d :: _ =>
        if littleNumber [a, b, c, d] ≠ data.length % 4294967296 then .error .size else .ok ()
      | _ => .ok ()
  | _ => .ok ()

/-- The data of a stream whose header was read and whose end is checked. -/
def dataOf (check : List UInt8 → List UInt8 → Except Flaw Unit) :
    Option (List UInt8) → Except Flaw (List UInt8)
  | none => .ok []
  | some bytes => do
    let (data, behind?) ← inflate bytes
    match behind? with
    | none => return data
    | some behind =>
      check data behind
      return data

/-- The data of a stream with a long header. -/
def gunzip (bytes : List UInt8) : Except Flaw (List UInt8) := do
  dataOf checkLongEnd (← afterLongHeader bytes)

/-! ## The short header -/

/-- The bytes behind a short header, unless the data break off. -/
def afterShortHeader (bytes : List UInt8) : Except Flaw (Option (List UInt8)) :=
  match bytes with
  | a :: b :: rest =>
    if (a.toNat * 256 + b.toNat) % 31 ≠ 0 then .error .header
    else if a % 16 ≠ 8 then .error .method
    else if 7 < a / 16 then .error .window
    else if b.toNat.testBit 5 then
      if rest.length < 4 then .ok none else .error .dictionary
    else .ok (some rest)
  | _ => .ok none

/-- Checks the sum behind the data, if it is there. -/
def checkShortEnd (data behind : List UInt8) : Except Flaw Unit :=
  match behind with
  | a :: b :: c :: d :: _ =>
    if littleNumber [d, c, b, a] ≠ (adler32 data).toNat then .error .dataSum else .ok ()
  | _ => .ok ()

/-- The data of a stream with a short header. -/
def uncompress (bytes : List UInt8) : Except Flaw (List UInt8) := do
  dataOf checkShortEnd (← afterShortHeader bytes)

end ContractVerifier.Compression
