set_option autoImplicit false

/-! # Checksums

Two numbers of 32 bits that tell whether bytes are the ones that were meant: the remainder of
a division of polynomials over two elements, and a pair of sums.
-/

namespace ContractVerifier.Compression

/-- One step of the division: the divisor is taken off if there is a remainder. -/
def crcStep (r : UInt32) : UInt32 := if r % 2 = 1 then (r / 2) ^^^ 0xEDB88320 else r / 2

/-- Divides one byte more. -/
def crcByte (r : UInt32) (b : UInt8) : UInt32 :=
  (List.range 8).foldl (fun r _ => crcStep r) (r ^^^ b.toUInt32)

/-- The remainder of some bytes. -/
def crc32 (bytes : List UInt8) : UInt32 := bytes.foldl crcByte 0xFFFFFFFF ^^^ 0xFFFFFFFF

/-- The prime that both sums are reduced by. -/
def adlerBase : Nat := 65521

/-- The sum of some bytes, beginning with 1, and the sum of the sums on the way, as the lower
and the upper half of a number. -/
def adler32 (bytes : List UInt8) : UInt32 :=
  let step := fun (s : Nat × Nat) (b : UInt8) =>
    let low := (s.1 + b.toNat) % adlerBase
    (low, (s.2 + low) % adlerBase)
  let (low, high) := bytes.foldl step (1, 0)
  UInt32.ofNat (high * 65536 + low)

example : crc32 "123456789".toUTF8.toList = 0xCBF43926 := by decide +kernel

example : adler32 "Wikipedia".toUTF8.toList = 0x11E60398 := by decide +kernel

end ContractVerifier.Compression
