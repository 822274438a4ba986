import ContractVerifier.Compression.Flaw

set_option autoImplicit false

/-! # Reading bits

Compressed data are read bit by bit, the least bit of each byte first. Reading stops where
the data break off or are flawed.

Main statement: `usesUp_bind`, from which follows how many bits a reading takes at least.
-/

namespace ContractVerifier.Compression

/-- The bits ahead. -/
abbrev Bits := List Bool

/-- The bits of some bytes. -/
def bitsOf (bytes : List UInt8) : Bits :=
  bytes.flatMap fun b => (List.range 8).map b.toNat.testBit

/-- The number that bits make up, least first. -/
def numberOf (bits : Bits) : Nat := bits.foldr (fun b n => b.toNat + 2 * n) 0

/-- The bytes that bits make up. Bits that are no byte are left out. -/
def bytesOf : Bits → List UInt8
  | a :: b :: c :: d :: e :: f :: g :: h :: rest =>
    UInt8.ofNat (numberOf [a, b, c, d, e, f, g, h]) :: bytesOf rest
  | _ => []

/-- The bits behind the end of the byte that is being read. -/
def toByte (bits : Bits) : Bits := bits.drop (bits.length % 8)

/-- Why reading stops. -/
inductive Stop where
  /-- The data break off. -/
  | cut
  | flawed (f : Flaw)
  deriving DecidableEq, Repr

/-- A reading of bits. -/
abbrev Reader := StateT Bits (Except Stop)

/-- Reads a number of so many bits. -/
def readNumber (size : Nat) : Reader Nat := fun bits =>
  if bits.length < size then .error .cut
  else .ok (numberOf (bits.take size), bits.drop size)

/-- Passes over the rest of a byte. -/
def finishByte : Reader Unit := fun bits => .ok ((), toByte bits)

/-- Stops at a flaw. -/
def fail {α : Type} (f : Flaw) : Reader α := fun _ => .error (.flawed f)

/-! ## How many bits a reading takes -/

/-- A reading that comes to an end has taken at least so many bits. -/
def UsesUp {α : Type} (size : Nat) (r : Reader α) : Prop :=
  ∀ bits a rest, r bits = .ok (a, rest) → rest.length + size ≤ bits.length

variable {α β : Type} {m n : Nat}

theorem usesUp_of_le {r : Reader α} (h : n ≤ m) (hr : UsesUp m r) : UsesUp n r := by
  intro bits a rest he
  have := hr bits a rest he
  omega

theorem usesUp_pure (a : α) : UsesUp 0 (pure a : Reader α) := by
  intro bits b rest h
  have h : (Except.ok (a, bits) : Except Stop (α × Bits)) = .ok (b, rest) := h
  cases h
  exact Nat.le_refl _

theorem usesUp_fail (f : Flaw) : UsesUp n (fail f : Reader α) := by
  intro bits a rest h
  cases h

theorem usesUp_readNumber (size : Nat) : UsesUp size (readNumber size) := by
  intro bits a rest h
  unfold readNumber at h
  split at h
  · cases h
  · cases h
    rw [List.length_drop]
    omega

theorem usesUp_finishByte : UsesUp 0 finishByte := by
  intro bits a rest h
  cases h
  simp [toByte]

/-- Of two readings one behind the other the first takes its bits and the second its own. -/
theorem usesUp_bind {r : Reader α} {f : α → Reader β} (hr : UsesUp m r)
    (hf : ∀ a, UsesUp n (f a)) : UsesUp (m + n) (r >>= f) := by
  intro bits b rest h
  have h : (r bits >>= fun p => f p.1 p.2) = .ok (b, rest) := h
  cases hp : r bits with
  | error e =>
    rw [hp] at h
    cases h
  | ok p =>
    rw [hp] at h
    have h : f p.1 p.2 = .ok (b, rest) := h
    have h1 := hr bits p.1 p.2 hp
    have h2 := hf p.1 p.2 b rest h
    omega

theorem usesUp_bind_zero {r : Reader α} {f : α → Reader β} (hr : UsesUp m r)
    (hf : ∀ a, UsesUp 0 (f a)) : UsesUp 0 (r >>= f) :=
  usesUp_of_le (Nat.zero_le (m + 0)) (usesUp_bind hr hf)

end ContractVerifier.Compression
