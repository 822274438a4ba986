import ContractVerifier.Encoding.Unencodable
import ContractVerifier.Encoding.Utf8
import ContractVerifier.Text.Digit

set_option autoImplicit false

/-! # Escapes in addresses

A character that may not stand in a part of an address is written byte by byte, each byte of
its UTF-8 form as a percent sign with two hexadecimal digits. Which characters may stand as
they are differs from part to part and is an argument here.

In a **form** (`Form.encode`, `Form.decode`) a space is a plus sign besides.
-/

namespace ContractVerifier.Url

/-- One byte as an escape. -/
def escapeByte (b : UInt8) : Text :=
  ['%', (Nat.digitChar (b.toNat / 16)).toUpper, (Nat.digitChar (b.toNat % 16)).toUpper]

/-- One character as escapes. -/
def escapeChar (c : Char) : Text := (Utf8.encode [c]).flatMap escapeByte

/-- A text in which only the characters of `kept` stand as they are. -/
def escape (kept : Char → Bool) (t : Text) : Text :=
  t.flatMap fun c => if kept c then [c] else escapeChar c

theorem escape_of_all_kept {kept : Char → Bool} {t : Text} (h : ∀ c ∈ t, kept c = true) :
    escape kept t = t := by
  induction t with
  | nil => rfl
  | cons c t ih =>
    have hc := h c List.mem_cons_self
    have ht := ih fun d hd => h d (List.mem_cons_of_mem c hd)
    simp only [escape] at ht
    simp [escape, hc, ht]

theorem escape_append (kept : Char → Bool) (s t : Text) :
    escape kept (s ++ t) = escape kept s ++ escape kept t := by
  simp [escape]

/-- The bytes a text with escapes stands for. -/
def bytes : Text → List UInt8
  | '%' :: a :: b :: rest =>
    match Text.hexValue? a, Text.hexValue? b with
    | some high, some low => UInt8.ofNat (high * 16 + low) :: bytes rest
    | _, _ => Utf8.encode ['%'] ++ bytes (a :: b :: rest)
  | c :: rest => Utf8.encode [c] ++ bytes rest
  | [] => []
  termination_by t => t.length

/-- The text that a text with escapes stands for. -/
def unescape (t : Text) : Text := Utf8.decodeLossy (bytes t)

/-! ## Which characters are kept -/

/-- Whether `c` is a visible ASCII character or a space. -/
def isVisible (c : Char) : Bool := 0x20 ≤ c.toNat && c.toNat < 0x7F

/-- Whether `c` stands for itself everywhere. -/
def isUnreserved (c : Char) : Bool := c.isAlphanum || ['-', '.', '_', '~'].contains c

/-- The characters kept in a query. -/
def keptInQuery (c : Char) : Bool := isVisible c && !([' ', '"', '#', '<', '>'].contains c)

/-- The characters kept in a fragment. -/
def keptInFragment (c : Char) : Bool := isVisible c && !([' ', '"', '<', '>', '`'].contains c)

/-- The characters kept in a path. -/
def keptInPath (c : Char) : Bool :=
  keptInQuery c && !(['?', '`', '\x7b', '\x7d'].contains c)

/-- The characters kept in a user's name and password. -/
def keptInUser (c : Char) : Bool :=
  keptInPath c && !(['/', ';', '=', '@', '[', '\\', ']', '^', '|'].contains c)

/-- The characters kept in a host's name. -/
def keptInHost (c : Char) : Bool :=
  isUnreserved c ||
    ['!', '$', '&', '\'', '(', ')', '*', '+', ',', ';', '=', '"', '`', '\x7b', '\x7d', '%', '|',
     '\\'].contains c

/-! ## Forms -/

namespace Form

/-- A name or value of a form. -/
def encode (t : Text) : Text :=
  t.flatMap fun c => if c = ' ' then ['+'] else if isUnreserved c then [c] else escapeChar c

/-- The name or value that a part of a form stands for. -/
def decode (t : Text) : Text := unescape (t.map fun c => if c = '+' then ' ' else c)

/-- The names and values of a form in one text. -/
def encodePairs (pairs : List (Text × Text)) : Text :=
  Text.join ['&'] (pairs.map fun p => encode p.1 ++ '=' :: encode p.2)

/-- The first name or value of a form that has no bytes, and why. -/
def unencodable? (pairs : List (Text × Text)) : Option Unencodable :=
  pairs.findSome? fun p =>
    (Unencodable.find? .utf8 p.1).orElse fun _ => Unencodable.find? .utf8 p.2

/-- The names and values that a text gives, in order; a name without an equals sign has an
empty value, and an empty piece gives none. -/
def decodePairs (t : Text) : List (Text × Text) :=
  (Text.split '&' t).filterMap fun piece =>
    if piece = [] then none
    else
      match Text.cut? ['='] piece with
      | some (name, value) => some (decode name, decode value)
      | none => some (decode piece, [])

end Form

end ContractVerifier.Url
