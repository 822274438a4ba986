import ContractVerifier.Association
import ContractVerifier.Charset.Label
import ContractVerifier.Fault
import ContractVerifier.Url.Escape

set_option autoImplicit false

/-! # Content types

A content type is a list of pieces with semicolons between: the type itself and parameters
with their values. A value may stand in quotes, in which a semicolon is no end. A long value
may be cut into numbered parts (`name*0`, `name*1`), and one with other characters than
ASCII names the encoding of its bytes (`name*=encoding'language'value`).

Main definition: `charset`.
-/

namespace ContractVerifier.ContentType

/-! ## Pieces -/

/-- Where cutting stands: the pieces that are complete, the one at hand with its last
character first, and whether a quote is open. -/
structure Cutting where
  done : List Text := []
  current : Text := []
  isOpen : Bool := false

/-- Takes one character. A quote behind a backslash opens and closes nothing. -/
def Cutting.step (s : Cutting) (c : Char) : Cutting :=
  if c = ';' ∧ ¬ s.isOpen then { done := s.current.reverse :: s.done }
  else
    let isQuote := c = '"' ∧ s.current.head? ≠ some '\\'
    { s with current := c :: s.current, isOpen := if isQuote then !s.isOpen else s.isOpen }

/-- The pieces of a content type. -/
def pieces (t : Text) : List Text :=
  let s := t.foldl Cutting.step {}
  (s.current.reverse :: s.done).reverse

/-- The name and the value of a piece; a piece without an equals sign is a name. -/
def parameter (piece : Text) : Text × Text :=
  match Text.cut? ['='] piece with
  | some (name, value) => (Text.lowerLatin (Text.strip name), Text.strip value)
  | none => (Text.strip piece, [])

/-- One `c` for each that stands behind a backslash. -/
def withoutEscapes (c : Char) : Text → Text
  | '\\' :: d :: t =>
    if c = d then c :: withoutEscapes c t else '\\' :: withoutEscapes c (d :: t)
  | d :: t => d :: withoutEscapes c t
  | [] => []

/-- A value without the quotes or angle brackets around it. In quotes, a backslash is escaped
before a quote is. -/
def unquoted (t : Text) : Text :=
  match t with
  | '"' :: c :: rest =>
    if (c :: rest).getLast? = some '"' then
      withoutEscapes '"' (withoutEscapes '\\' (c :: rest).dropLast)
    else t
  | '<' :: c :: rest => if (c :: rest).getLast? = some '>' then (c :: rest).dropLast else t
  | _ => t

/-! ## Parts of a value -/

/-- A part of a value: its number, its text, and whether its bytes are escaped. -/
structure Part where
  number : Option Int
  text : Text
  isEscaped : Bool
  deriving DecidableEq, Repr

/-- Whether `c` may stand in the name of a parameter that has parts. -/
def isNameChar (c : Char) : Bool := c.isAlphanum || c = '_'

/-- The name and the number that the name of a part holds. -/
def partName? (name : Text) : Option (Text × Option Text) :=
  match name.span isNameChar with
  | (c :: base, '*' :: rest) =>
    match rest.span Char.isDigit with
    | ([], []) => some (c :: base, none)
    | (d :: ds, []) => some (c :: base, some (d :: ds))
    | (d :: ds, ['*']) => some (c :: base, some (d :: ds))
    | _ => none
  | _ => none

/-- The value of a parameter: a text, or a text with the name of the encoding that its
characters are bytes in. -/
inductive Value where
  | plain (t : Text)
  | encoded (encoding t : Text)
  deriving DecidableEq, Repr

/-- The parameters behind the type: those with whole values, and those with values in parts
under the names of the parameters. -/
structure Parameters where
  whole : List (Text × Text) := []
  parts : List (Text × List Part) := []

/-- Adds a parameter. The number of a part may have too many digits. -/
def Parameters.add (p : Parameters) (name value : Text) : Except Number.IntError Parameters :=
  match partName? name with
  | none => .ok { p with whole := p.whole ++ [(name, unquoted value)] }
  | some (base, number?) => do
    let number ← match number? with
      | none => .ok none
      | some ds => (Number.readInt ds).map some
    let part := Part.mk number (unquoted value) (name.getLast? = some '*')
    let others := (Association.get? base p.parts).getD []
    return { p with parts := Association.put base (others ++ [part]) p.parts }

/-- Whether a part comes before another: by number, then by text. -/
def Part.isBefore (p q : Part) : Bool :=
  match compare (p.number.getD 0) (q.number.getD 0) with
  | .lt => true
  | .gt => false
  | .eq => p.text < q.text || p.text = q.text && (!p.isEscaped || q.isEscaped)

/-- The parts in order. Parts with a number have no place among those without. -/
def ordered (parts : List Part) : Except Fault (List Part) :=
  let isNumbered := parts.head?.any (·.number.isSome)
  if parts.any fun p => p.number.isSome != isNumbered then
    .error (.unorderedParts (!isNumbered))
  else .ok (parts.mergeSort Part.isBefore)

/-- The value that parts make up. -/
def valueOf (parts : List Part) : Except Fault Value := do
  let parts ← ordered parts
  let text := parts.flatMap fun p =>
    if p.isEscaped then (Url.bytes p.text).map fun b => Char.ofNat b.toNat else p.text
  if parts.any (·.isEscaped) then
    match Text.cut? ['\''] text with
    | some (encoding, rest) =>
      match Text.cut? ['\''] rest with
      | some (_, value) => return .encoded encoding value
      | none => return .encoded [] text
    | none => return .encoded [] text
  else return .plain text

/-! ## The encoding that a content type names -/

/-- The values of the parameters of a content type, in order. What stands first is not cut
into parts. -/
def values (contentType : Text) : Except Fault (List (Text × Value)) := do
  match (pieces contentType).map parameter with
  | [] => return []
  | (name, value) :: rest =>
    let add := fun (p : Parameters) (q : Text × Text) => p.add q.1 q.2
    match rest.foldlM add {} with
    | .error e => throw (.number e)
    | .ok p =>
      let parts ← p.parts.mapM fun q => return (q.1, ← valueOf q.2)
      return (name, .plain (unquoted value)) :: p.whole.map (fun q => (q.1, .plain q.2)) ++ parts

/-- The character set with a label, if it is known. A zero character ends the search. -/
def charset? (label : Text) : Except Fault (Option Charset) :=
  if label.contains '\x00' then .error .zeroInLabel else .ok (Charset.ofLabel? label)

/-- The label that a value is. Its bytes are read in the character set it names, if that is
possible. -/
def Value.label : Value → Except Fault Text
  | plain t => .ok t
  | encoded name t => do
    let charset? ← charset? (if name = [] then "ascii".toList else name)
    let bytes := t.map fun c => UInt8.ofNat c.toNat
    return if t = [] then [] else (charset?.bind (·.decode? bytes)).getD t

/-- The character set that a content type names, if it names one that is known. -/
def charset (contentType : Text) : Except Fault (Option Charset) := do
  let isCharset := fun (p : Text × Value) => Text.lowerLatin p.1 = "charset".toList
  match (← values contentType).find? isCharset with
  | none => return none
  | some (_, value) =>
    let label ← value.label
    if label.all HostName.isAscii then charset? label else return none

end ContractVerifier.ContentType
