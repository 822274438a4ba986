import ContractVerifier.Json.Basic
import ContractVerifier.Encoding.Choice
import ContractVerifier.Text.Digit

set_option autoImplicit false

/-! # Reading JSON

A reader for JSON texts that says exactly where a text goes wrong. Beyond the standard it
reads `NaN`, `Infinity` and `-Infinity`; of two members with one name the later value
counts. How deep values may be nested is up to whoever reads: the reader calls itself for each
value inside another, and calls can be nested only so deep, from where it is called on.

The reader walks over the text with a **cursor**: how many characters are behind and which
are ahead.
-/

namespace ContractVerifier.Json

/-- What is wrong at a place of a text. -/
inductive Problem where
  | value
  | name
  | colon
  | comma
  | extra
  | unterminated
  | escape
  | unicodeEscape
  | control
  | mark
  deriving DecidableEq, Repr

/-- The wording of a problem. -/
def Problem.message : Problem → String
  | value => "Expecting value"
  | name => "Expecting property name enclosed in double quotes"
  | colon => "Expecting ':' delimiter"
  | comma => "Expecting ',' delimiter"
  | extra => "Extra data"
  | unterminated => "Unterminated string starting at"
  | escape => "Invalid \\escape"
  | unicodeEscape => "Invalid \\uXXXX escape"
  | control => "Invalid control character at"
  | mark => "Unexpected UTF-8 BOM (decode using utf-8-sig)"

/-- A problem and where it is: lines and columns count from one, characters from zero. -/
structure SyntaxError where
  problem : Problem
  line : Nat
  column : Nat
  position : Nat
  deriving DecidableEq, Repr

/-- The wording of an error. -/
def SyntaxError.message (e : SyntaxError) : String :=
  e.problem.message ++ ": line " ++ toString e.line ++ " column " ++ toString e.column ++
    " (char " ++ toString e.position ++ ")"

/-- The lists and objects, where it matters which of the two is nested too deeply. -/
inductive Nesting where
  | array
  | object
  deriving DecidableEq, Repr

/-- Why a document is not read. -/
inductive ReadError where
  | syntaxError (e : SyntaxError)
  /-- A whole number with too many digits. -/
  | number (e : Number.IntError)
  /-- Values nested too deeply. -/
  | depth (nesting : Nesting)
  /-- The bytes are no text. -/
  | encoding (e : DecodeError)
  deriving DecidableEq, Repr

/-- The wording of an error. -/
def ReadError.message : ReadError → String
  | syntaxError e => e.message
  | number e => e.message
  | depth .array => "maximum recursion depth exceeded while decoding a JSON array from a unicode string"
  | depth .object => "maximum recursion depth exceeded while decoding a JSON object from a unicode string"
  | encoding e => e.message

/-- Where the reader stands: how many characters are behind it, and which are ahead. -/
structure Cursor where
  position : Nat
  rest : Text

/-- Why reading stops at a place: the place is filled in as line and column at the end. -/
inductive Stop where
  | at (problem : Problem) (position : Nat)
  | number (e : Number.IntError)
  | depth (nesting : Nesting)

/-- A part of the document and the place behind it. -/
abbrev Step (α : Type) := Except Stop (α × Cursor)

/-- How deep values may be nested as a rule: what is left of a thousand calls where the reader is
called from not too deep. -/
def usualDepth : Nat := 960

/-- Whether `c` may stand between the parts of a document. -/
def isGap (c : Char) : Bool := c = ' ' || c = '\t' || c = '\n' || c = '\r'

/-- Passes over the gap ahead. -/
def skipGap (position : Nat) : Text → Cursor
  | [] => ⟨position, []⟩
  | c :: rest => if isGap c then skipGap (position + 1) rest else ⟨position, c :: rest⟩

/-- The value of four hexadecimal digits. -/
def hex4? (a b c d : Char) : Option Nat := do
  let a ← Text.hexValue? a
  let b ← Text.hexValue? b
  let c ← Text.hexValue? c
  let d ← Text.hexValue? d
  return ((a * 16 + b) * 16 + c) * 16 + d

/-- The character that a letter stands for behind a backslash. -/
def simpleEscape? (c : Char) : Option Char :=
  if c = '"' ∨ c = '\\' ∨ c = '/' then some c
  else if c = 'b' then some (Char.ofNat 8)
  else if c = 'f' then some (Char.ofNat 12)
  else if c = 'n' then some '\n'
  else if c = 'r' then some '\r'
  else if c = 't' then some '\t'
  else none

/-- The second half of a pair of surrogates: none if the text ahead is not one, else the
value and the text behind it. A wrong digit in it is an error. -/
def secondHalf (ahead : Text) : Option (Option (Nat × Text)) :=
  match ahead with
  | '\\' :: 'u' :: a :: b :: c :: d :: x :: rest =>
    match hex4? a b c d with
    | some n => some (if Wide.isLowSurrogate n then some (n, x :: rest) else none)
    | none => none
  | _ => some none

theorem secondHalf_length {ahead rest : Text} {n : Nat}
    (h : secondHalf ahead = some (some (n, rest))) : rest.length < ahead.length := by
  unfold secondHalf at h
  split at h
  · split at h
    · split at h
      · simp only [Option.some.injEq, Prod.mk.injEq] at h
        rw [← h.2]
        simp
      · simp at h
    · simp at h
  · simp at h

/-- Reads a text up to its closing quote. `start` is the place of the opening quote, and
`done` holds the characters so far, last first. -/
def readText (start : Nat) (done : Text) (position : Nat) (ahead : Text) : Step Text :=
  match ahead with
  | [] => .error (.at .unterminated start)
  | '"' :: rest => .ok (done.reverse, ⟨position + 1, rest⟩)
  | '\\' :: 'u' :: a :: b :: c :: d :: x :: rest =>
    match hex4? a b c d with
    | none => .error (.at .unicodeEscape (position + 1))
    | some n =>
      -- a first half takes its partner along
      if Wide.isHighSurrogate n then
        match h : secondHalf (x :: rest) with
        | none => .error (.at .unicodeEscape (position + 7))
        | some (some (low, rest')) =>
          have : rest'.length < (x :: rest).length := secondHalf_length h
          readText start (Wide.joinSurrogates n low :: done) (position + 12) rest'
        | some none => readText start (Text.ofCode n :: done) (position + 6) (x :: rest)
      else readText start (Text.ofCode n :: done) (position + 6) (x :: rest)
  | '\\' :: 'u' :: _ => .error (.at .unicodeEscape (position + 1))
  | ['\\'] => .error (.at .unterminated start)
  | '\\' :: c :: rest =>
    match simpleEscape? c with
    | some e => readText start (e :: done) (position + 2) rest
    | none => .error (.at .escape position)
  | c :: rest =>
    if c.toNat < 0x20 then .error (.at .control position)
    else readText start (c :: done) (position + 1) rest
termination_by ahead.length
decreasing_by all_goals simp_all <;> omega

/-- The longest number ahead: its text, whether it is whole, and the text behind it. -/
def numberAhead? (ahead : Text) : Option (Text × Bool × Text) :=
  let (sign, body) := match ahead with
    | '-' :: rest => (['-'], rest)
    | _ => ([], ahead)
  let whole? := match body with
    | '0' :: rest => some (['0'], rest)
    | _ =>
      let ds := body.takeWhile Char.isDigit
      if ds.isEmpty then none else some (ds, body.drop ds.length)
  whole?.map fun (whole, rest) =>
    let fraction := match rest with
      | '.' :: r =>
        let ds := r.takeWhile Char.isDigit
        if ds.isEmpty then [] else '.' :: ds
      | _ => []
    let rest := rest.drop fraction.length
    let exponent := match rest with
      | c :: r =>
        if c = 'e' ∨ c = 'E' then
          let sign := match r with
            | '+' :: _ => ['+']
            | '-' :: _ => ['-']
            | _ => []
          let ds := (r.drop sign.length).takeWhile Char.isDigit
          if ds.isEmpty then [] else c :: (sign ++ ds)
        else []
      | [] => []
    (sign ++ whole ++ fraction ++ exponent, fraction.isEmpty && exponent.isEmpty,
      rest.drop exponent.length)

/-- The words that are values. -/
def words : List (String × Json) :=
  [("null", .null), ("true", .bool true), ("false", .bool false), ("NaN", .float .notANumber),
   ("Infinity", .float (.infinity false)), ("-Infinity", .float (.infinity true))]

/-- Reads a number or a word. -/
def readScalar (here : Cursor) : Step Json :=
  -- words first: a minus sign may begin a word or a number
  let word? := words.findSome? fun w =>
    (Text.after? w.1.toList here.rest).map fun rest => (w.2, ⟨here.position + w.1.length, rest⟩)
  match word? with
  | some found => .ok found
  | none =>
    match numberAhead? here.rest with
    | none => .error (.at .value here.position)
    | some (t, isWhole, rest) =>
      let there := ⟨here.position + t.length, rest⟩
      if isWhole then
        match Number.readInt t with
        | .ok n => .ok (.int n, there)
        | .error e => .error (.number e)
      else
        match Number.readDecimal? t with
        | some r => .ok (.float r.toBinary64, there)
        | none => .error (.at .value here.position)

/-- Reads the items of a list, the first of which is ahead. The bound is the number of
items there can be. -/
def readItems (read : Cursor → Step Json) : Nat → List Json → Cursor → Step (List Json)
  | 0, _, here => .error (.at .value here.position)
  | bound + 1, done, here =>
    match read here with
    | .error e => .error e
    | .ok (v, there) =>
      let there := skipGap there.position there.rest
      match there.rest with
      | ']' :: rest => .ok ((v :: done).reverse, ⟨there.position + 1, rest⟩)
      | ',' :: rest => readItems read bound (v :: done) (skipGap (there.position + 1) rest)
      | _ => .error (.at .comma there.position)

/-- Reads one member of an object: its name, a colon, its value. -/
def readMember (read : Cursor → Step Json) (here : Cursor) : Step (Text × Json) :=
  match here.rest with
  | '"' :: rest =>
    match readText here.position [] (here.position + 1) rest with
    | .error e => .error e
    | .ok (name, there) =>
      let there := skipGap there.position there.rest
      match there.rest with
      | ':' :: rest =>
        match read (skipGap (there.position + 1) rest) with
        | .error e => .error e
        | .ok (v, there) => .ok ((name, v), there)
      | _ => .error (.at .colon there.position)
  | _ => .error (.at .name here.position)

/-- Reads the members of an object, the first of which is ahead. The bound is the number of
members there can be. -/
def readMembers (read : Cursor → Step Json) :
    Nat → List (Text × Json) → Cursor → Step (List (Text × Json))
  | 0, _, here => .error (.at .name here.position)
  | bound + 1, done, here =>
    match readMember read here with
    | .error e => .error e
    | .ok ((name, v), there) =>
      let done := Association.put name v done
      let there := skipGap there.position there.rest
      match there.rest with
      | '}' :: rest => .ok (done, ⟨there.position + 1, rest⟩)
      | ',' :: rest => readMembers read bound done (skipGap (there.position + 1) rest)
      | _ => .error (.at .comma there.position)

/-- Reads a value in which lists and objects may be nested `depth` deep; `bound` is at least
the number of characters. -/
def readValue (bound : Nat) : Nat → Cursor → Step Json
  | depth, here =>
    match here.rest with
    | '"' :: rest =>
      match readText here.position [] (here.position + 1) rest with
      | .error e => .error e
      | .ok (t, there) => .ok (.text t, there)
    | '[' :: rest =>
      match depth with
      | 0 => .error (.depth .array)
      | depth + 1 =>
        let inside := skipGap (here.position + 1) rest
        match inside.rest with
        | ']' :: rest => .ok (.list [], ⟨inside.position + 1, rest⟩)
        | _ =>
          match readItems (readValue bound depth) bound [] inside with
          | .error e => .error e
          | .ok (items, there) => .ok (.list items, there)
    | '{' :: rest =>
      match depth with
      | 0 => .error (.depth .object)
      | depth + 1 =>
        let inside := skipGap (here.position + 1) rest
        match inside.rest with
        | '}' :: rest => .ok (.object [], ⟨inside.position + 1, rest⟩)
        | _ =>
          match readMembers (readValue bound depth) bound [] inside with
          | .error e => .error e
          | .ok (members, there) => .ok (.object members, there)
    | _ => readScalar here

/-- The error for a problem at a place of the document `t`. -/
def locate (t : Text) (problem : Problem) (position : Nat) : SyntaxError :=
  let before := t.take position
  let line := before.count '\n' + 1
  let column := (before.reverse.takeWhile (· ≠ '\n')).length + 1
  ⟨problem, line, column, position⟩

/-- The error that stops reading the document `t`. -/
def Stop.toReadError (t : Text) : Stop → ReadError
  | .at problem position => .syntaxError (locate t problem position)
  | .number e => .number e
  | .depth nesting => .depth nesting

/-- The value of a whole document, which may start with a byte order mark and in which values may be
nested `depth` deep. -/
def readDocument (t : Text) (depth : Nat) : Except ReadError Json :=
  let start := skipGap 0 t
  match readValue (t.length + 1) depth start with
  | .error e => .error (e.toReadError t)
  | .ok (v, there) =>
    let there := skipGap there.position there.rest
    if there.rest.isEmpty then .ok v
    else .error (.syntaxError (locate t .extra there.position))

/-- The value of a text, which may not start with a byte order mark. -/
def read (t : Text) (depth : Nat := usualDepth) : Except ReadError Json :=
  if t.head? = some (Char.ofNat 0xFEFF) then .error (.syntaxError (locate t .mark 0))
  else readDocument t depth

/-- The value of some bytes, in whatever encoding they show. -/
def readBytes (bytes : List UInt8) (depth : Nat) : Except ReadError Json :=
  match (Encoding.ofJsonBytes bytes).decode true bytes with
  | .error e => .error (.encoding e)
  | .ok t => readDocument t depth

end ContractVerifier.Json
