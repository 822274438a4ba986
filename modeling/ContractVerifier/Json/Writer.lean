import ContractVerifier.Encoding.Unencodable
import ContractVerifier.Json.Basic

set_option autoImplicit false

/-! # Writing JSON

The JSON text of a value without gaps. Only what may not stand in a text as it is gets
escaped.
-/

namespace ContractVerifier.Json

/-- The letters that stand for characters behind a backslash. -/
def writtenEscapes : List (Char × Char) :=
  [('"', '"'), ('\\', '\\'), ('\x08', 'b'), ('\x0C', 'f'), ('\n', 'n'), ('\r', 'r'), ('\t', 't')]

/-- A character within a text. -/
def writeChar (c : Char) : Text :=
  match writtenEscapes.lookup c with
  | some letter => ['\\', letter]
  | none =>
    if c.toNat < 0x20 then
      "\\u00".toList ++ [Nat.digitChar (c.toNat / 16), Nat.digitChar (c.toNat % 16)]
    else [c]

/-- A text in quotes. -/
def writeText (t : Text) : Text := '"' :: (t.flatMap writeChar ++ ['"'])

mutual

/-- The JSON text of a value. -/
def write : Json → Text
  | .null => "null".toList
  | .bool true => "true".toList
  | .bool false => "false".toList
  | .int n => Text.ofInt n
  | .float x => x.text
  | .text t => writeText t
  | .list items => '[' :: (Text.join [','] (writeItems items) ++ [']'])
  | .object members => '{' :: (Text.join [','] (writeMembers members) ++ ['}'])

/-- The items of a list. -/
def writeItems : List Json → List Text
  | [] => []
  | v :: rest => write v :: writeItems rest

/-- The members of an object. -/
def writeMembers : List (Text × Json) → List Text
  | [] => []
  | (name, v) :: rest => (writeText name ++ ':' :: write v) :: writeMembers rest

end

/-- Why a value cannot be sent. -/
inductive WriteError where
  /-- A number is not finite. -/
  | notFinite
  /-- A character of the JSON text has no bytes. -/
  | unencodable (u : Unencodable)
  deriving DecidableEq, Repr

/-- Checks that a value can be sent. -/
def checkWritable (v : Json) : Except WriteError Unit :=
  if !v.isFinite then .error .notFinite
  else
    match Unencodable.find? .utf8 v.write with
    | some u => .error (.unencodable u)
    | none => .ok ()

end ContractVerifier.Json
