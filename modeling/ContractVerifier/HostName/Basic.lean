import ContractVerifier.Encoding.Punycode
import ContractVerifier.HostName.Label
import ContractVerifier.Text.Lower

set_option autoImplicit false

/-! # Names of hosts

A host's name consists of labels with points between. Beyond ASCII a label has two forms: in
its own characters, and **encoded** in ASCII behind a beginning that tells it.

Main definitions: `encode` gives the encoded form of a name and `decode` the form in its own
characters. Both check every label.
-/

namespace ContractVerifier.HostName

/-- Whether `c` stands between two labels. -/
def isPoint (c : Char) : Bool :=
  c = '.' || c.toNat = 0x3002 || c.toNat = 0xFF0E || c.toNat = 0xFF61

/-- The labels of a name, and whether a point ends it. -/
def labels (name : Text) : List Text × Bool :=
  let labels := Text.split '.' (name.map fun c => if isPoint c then '.' else c)
  if labels.getLast? = some [] then (labels.dropLast, true) else (labels, false)

/-- The labels as a name. -/
def ofLabels (labels : List Text) (hasEnd : Bool) : Text :=
  Text.join ['.'] (labels ++ if hasEnd then [[]] else [])

/-- The beginning of an encoded label. -/
def encodedStart : Text := "xn--".toList

/-- Whether `c` is an ASCII character. -/
def isAscii (c : Char) : Bool := c.toNat < 0x80

/-- The label in its own characters that an ASCII label stands for. -/
def decodeAscii (label : Text) : Except Problem Text :=
  let label := Text.lowerLatin label
  match Text.after? encodedStart label with
  | none => (check label).map fun _ => label
  | some [] => .error .nothingEncoded
  | some (c :: t) =>
    if (c :: t).getLast? = some '-' then .error .encodedHyphen
    else
      match Punycode.decode? (c :: t) with
      | none => .error .notDecodable
      | some label => (check label).map fun _ => label

/-- A label in its own characters. -/
def decodeLabel (label : Text) : Except Problem Text :=
  if label.all isAscii then decodeAscii label else (check label).map fun _ => label

/-- The most characters an encoded label may have. -/
def maxLabel : Nat := 63

/-- A label in ASCII. -/
def encodeLabel (label : Text) : Except Problem Text :=
  let encoded :=
    if label.all isAscii then (decodeAscii label).map fun _ => label
    else (check label).map fun _ => encodedStart ++ Punycode.encode label
  match encoded with
  | .error e => .error e
  | .ok t => if maxLabel < t.length then .error .longLabel else .ok t

/-- The most characters a name may have, a point at its end not counted. -/
def maxName : Nat := 253

/-- A name whose labels are changed one by one. -/
def mapLabels (f : Text → Except Problem Text) (name : Text) : Except Problem (Text × Bool) :=
  if maxName + 1 < name.length then .error .longName
  else
    let (labels, hasEnd) := labels name
    if name = [] then .error .emptyName
    else (labels.mapM f).map fun labels => (ofLabels labels hasEnd, hasEnd)

/-- A name in ASCII. -/
def encode (name : Text) : Except Problem Text :=
  match mapLabels encodeLabel name with
  | .error e => .error e
  | .ok (t, hasEnd) =>
    if maxName + (if hasEnd then 1 else 0) < t.length then .error .longName else .ok t

/-- A name in its own characters. -/
def decode (name : Text) : Except Problem Text := (mapLabels decodeLabel name).map (·.1)

end ContractVerifier.HostName
