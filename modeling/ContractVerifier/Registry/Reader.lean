import ContractVerifier.Registry.Basic
import ContractVerifier.Text.Newline

set_option autoImplicit false

/-! # Registry files

A registry file is a JSON object with the members `name`, `version` and `entries`. A file
without a name is named after itself, and one without a version has version 0. Values that
are no texts are shown as texts.
-/

namespace ContractVerifier

/-- The text of a file: its bytes are UTF-8, and every line end becomes a line feed. -/
def Tree.readText (t : Tree) (p : Path) : Except Fault Text :=
  match t.readBytes p with
  | .error e => .error (.file e)
  | .ok bytes =>
    match Utf8.decode bytes with
    | .error e => .error (.encoding e)
    | .ok text => .ok (Text.unifyNewlines text)

namespace Registry

/-- The value of a member as a text, `default` if it is not given. -/
def memberText (members : List (Text × Json)) (name : String) (default : Text) : Text :=
  match Association.get? name.toList members with
  | some v => if v.isGiven then v.display else default
  | none => default

/-- The registry that the content of the file at `path` describes. -/
def ofJson (path : Text) : Json → Except Fault Registry
  | .object members =>
    match Association.get? "entries".toList members with
    | some (.object entries) =>
      .ok (ofEntries (memberText members "name" (Path.ofText path).stem)
        (memberText members "version" ['0'])
        (entries.map fun entry => (entry.1, entry.2.display)))
    | _ => .error (.noEntries path)
  | other => .error (.noMembers other.kind)

/-- Reads the registry file at `path`, in which values may be nested `depth` deep. -/
def load (t : Tree) (path : Text) (depth : Nat := Json.usualDepth) : Except Fault Registry :=
  match t.readText (Path.ofText path) with
  | .error e => .error e
  | .ok text =>
    match Json.read text depth with
    | .error e => .error (.json e)
    | .ok v => ofJson path v

end Registry

end ContractVerifier
