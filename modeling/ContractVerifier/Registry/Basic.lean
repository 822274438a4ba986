import ContractVerifier.Association
import ContractVerifier.Fault

set_option autoImplicit false

/-! # Registries of well-known sources

Some imports name packages that are declared but never put on disk. A registry holds their
sources, each under the exact text of the import statement. It looks statements up; it does
not resolve paths.

Main definition: `Registry.substitute`, which puts the sources in the place of their
statements.
-/

namespace ContractVerifier

/-- A named and versioned table from import statements to sources, in the order in which
the statements were entered. -/
structure Registry where
  name : Text
  version : Text
  entries : List (Text × Text)
  deriving DecidableEq, Repr

namespace Registry

/-- The registry with these entries. A statement entered again gets a new source and keeps
its place. -/
def ofEntries (name version : Text) (entries : List (Text × Text)) : Registry :=
  ⟨name, version, Association.ofPairs entries⟩

/-- The source for exactly this statement. -/
def lookup (r : Registry) (statement : Text) : Option Text :=
  Association.get? statement r.entries

/-- The source for a value that may be a text. Lists and objects cannot be looked up. -/
def lookupValue (r : Registry) : Json → Except Fault (Option Text)
  | .text t => .ok (r.lookup t)
  | .list items => .error (.notLookedUp (Json.list items).kind)
  | .object members => .error (.notLookedUp (Json.object members).kind)
  | _ => .ok none

/-- The registered statements. -/
def statements (r : Registry) : List Text := r.entries.map Prod.fst

/-- The number of entries. -/
def size (r : Registry) : Nat := r.entries.length

/-- Puts the source of one entry in the place of its statement: the first occurrence becomes
the source, later ones are dropped, so that what it defines appears once. An empty statement
occurs everywhere and has no place. -/
def substituteEntry (entry : Text × Text) (t : Text) : Except Fault Text :=
  match Text.cut? entry.1 t with
  | none => .ok t
  | some (head, tail) =>
    if entry.1 = [] then .error .emptyStatement
    else .ok (head ++ entry.2 ++ Text.eraseAll entry.1 tail)

/-- Puts the registered sources in the place of their statements, entry after entry. -/
def substitute (r : Registry) (t : Text) : Except Fault Text :=
  r.entries.foldlM (fun t entry => substituteEntry entry t) t

/-- `substitute` in a value that may be a text. A value of another kind has statements among
its items or names, where nothing can take their place, or it has none. -/
def substituteValue (r : Registry) : Json → Except Fault Json
  | .text t => (r.substitute t).map .text
  | v =>
    if r.entries = [] then .ok v
    else
      match v.contents? with
      | none => .error (.noContent v.kind)
      | some contents =>
        if r.statements.any contents.contains then .error (.notCuttable v.kind) else .ok v

/-- The registry in one line. -/
def summary (r : Registry) : Text :=
  "DependencyRegistry(name=".toList ++ Text.quoted r.name ++ ", version=".toList ++
    Text.quoted r.version ++ ", entries=".toList ++ Text.ofInt r.size ++ [')']

end Registry

end ContractVerifier
