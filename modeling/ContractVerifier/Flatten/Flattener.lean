import ContractVerifier.Flatten.Backend
import ContractVerifier.Flatten.Staging
import ContractVerifier.Registry.BuiltIn

set_option autoImplicit false

/-! # Flattening a source

A source with imports is staged, flattened by a backend, and what imports remain are looked
up in the registry. Flattening **fails open**: if any of this goes wrong, the source stays
as it is and the result says why.

Main definitions: `Flattener` and `Flattener.flatten`.
-/

namespace ContractVerifier

/-- The text of a source and the file it came from. -/
structure ContractSource where
  text : Text
  origin : Text := "Contract.sol".toList
  deriving DecidableEq, Repr

/-- The same file with another text. -/
def ContractSource.withText (s : ContractSource) (text : Text) : ContractSource :=
  { s with text }

/-- What became of a source. -/
inductive FlattenResult where
  /-- There was nothing to flatten. -/
  | untouched (source : ContractSource)
  /-- Flattening failed; the source is as it was. -/
  | failed (source : ContractSource) (error : Text)
  /-- The source was flattened; some imports may be left. -/
  | flattened (source : ContractSource) (unresolved : List Text)
  deriving DecidableEq, Repr

namespace FlattenResult

/-- The source to go on with. -/
def source : FlattenResult → ContractSource
  | untouched s => s
  | failed s _ => s
  | flattened s _ => s

/-- Whether the source was flattened. -/
def isFlattened : FlattenResult → Bool
  | flattened .. => true
  | _ => false

/-- The imports that are left in a flattened source. -/
def unresolved : FlattenResult → List Text
  | flattened _ imports => imports
  | _ => []

/-- Why flattening failed, if it did. -/
def error? : FlattenResult → Option Text
  | failed _ e => some e
  | _ => none

end FlattenResult

/-- What flattens sources: a backend, a registry for what the backend leaves, where libraries
are, and where sources are staged. -/
structure Flattener where
  backend : Flatten.Backend
  registry : Registry
  importRoot : Location
  scratchDir : Option Text

/-- What a flattener needs from the system. -/
structure Flatten.System where
  run : CommandRunner
  scratch : Flatten.Scratch

/-- How deep what is read can be nested: imports, and values in the registry's file. -/
structure Flatten.Depths where
  imports : Nat := usualDepth
  values : Nat := Json.usualDepth
  deriving DecidableEq, Repr

/-- What happened in one call: the result or a fault that nothing was made of, the file the
backend was given, if it was asked, and the tree afterwards. -/
structure Flatten.Call where
  result : Except Fault FlattenResult
  staged : Option Path
  tree : Tree

namespace Flattener

open Flatten

/-- The flattener that is configured. What is given takes precedence over what is configured,
a registry without entries and an empty import root not being given. -/
def make (t : Tree) (c : FlattenerConfig) (backend : Option Backend) (registry : Option Registry)
    (importRoot : Option Text) (scratchDir : Option Text) (chosen : Registry.Chosen)
    (depths : Depths := {}) : Except Fault (Flattener × Registry.Chosen) :=
  match backend.elim (Backend.ofConfig c depths.imports) .ok with
  | .error e => .error e
  | .ok backend =>
    let given := registry.filter (·.size ≠ 0)
    match given.elim (Registry.choose t c.registryPath chosen depths.values)
      fun r => (.ok r, chosen) with
    | (.error e, _) => .error e
    | (.ok registry, chosen) =>
      let root := (importRoot.filter (· ≠ [])).getD c.importRoot
      match t.resolve (Path.ofText root) with
      | .error e => .error (.file e)
      | .ok importRoot =>
        .ok (⟨backend, registry, importRoot, scratchDir.orElse fun _ => c.scratchDir⟩, chosen)

/-- Stages a source: the call's directory, the staged file and the tree with both. If the
file cannot be written, the directory is removed again. -/
def stage (f : Flattener) (s : Scratch) (t : Tree) (text contractName : Text) :
    Except (Fault × Tree) (Path × Path × Tree) :=
  let safe := safeName contractName
  match openScratch f.scratchDir t with
  | .error (e, t) => .error (.file e, t)
  | .ok t =>
    match createDirectory (s.directory f.scratchDir) safe t s.endings with
    | .error e => .error (e, t)
    | .ok (directory, t) =>
      match writeSource (stagedFile directory safe) text t with
      | .error fault => .error (fault, removeDirectory directory t)
      | .ok t => .ok (directory, stagedFile directory safe, t)

/-- What becomes of a backend's answer, in which the imports that remain are looked up. Only
a text can be gone on with. -/
def resolve (f : Flattener) (source : ContractSource) (answer : Json) :
    Except Fault FlattenResult :=
  match f.registry.substituteValue answer with
  | .error fault => .ok (.failed source fault.describe)
  | .ok (.text t) => .ok (.flattened (source.withText t) (Solidity.findImports t))
  -- only here is a fault not made a result
  | .ok v => .error (.notSearchable v.kind)

/-- Flattens a source. -/
def flatten (f : Flattener) (sys : System) (t : Tree) (source : ContractSource)
    (contractName : Text) : Call :=
  if Solidity.imports source.text = [] then ⟨.ok (.untouched source), none, t⟩
  else
    match f.stage sys.scratch t source.text contractName with
    | .error (fault, t) => ⟨.ok (.failed source fault.describe), none, t⟩
    | .ok (directory, file, staged) =>
      let answer := f.backend.flatten sys.run staged file (.ofLocation f.importRoot)
      -- the directory goes whatever the answer is
      let t := removeDirectory directory staged
      match answer with
      | .error fault => ⟨.ok (.failed source fault.describe), some file, t⟩
      | .ok answer => ⟨f.resolve source answer, some file, t⟩

end Flattener

end ContractVerifier
