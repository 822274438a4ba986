import ContractVerifier.Solidity.Header
import ContractVerifier.Text.Word
import ContractVerifier.Text.Digit
import ContractVerifier.Config.Basic

set_option autoImplicit false

/-! # Contract name and compiler version

Both are read off the text of a source without parsing it: the name is the word behind the
first `contract`, and the version is what the first `pragma solidity` names, without the
operators. A source that says neither gets a default.
-/

namespace ContractVerifier.Solidity

/-- What is known of a contract before it is compiled. -/
structure Metadata where
  name : Text
  compilerVersion : Text
  deriving DecidableEq, Repr

/-- What `read` gives at the first place of `t` where it gives anything. -/
def firstAnywhere {α : Type} (read : Text → Option α) : Text → Option α
  | [] => read []
  | c :: t =>
    match read (c :: t) with
    | some v => some v
    | none => firstAnywhere read t

/-- The name that a text declares where it begins: the word behind `contract` and white
space. -/
def nameHere? (t : Text) : Option Text :=
  match Text.after? "contract".toList t with
  | none => none
  | some t =>
    let (gap, t) := Header.blanksAhead t
    let name := t.takeWhile Text.isWord
    if gap = [] ∨ name = [] then none else some name

/-- The name of a contract whose source declares none. -/
def defaultName : Text := "Contract".toList

/-- The name of the contract a source declares first. -/
def contractName (source : Text) : Text :=
  (firstAnywhere nameHere? source).getD defaultName

/-- The versions that a pragma names where a text begins: what stands between `solidity`
with the white space behind it and the semicolon. They are not empty: if only white space
stands there, the last of it counts, and a single white space character is not enough. -/
def versionsHere? (t : Text) : Option Text :=
  match Text.after? "pragma".toList t with
  | none => none
  | some t =>
    let (gap, t) := Header.blanksAhead t
    match Text.after? "solidity".toList t with
    | none => none
    | some t =>
      let (gap', t) := Header.blanksAhead t
      let versions := t.takeWhile (· ≠ ';')
      if gap = [] ∨ gap' = [] ∨ t.length = versions.length then none
      else if versions = [] then if gap'.length = 1 then none else some (gap'.drop (gap'.length - 1))
      else some versions

/-- Whether `c` belongs to a version number. -/
def isVersionChar (c : Char) : Bool := c = '.' || Text.isDigit c

/-- The version of the compiler a source asks for. -/
def compilerVersion (d : CompilerDefaults) (source : Text) : Text :=
  match firstAnywhere versionsHere? source with
  | none => d.defaultCompilerVersion
  | some versions =>
    let version := versions.filter isVersionChar
    if version = [] then d.defaultCompilerVersion else d.fullVersion version

/-- What a source says of its contract. -/
def metadata (d : CompilerDefaults) (source : Text) : Metadata :=
  ⟨contractName source, compilerVersion d source⟩

end ContractVerifier.Solidity
