import ContractVerifier.Json.Basic
import ContractVerifier.Text.Quoted

set_option autoImplicit false

/-! # Showing JSON values

A value where a text is expected: a text stands for itself, and everything else is shown
with the names below. Texts inside lists and objects are quoted.
-/

namespace ContractVerifier.Json

mutual

/-- A value inside a list or an object. -/
def shown : Json → Text
  | .null => "None".toList
  | .bool true => "True".toList
  | .bool false => "False".toList
  | .int n => Text.ofInt n
  | .float x => x.text
  | .text t => Text.quoted t
  | .list items => '[' :: (Text.join ", ".toList (shownItems items) ++ [']'])
  | .object members => '{' :: (Text.join ", ".toList (shownMembers members) ++ ['}'])

/-- The items of a list, each shown. -/
def shownItems : List Json → List Text
  | [] => []
  | v :: rest => shown v :: shownItems rest

/-- The members of an object, each with its name. -/
def shownMembers : List (Text × Json) → List Text
  | [] => []
  | (name, v) :: rest => (Text.quoted name ++ ": ".toList ++ shown v) :: shownMembers rest

end

/-- A value where a text is expected. -/
def display : Json → Text
  | .text t => t
  | other => shown other

/-- What kind of value it is. -/
def kind : Json → String
  | .null => "NoneType"
  | .bool _ => "bool"
  | .int _ => "int"
  | .float _ => "float"
  | .text _ => "str"
  | .list _ => "list"
  | .object _ => "dict"

end ContractVerifier.Json
