import ContractVerifier.Association
import ContractVerifier.Number.Binary64

set_option autoImplicit false

/-! # JSON values

A JSON value. Whole numbers are kept exactly and fractions as binary fractions. An object
keeps its members in the order in which their names first appeared, each name once.
-/

namespace ContractVerifier

/-- A JSON value. -/
inductive Json where
  | null
  | bool (b : Bool)
  | int (n : Int)
  | float (x : Number.Binary64)
  | text (t : Text)
  | list (items : List Json)
  | object (members : List (Text × Json))
  deriving Inhabited

namespace Json

/-- A text given as a literal. -/
def string (s : String) : Json := .text s.toList

/-- An object with the given names. -/
def ofMembers (members : List (String × Json)) : Json :=
  .object (members.map fun m => (m.1.toList, m.2))

/-- The member called `name`, if the value is an object that has one. -/
def member? (name : String) : Json → Option Json
  | .object members => Association.get? name.toList members
  | _ => none

/-- The object with one more member. -/
def insert (v : Json) (name : String) (value : Json) : Json :=
  match v with
  | .object members => .object (Association.put name.toList value members)
  | other => other

/-- The texts among the items of a list, or the names of an object's members. -/
def contents? : Json → Option (List Text)
  | .list items => some (items.filterMap fun v => match v with
      | .text t => some t
      | _ => none)
  | .object members => some (members.map (·.1))
  | _ => none

/-- Whether a value counts as given: everything but `null`, `false`, zero, and what is
empty. -/
def isGiven : Json → Bool
  | .null => false
  | .bool b => b
  | .int n => n ≠ 0
  | .float x => !x.isZero
  | .text t => !t.isEmpty
  | .list items => !items.isEmpty
  | .object members => !members.isEmpty

mutual

/-- Whether every number in the value is finite, so that the value has a JSON text. -/
def isFinite : Json → Bool
  | .float x => x.isFinite
  | .list items => itemsFinite items
  | .object members => membersFinite members
  | _ => true

/-- `isFinite` of all items. -/
def itemsFinite : List Json → Bool
  | [] => true
  | v :: rest => isFinite v && itemsFinite rest

/-- `isFinite` of all members. -/
def membersFinite : List (Text × Json) → Bool
  | [] => true
  | (_, v) :: rest => isFinite v && membersFinite rest

end

end Json

end ContractVerifier
