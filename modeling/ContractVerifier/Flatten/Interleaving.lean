import ContractVerifier.Flatten.Flattener

set_option autoImplicit false

/-! # Calls at the same time

Flattening goes in steps, and other calls can take steps in between: all of them share one flattener
and one tree. How far a call is, and what it knows by then, is its `Phase`.

Main definitions: `Flattener.advance`, one step of one call, and `Interleaving`, the states that
calls come to when they take their steps in any order. A call's directory is only ever made under a
name that is not in use then.
-/

namespace ContractVerifier

namespace Flatten

/-- What one call is to do, and the ending that the name of its directory gets. -/
structure Task where
  source : ContractSource
  contractName : Text
  ending : Text
  deriving DecidableEq, Repr

namespace Task

/-- The name of the task's directory. -/
def directoryName (task : Task) : Text :=
  "flatten-".toList ++ safeName task.contractName ++ '-' :: task.ending

/-- The system for this task alone. -/
def system (task : Task) (sys : System) : System :=
  { sys with scratch := { sys.scratch with endings := [task.ending] } }

/-- The file that the task's source is staged in. -/
def file (task : Task) (directory : Path) : Path :=
  stagedFile directory (safeName task.contractName)

end Task

/-- How far a call is. -/
inductive Phase where
  | begun
  /-- The scratch directory is there. -/
  | opened
  /-- The call's own directory is there. -/
  | made (directory : Path)
  /-- The source is in its file. -/
  | staged (directory : Path)
  /-- The backend answered, or it is not asked because the source could not be written. -/
  | answered (directory : Path) (answer : Except Fault Json)
  | returned (result : Except Fault FlattenResult)

end Flatten

namespace Flattener

open Flatten

/-- Makes the directory of a task. -/
def makeRoom (f : Flattener) (sys : System) (task : Task) (t : Tree) : Except Fault (Path × Tree) :=
  createDirectory (sys.scratch.directory f.scratchDir) (safeName task.contractName) t [task.ending]

/-- The backend's answer for the staged source of a task. -/
def ask (f : Flattener) (sys : System) (task : Task) (directory : Path) (t : Tree) :
    Except Fault Json :=
  f.backend.flatten sys.run t (task.file directory) (.ofLocation f.importRoot)

/-- What a call makes of the backend's answer. -/
def conclude (f : Flattener) (task : Task) : Except Fault Json → Except Fault FlattenResult
  | .error fault => .ok (.failed task.source fault.describe)
  | .ok answer => f.resolve task.source answer

/-- One step of a call, and what it makes of the tree. -/
def advance (f : Flattener) (sys : System) (task : Task) : Phase × Tree → Phase × Tree
  | (.begun, t) =>
    if Solidity.imports task.source.text = [] then (.returned (.ok (.untouched task.source)), t)
    else
      match openScratch f.scratchDir t with
      | .error (e, t) => (.returned (.ok (.failed task.source (Fault.file e).describe)), t)
      | .ok t => (.opened, t)
  | (.opened, t) =>
    match f.makeRoom sys task t with
    | .error fault => (.returned (.ok (.failed task.source fault.describe)), t)
    | .ok (directory, t) => (.made directory, t)
  | (.made directory, t) =>
    match writeSource (task.file directory) task.source.text t with
    | .error fault => (.answered directory (.error fault), t)
    | .ok t => (.staged directory, t)
  | (.staged directory, t) => (.answered directory (f.ask sys task directory t), t)
  | (.answered directory answer, t) =>
    -- the directory goes whatever the answer is
    (.returned (f.conclude task answer), removeDirectory directory t)
  | (.returned result, t) => (.returned result, t)

end Flattener

namespace Flatten

/-- How far the calls are, and the tree that they share. -/
structure Calls (ι : Type) where
  phase : ι → Phase
  tree : Tree

variable {ι : Type} [DecidableEq ι]

/-- No call has taken a step. -/
def Calls.start (t : Tree) : Calls ι := ⟨fun _ => .begun, t⟩

/-- One call takes a step. -/
def Calls.move (f : Flattener) (sys : System) (tasks : ι → Task) (k : ι) (c : Calls ι) : Calls ι :=
  let next := f.advance sys (tasks k) (c.phase k, c.tree)
  ⟨fun j => if j = k then next.1 else c.phase j, next.2⟩

/-- What calls come to that take their steps in this order, from a tree `t`. Where a call makes its
directory, the name is not in use. -/
inductive Interleaving (f : Flattener) (sys : System) (tasks : ι → Task) (t : Tree) :
    List ι → Calls ι → Prop
  | start : Interleaving f sys tasks t [] (.start t)
  | move {schedule : List ι} {c : Calls ι} (k : ι) (before : Interleaving f sys tasks t schedule c)
      (unused : c.phase k = .opened → f.makeRoom sys (tasks k) c.tree ≠ .error .namesTaken) :
      Interleaving f sys tasks t (schedule ++ [k]) (c.move f sys tasks k)

end Flatten

end ContractVerifier
