import ContractVerifier.Config.Basic
import ContractVerifier.Flatten.ImportGraph

set_option autoImplicit false

/-! # Flatten backends

A backend makes one source of a file on disk and what it imports. The verifier has two of
its own: inlining along the import graph, and the `forge flatten` command.

A command is run by a `CommandRunner`; what it is asked to run is a value (`Command`), so
that what is run can be told without running it.
-/

namespace ContractVerifier

/-- A command line, the directory it runs in and the seconds it may take. -/
structure Command where
  arguments : List Text
  directory : Text
  timeout : Json

/-- How a command ended: its status and what it wrote. -/
structure Completion where
  status : Int
  output : Text
  errors : Text
  deriving DecidableEq, Repr

/-- Runs a command to its end, or says why it did not get there. -/
abbrev CommandRunner := Command → Except Fault Completion

namespace Flatten

/-- Something that flattens files. -/
inductive Backend where
  /-- Inlines along the import graph, where files can be nested this deep. -/
  | importGraph (depth : Nat := usualDepth)
  | forge (binary : Text) (timeout : Json)
  /-- Any other way to flatten the file at a path with libraries below an import root. What
  comes out should be a text. -/
  | other (run : Tree → Path → Path → Except Fault Json)

/-- The command with which `forge` flattens a file, run from the project's directory. -/
def forgeCommand (binary : Text) (timeout : Json) (entry importRoot : Path) : Command :=
  ⟨[binary, "flatten".toList, entry.text], importRoot.parent.text, timeout⟩

/-- The most characters of a command's complaints that are passed on. -/
def maxComplaint : Nat := 2000

/-- What the `forge` command makes of a file. A command that cannot be run, or ends with
another status than zero, makes no source. -/
def flattenForge (run : CommandRunner) (binary : Text) (timeout : Json)
    (entry importRoot : Path) : Except Fault Text :=
  match run (forgeCommand binary timeout entry importRoot) with
  | .error fault =>
    if fault.isNotRun then
      .error (.service (.flatten ("Could not run ".toList ++ binary ++ " flatten".toList)
        (some (.text fault.message))))
    else .error fault
  | .ok completion =>
    if completion.status = 0 then .ok completion.output
    else
      .error (.service (.flatten
        (binary ++ " flatten exited with status ".toList ++ Text.ofInt completion.status)
        (some (.text ((Text.strip completion.errors).take maxComplaint)))))

namespace Backend

/-- Flattens the file at `entry` with libraries below `importRoot`. -/
def flatten (run : CommandRunner) (b : Backend) (t : Tree) (entry importRoot : Path) :
    Except Fault Json :=
  match b with
  | importGraph depth => (flattenGraph depth t entry importRoot).map .text
  | forge binary timeout => (flattenForge run binary timeout entry importRoot).map .text
  | other f => f t entry importRoot

/-- The command the backend runs for a file, if it runs one. -/
def command? (b : Backend) (entry importRoot : Path) : Option Command :=
  match b with
  | forge binary timeout => some (forgeCommand binary timeout entry importRoot)
  | _ => none

/-- The name of the backend. -/
def name : Backend → String
  | importGraph _ => "ImportGraphFlattener"
  | forge .. => "ForgeFlattener"
  | other _ => "Backend"

/-- The backend that is configured, for imports that can be nested `depth` deep. -/
def ofConfig (c : FlattenerConfig) (depth : Nat := usualDepth) : Except Fault Backend :=
  if c.backend = "import_graph".toList then .ok (importGraph depth)
  else if c.backend = "forge".toList then .ok (forge c.forgeBinary c.forgeTimeout)
  else .error (.unknownBackend c.backend)

/-- A backend that gives the same answer for every file. -/
def constant (answer : Json) : Backend := other fun _ _ _ => .ok answer

/-- A backend that fails for every file. -/
def failing (fault : Fault) : Backend := other fun _ _ _ => .error fault

/-- A backend that gives every file back as it is, behind a fixed beginning. -/
def echoing (beginning : Text) : Backend :=
  other fun t entry _ =>
    match t.readBytes entry with
    | .error e => .error (.file e)
    | .ok bytes =>
      match Utf8.decode bytes with
      | .error e => .error (.encoding e)
      | .ok text => .ok (.text (beginning ++ text))

end Backend

end Flatten

end ContractVerifier
