import ContractVerifier.Files.Change
import ContractVerifier.Fault
import ContractVerifier.Text.Word

set_option autoImplicit false

/-! # Staging

Backends work on files, so a source is put into a file first: in a directory of its own
inside the scratch directory, under a name that is not in use, so that flattening the same
contract twice at once does no harm. The directory is removed afterwards, whatever happened.

Each step is a function on trees: `openScratch`, `createDirectory`, `writeSource` and
`removeDirectory`.
-/

namespace ContractVerifier.Flatten

/-- Where scratch directories go if none is configured, and the endings that are tried for
their names, in order. -/
structure Scratch where
  systemDir : Path
  endings : List Text
  deriving DecidableEq, Repr

/-- A contract's name as part of a file name: characters that are not word characters become
underscores, and a contract without a name gets one. -/
def safeName (contractName : Text) : Text :=
  if contractName = [] then "Contract".toList
  else contractName.map fun c => if Text.isWord c then c else '_'

/-- The configured scratch directory, or the system's, as it is written. -/
def Scratch.directory (s : Scratch) (configured : Option Text) : Text :=
  configured.getD s.systemDir.text

/-- Makes the configured scratch directory if it is not there. -/
def openScratch (configured : Option Text) (t : Tree) : Except (FileFault × Tree) Tree :=
  match configured with
  | some d => t.makeDirectories (Path.ofText d)
  | none => .ok t

/-- The path of a name in a directory, with one slash between if there is none. -/
def pathIn (directory name : Text) : Text :=
  if directory.getLast? = some '/' then directory ++ name else directory ++ '/' :: name

/-- Makes a directory at a path that is used, and complained of, as it is written. -/
def makeDirectoryAt (t : Tree) (path : Text) : Except FileFault Tree :=
  if path.contains '\x00' then .error .zeroCharacter
  else if Tree.maxPath < (Utf8.encode path).length then .error (.refused .nameTooLong path)
  else
    match t.makeDirectory (Path.ofText path) with
    | .error (.refused e _) => .error (.refused e path)
    | r => r

/-- Makes a directory for one call, under the first of the names that is not in use. -/
def createDirectory (scratch safe : Text) (t : Tree) : List Text → Except Fault (Path × Tree)
  | [] => .error .namesTaken
  | ending :: endings =>
    let directory := pathIn scratch ("flatten-".toList ++ safe ++ '-' :: ending)
    match makeDirectoryAt t directory with
    | .ok t' => .ok (Path.ofText directory, t')
    | .error (.refused .alreadyThere _) => createDirectory scratch safe t endings
    | .error fault => .error (.file fault)

/-- The staged file in a call's directory. -/
def stagedFile (directory : Path) (safe : Text) : Path :=
  directory.join ⟨.here, [safe ++ ".sol".toList]⟩

/-- Writes the source into the staged file, if it has bytes. -/
def writeSource (file : Path) (text : Text) (t : Tree) : Except Fault Tree :=
  match t.writeFile file (Utf8.encode text) with
  | .error e => .error (.file e)
  | .ok t =>
    match Unencodable.find? .utf8 text with
    | some u => .error (.unencodable u)
    | none => .ok t

/-- Removes a call's directory and what is in it. -/
def removeDirectory (directory : Path) (t : Tree) : Tree :=
  match t.find directory with
  | .ok (l, _) => t.removeAll l
  | .error _ => t

end ContractVerifier.Flatten
