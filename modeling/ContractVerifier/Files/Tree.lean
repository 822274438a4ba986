import ContractVerifier.Files.Path
import ContractVerifier.Encoding.Utf8
import ContractVerifier.Text.Quoted

set_option autoImplicit false

/-! # File trees

A file tree tells for every location what is there: a file with its bytes, a directory, a
link with the path it was given, or nothing. The root is always a directory.

`Tree.walk` follows a path through the tree as the system does: name by name, through
links, and with its limits on names, paths and links. What it refuses is a `FileError`.
-/

namespace ContractVerifier

/-- What stands at a location. -/
inductive Node where
  | file (bytes : List UInt8)
  | directory
  | link (target : Text)
  deriving DecidableEq, Repr

/-- A file tree. Of two entries for one location the first counts. -/
structure Tree where
  entries : List (Location × Node)
  deriving DecidableEq, Repr

/-- Why the system refuses a path. -/
inductive FileError where
  | notFound
  | alreadyThere
  | notDirectory
  | isDirectory
  | nameTooLong
  | linkLoop
  deriving DecidableEq, Repr

/-- The number of an error. -/
def FileError.number : FileError → Nat
  | notFound => 2
  | alreadyThere => 17
  | notDirectory => 20
  | isDirectory => 21
  | nameTooLong => 36
  | linkLoop => 40

/-- The wording of an error. -/
def FileError.reason : FileError → String
  | notFound => "No such file or directory"
  | alreadyThere => "File exists"
  | notDirectory => "Not a directory"
  | isDirectory => "Is a directory"
  | nameTooLong => "File name too long"
  | linkLoop => "Too many levels of symbolic links"

/-- How the use of a path goes wrong. -/
inductive FileFault where
  /-- The system refuses the path. -/
  | refused (error : FileError) (path : Text)
  /-- The path holds a zero character, which no system call takes. -/
  | zeroCharacter
  /-- Following the links of the path never ends. -/
  | endlessLinks (path : Text)
  deriving DecidableEq, Repr

/-- The wording of a fault. -/
def FileFault.message : FileFault → Text
  | refused error path =>
    "[Errno ".toList ++ (toString error.number).toList ++ "] ".toList ++ error.reason.toList ++
      ": ".toList ++ Text.quoted path
  | zeroCharacter => "embedded null byte".toList
  | endlessLinks path => "Symlink loop from ".toList ++ Text.quoted path

namespace Tree

/-- The tree that has only its root. -/
def empty : Tree := ⟨[]⟩

/-- What stands at a location. -/
def node? (t : Tree) (l : Location) : Option Node :=
  if l = [] then some .directory else t.entries.lookup l

/-- The tree with `node` at `l`. -/
def set (t : Tree) (l : Location) (node : Node) : Tree :=
  ⟨(l, node) :: t.entries.filter fun e => e.1 ≠ l⟩

/-- The tree without `l` and all that is below it. -/
def removeAll (t : Tree) (l : Location) : Tree :=
  ⟨t.entries.filter fun e => !l.isPrefixOf e.1⟩

/-- The names directly below `l`. -/
def children (t : Tree) (l : Location) : List Text :=
  t.entries.filterMap fun e =>
    if e.1.dropLast = l ∧ e.1 ≠ [] then e.1.getLast? else none

/-- The most bytes of a name. -/
def maxName : Nat := 255

/-- The most bytes of a path. -/
def maxPath : Nat := 4095

/-- The most links the system follows for one path. -/
def maxLinks : Nat := 40

/-- Follows `names` from the directory `here`, through at most `links` links. A link in the
last place is followed only if `last` is set. -/
def walk (t : Tree) (last : Bool) (links : Nat) (here : Location) (names : List Text) :
    Except FileError Location :=
  match names with
  | [] => .ok here
  | name :: rest =>
    if t.node? here ≠ some .directory then .error .notDirectory
    else if name = [] ∨ name = ['.'] then walk t last links here rest
    else if name = ['.', '.'] then walk t last links here.dropLast rest
    else if maxName < (Utf8.encode name).length then .error .nameTooLong
    else
      match t.node? (here ++ [name]) with
      | none => .error .notFound
      | some (.link target) =>
        if rest = [] ∧ ¬ last then .ok (here ++ [name])
        else
          match links with
          | 0 => .error .linkLoop
          -- the link's names take its place, from the root if they start there
          | links + 1 =>
            walk t last links (if target.head? = some '/' then [] else here)
              (Text.split '/' target ++ rest)
      | some _ => walk t last links (here ++ [name]) rest
termination_by (links, names.length)

/-- The location a path leads to and what is there, all links followed. -/
def find (t : Tree) (p : Path) : Except FileFault (Location × Node) :=
  if p.text.contains '\x00' then .error .zeroCharacter
  else if maxPath < (Utf8.encode p.text).length then .error (.refused .nameTooLong p.text)
  else
    match t.walk true maxLinks [] p.names with
    | .error e => .error (.refused e p.text)
    | .ok l =>
      match t.node? l with
      | some node => .ok (l, node)
      | none => .error (.refused .notFound p.text)

/-- Whether a path leads to a file. A path that leads nowhere does not; one that is too long
is an error. -/
def isFile (t : Tree) (p : Path) : Except FileFault Bool :=
  match t.find p with
  | .ok (_, .file _) => .ok true
  | .ok _ => .ok false
  | .error (.refused .nameTooLong path) => .error (.refused .nameTooLong path)
  | .error _ => .ok false

/-- Whether a path leads to a directory, as `isFile` does. -/
def isDirectory (t : Tree) (p : Path) : Except FileFault Bool :=
  match t.find p with
  | .ok (_, .directory) => .ok true
  | .ok _ => .ok false
  | .error (.refused .nameTooLong path) => .error (.refused .nameTooLong path)
  | .error _ => .ok false

/-- The bytes of the file a path leads to. -/
def readBytes (t : Tree) (p : Path) : Except FileFault (List UInt8) :=
  match t.find p with
  | .ok (_, .file bytes) => .ok bytes
  | .ok _ => .error (.refused .isDirectory p.text)
  | .error e => .error e

end Tree

end ContractVerifier
