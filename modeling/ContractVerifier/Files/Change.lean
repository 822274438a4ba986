import ContractVerifier.Files.Tree

set_option autoImplicit false

/-! # Changing a tree

Making directories, writing files and removing directories. Every change gives a new tree
or says why the system refuses it. Only `makeDirectories` can have changed something by then.
-/

namespace ContractVerifier.Tree

/-- Where a new entry for a path would go: the location of its parent directory and its
name. The name must not be there yet. -/
def vacancy (t : Tree) (p : Path) : Except FileFault Location :=
  if p.text.contains '\x00' then .error .zeroCharacter
  else if maxPath < (Utf8.encode p.text).length then .error (.refused .nameTooLong p.text)
  else
    match t.walk true maxLinks [] p.names.dropLast with
    | .error e => .error (.refused e p.text)
    | .ok parent =>
      if t.node? parent ≠ some .directory then .error (.refused .notDirectory p.text)
      else if p.name = [] ∨ p.name = ['.', '.'] then .error (.refused .alreadyThere p.text)
      else if maxName < (Utf8.encode p.name).length then .error (.refused .nameTooLong p.text)
      else if (t.node? (parent ++ [p.name])).isSome then .error (.refused .alreadyThere p.text)
      else .ok (parent ++ [p.name])

/-- Makes one directory. -/
def makeDirectory (t : Tree) (p : Path) : Except FileFault Tree :=
  (t.vacancy p).map fun l => t.set l .directory

/-- A refusal to make a directory does not matter if the directory is already there. -/
def acceptExisting (t : Tree) (p : Path) (fault : FileFault) : Except (FileFault × Tree) Tree :=
  match fault with
  | .refused _ _ =>
    match t.isDirectory p with
    | .ok true => .ok t
    | .ok false => .error (fault, t)
    | .error e => .error (e, t)
  | other => .error (other, t)

/-- Makes a directory and the directories above it, as far as they are not there; `up` is
how many names of the path may be missing. If the system refuses one of them, those that were
made above it stay: the tree that is left comes with the refusal. -/
def makeDirectoriesUp (t : Tree) (p : Path) : Nat → Except (FileFault × Tree) Tree
  | 0 =>
    match t.makeDirectory p with
    | .ok t' => .ok t'
    | .error fault => acceptExisting t p fault
  | up + 1 =>
    match t.makeDirectory p with
    | .ok t' => .ok t'
    | .error (.refused .notFound path) =>
      if p.names = [] then .error (.refused .notFound path, t)
      else
        match makeDirectoriesUp t p.parent up with
        | .error e => .error e
        | .ok t' =>
          match t'.makeDirectory p with
          | .ok t'' => .ok t''
          | .error (.refused .notFound path) => .error (.refused .notFound path, t')
          | .error fault => acceptExisting t' p fault
    | .error fault => acceptExisting t p fault

/-- Makes a directory and the directories above it, as far as they are not there. -/
def makeDirectories (t : Tree) (p : Path) : Except (FileFault × Tree) Tree :=
  makeDirectoriesUp t p (p.names.length + 1)

/-- Writes a file, new or in place of an old one. -/
def writeFile (t : Tree) (p : Path) (bytes : List UInt8) : Except FileFault Tree :=
  match t.find p with
  | .ok (_, .directory) => .error (.refused .isDirectory p.text)
  | .ok (l, _) => .ok (t.set l (.file bytes))
  | .error (.refused .notFound _) => (t.vacancy p).map fun l => t.set l (.file bytes)
  | .error e => .error e

end ContractVerifier.Tree
