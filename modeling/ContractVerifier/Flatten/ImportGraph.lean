import ContractVerifier.Files.Resolve
import ContractVerifier.Registry.Reader
import ContractVerifier.Solidity.Header

set_option autoImplicit false

/-! # Inlining along the import graph

Files import files. An import **leads** to a file if its path, taken from the importing file
when it starts with a dot and from the import root otherwise, resolves to a file below that
root or below the entry's directory. Such imports are erased, and each file they lead to
becomes a **section** of the result: once, however many imports lead to it, and after the
sections of what it imports itself. Imports that lead nowhere stay in the text.

The walk is a depth-first search. Its state (`Progress`) is the files it came to, the files
it read and the sections it finished; a file is noted before it is read, so that imports in a
circle end. A fault ends the walk and leaves the state as it was then.

For each file the walk calls itself, and calls can be nested only so deep. How deep, below the
entry, is up to where the walk starts: `depth` stands for it.

Main definitions: `walkGraph`, and `flattenGraph` for its answer alone.
-/

namespace ContractVerifier.Flatten

open Solidity

/-- Where imports may lead: below the import root, or below the entry's directory. -/
structure Roots where
  importRoot : Location
  entryDir : Location
  deriving DecidableEq, Repr

/-- Whether a location is one of the roots or below it. -/
def Roots.allow (roots : Roots) (l : Location) : Bool :=
  roots.importRoot.isPrefixOf l || roots.entryDir.isPrefixOf l

/-- The path that an import in the file at `importer` stands for. -/
def candidate (roots : Roots) (importer : Location) (path : Text) : Path :=
  let start := if path.head? = some '.' then importer.dropLast else roots.importRoot
  (Path.ofLocation start).join (Path.ofText path)

/-- The file that an import in the file at `importer` leads to, if any. -/
def leadsTo (t : Tree) (roots : Roots) (importer : Location) (path : Text) :
    Except Fault (Option Location) :=
  match t.resolve (candidate roots importer path) with
  | .error e => .error (.file e)
  | .ok target =>
    match t.isFile (.ofLocation target) with
    | .error e => .error (.file e)
    | .ok isFile => .ok (if isFile && roots.allow target then some target else none)

/-- What one file contributes: where it is, the path by which it was first imported, and its
text without header lines and without the imports that lead to a file. -/
structure Section where
  file : Location
  spelling : Text
  body : Text
  deriving DecidableEq, Repr

/-- How far the walk is, each in order: the files it came to, the files it read (or tried to)
and the sections it finished. -/
structure Progress where
  handled : List Location
  reads : List Location
  sections : List Section
  deriving DecidableEq, Repr

namespace Progress

/-- Nothing has happened. -/
def start : Progress := ⟨[], [], []⟩

/-- Notes that the walk came to a file. -/
def note (p : Progress) (l : Location) : Progress := { p with handled := p.handled ++ [l] }

/-- The text of a file, and that it was read. -/
def read (p : Progress) (t : Tree) (l : Location) : Except Fault Text × Progress :=
  (t.readText (.ofLocation l), { p with reads := p.reads ++ [l] })

/-- Adds a section that is finished. -/
def finish (p : Progress) (s : Section) : Progress := { p with sections := p.sections ++ [s] }

end Progress

/-- Goes through the pieces of a text. `visit` is asked for each import what stands in its
place. `done` holds the text so far, piece by piece and last piece first. -/
def walkPieces (visit : Import → Progress → Except Fault (Option Text) × Progress) :
    List (Piece Import) → List Text → Progress → Except Fault Text × Progress
  | [], done, progress => (.ok done.reverse.flatten, progress)
  | .plain t :: rest, done, progress => walkPieces visit rest (t :: done) progress
  | .found raw i :: rest, done, progress =>
    match visit i progress with
    | (.error e, progress) => (.error e, progress)
    | (.ok replacement, progress) =>
      walkPieces visit rest (replacement.getD raw :: done) progress

/-- What stands in the place of an import in the file at `here`: nothing if it leads to a
file, which `inlineFile` inlines if the walk comes to it for the first time. -/
def visitImport (t : Tree) (roots : Roots)
    (inlineFile : Location → Text → Progress → Except Fault Text × Progress)
    (here : Location) (i : Import) (progress : Progress) :
    Except Fault (Option Text) × Progress :=
  match leadsTo t roots here i.path with
  | .error e => (.error e, progress)
  | .ok none => (.ok none, progress)
  | .ok (some target) =>
    -- came to before, finished or not: the import goes and nothing else happens
    if target ∈ progress.handled then (.ok (some []), progress)
    else
      -- noted first, so that an import leading back here ends
      match (progress.note target).read t target with
      | (.error e, progress) => (.error e, progress)
      | (.ok text, progress) =>
        match inlineFile target text progress with
        | (.error e, progress) => (.error e, progress)
        | (.ok body, progress) =>
          (.ok (some []), progress.finish ⟨target, i.path, (splitHeader body).2⟩)

/-- The text of the file at `here` without the imports that lead to a file, after those files
were inlined. `depth` is how many calls can be nested, this one among them. -/
def inline (t : Tree) (roots : Roots) :
    Nat → Location → Text → Progress → Except Fault Text × Progress
  | 0, _, _, progress => (.error .deepImports, progress)
  | depth + 1, here, text, progress =>
    walkPieces (visitImport t roots (inline t roots depth) here)
      (pieces Import.recognise text) [] progress

/-- A file's part of the result, under a banner that names it. -/
def banner (name body : Text) : Text :=
  "// File: ".toList ++ name ++ '\n' :: (Text.strip body ++ ['\n'])

/-- The loop of `shrinkGaps`: `run` line feeds were just read, and `done` holds what is kept,
last character first. -/
def shrinkFrom : Nat → Text → Text → Text
  | _, done, [] => done.reverse
  | run, done, c :: t =>
    if c = '\n' then
      if run < 2 then shrinkFrom (run + 1) (c :: done) t else shrinkFrom run done t
    else shrinkFrom 0 (c :: done) t

/-- A text in which no more than two line feeds follow one another. -/
def shrinkGaps (t : Text) : Text := shrinkFrom 0 [] t

/-- The result of a walk that finished sections: the entry's header lines, the sections, and
the rest of the entry, with blank lines between. -/
def assemble (entryName body : Text) (sections : List Section) : Text :=
  let (header, rest) := splitHeader body
  let head := if Text.strip header = [] then [] else [Text.stripEnd header]
  let parts := head ++ sections.map (fun s => banner s.spelling s.body) ++ [banner entryName rest]
  shrinkGaps (Text.join "\n\n".toList parts)

/-- How deep imports can be nested as a rule: each of them takes three of the thousand calls that
there can be, and some are taken before the walk starts and where it ends. -/
def usualDepth : Nat := 325

/-- Walks the import graph from the file at `entry` with libraries below `importRoot`, where files
can be nested `depth` deep below the entry: the flattened text, and how far the walk came. A file
that inlines nothing stays as it is. -/
def walkGraph (depth : Nat) (t : Tree) (entry importRoot : Path) : Except Fault Text × Progress :=
  match t.resolve entry with
  | .error e => (.error (.file e), .start)
  | .ok entry =>
    match Progress.start.read t entry with
    | (.error e, progress) => (.error e, progress)
    | (.ok text, progress) =>
      match t.resolve importRoot with
      | .error e => (.error (.file e), progress)
      | .ok importRoot =>
        let roots := ⟨importRoot, entry.dropLast⟩
        match inline t roots (depth + 1) entry text (progress.note entry) with
        | (.error e, progress) => (.error e, progress)
        | (.ok body, progress) =>
          if progress.sections = [] then (.ok text, progress)
          else (.ok (assemble ((entry.getLast?).getD []) body progress.sections), progress)

/-- Flattens the file at `entry` with libraries below `importRoot`. -/
def flattenGraph (depth : Nat) (t : Tree) (entry importRoot : Path) : Except Fault Text :=
  (walkGraph depth t entry importRoot).1

end ContractVerifier.Flatten
