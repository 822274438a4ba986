import ContractVerifier.Files.Tree

set_option autoImplicit false

/-! # Resolving paths

The location a path stands for, whether there is something or not: links are replaced by
what they lead to, `..` goes up from there, and a name that is not there stays. Links that
lead back to themselves have no location and are an error.
-/

namespace ContractVerifier.Tree

/-- The target of the link at a location. -/
def link? (t : Tree) (l : Location) : Option Text :=
  match t.node? l with
  | some (.link target) => some target
  | _ => none

/-- What is known of a link: it is being followed, or it leads to a location. -/
abbrev Seen := List (Location × Option Location)

/-- How far following links got: the names reached, and whether all links were followed. -/
structure Reached where
  names : List Text
  complete : Bool
  seen : Seen

/-- The names behind `names`: `rest` itself if it starts at the root. -/
def append (names rest : List Text) : List Text :=
  match rest with
  | [] :: next :: more => next :: more
  | _ => names ++ rest

/-- Follows `rest` from `here`. Where a link leads back to itself, it stays in the names
reached and the rest behind it. `depth` is how deep links may lead to links. -/
def follow (t : Tree) (depth : Nat) (here : Location) (rest : List Text) (seen : Seen) : Reached :=
  match rest with
  | [] => ⟨here, true, seen⟩
  | name :: rest =>
    if name = [] ∨ name = ['.'] then follow t depth here rest seen
    else if name = ['.', '.'] then follow t depth here.dropLast rest seen
    else
      let next := here ++ [name]
      match t.link? next with
      | none => follow t depth next rest seen
      | some target =>
        match seen.lookup next with
        -- followed before: go on from where it led
        | some (some l) => follow t depth l rest seen
        -- being followed: it leads back to itself
        | some none => ⟨append next rest, false, seen⟩
        | none =>
          match depth with
          | 0 => ⟨append next rest, false, seen⟩
          | depth' + 1 =>
            let start := if target.head? = some '/' then [] else here
            let reached := follow t depth' start (Text.split '/' target) ((next, none) :: seen)
            -- the depth is spent on links inside links only, not on links side by side
            if reached.complete then
              follow t (depth' + 1) reached.names rest ((next, some reached.names) :: reached.seen)
            else ⟨append reached.names rest, false, reached.seen⟩
termination_by (depth, rest.length)

/-- Names without empty ones and `.`, and without any name that a `..` follows. -/
def tidy (names : List Text) : Location :=
  names.foldl (fun done name =>
    if name = [] ∨ name = ['.'] then done
    else if name = ['.', '.'] then done.dropLast
    else done ++ [name]) []

/-- The location a path from the root stands for. -/
def resolve (t : Tree) (p : Path) : Except FileFault Location :=
  if p.text.contains '\x00' then .error .zeroCharacter
  else
    -- what was reached may hold `..` behind a link that leads back to itself
    let l := tidy (follow t (t.entries.length + 1) [] p.names []).names
    match t.find (.ofLocation l) with
    | .error (.refused .linkLoop path) => .error (.endlessLinks path)
    | _ => .ok l

end ContractVerifier.Tree
