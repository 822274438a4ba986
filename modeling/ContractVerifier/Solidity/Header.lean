import ContractVerifier.Solidity.Import

set_option autoImplicit false

/-! # Header lines

A file starts with a licence line and a `pragma solidity` statement. Both are recognised
where a line begins, after spaces and tabs perhaps, together with the spaces, tabs and the
line feed behind them. The white space behind `//`, and the whole of a pragma, may run over
several lines.

Main definition: `splitHeader`, the header lines of a text and the text without them.
-/

namespace ContractVerifier.Solidity.Header

/-- The longest beginning of `t` that is white space, and the rest. -/
def blanksAhead (t : Text) : Text × Text :=
  let run := t.takeWhile Text.isBlank
  (run, t.drop run.length)

/-- The text of a licence line, to the end of its line. -/
def licence? (t : Text) : Option Text :=
  match Text.after? "//".toList t with
  | none => none
  | some t =>
    let (gap, t) := blanksAhead t
    match Text.after? "SPDX-License-Identifier:".toList t with
    | none => none
    | some t =>
      some ("//".toList ++ gap ++ "SPDX-License-Identifier:".toList ++ t.takeWhile (· ≠ '\n'))

/-- The text of a `pragma solidity` statement, to its semicolon. -/
def pragma? (t : Text) : Option Text :=
  match Text.after? "pragma".toList t with
  | none => none
  | some t =>
    let (gap, t) := blanksAhead t
    match Text.after? "solidity".toList t with
    | none => none
    | some t =>
      let (gap', t) := blanksAhead t
      let versions := t.takeWhile (· ≠ ';')
      match t.drop versions.length with
      | [] => none
      | semicolon :: _ =>
        if gap = [] ∨ gap' = [] then none
        else some ("pragma".toList ++ gap ++ "solidity".toList ++ gap' ++ versions ++ [semicolon])

/-- Recognises a header line, its indentation and what ends it. The meaning is the line
without white space around it. -/
def recognise : Recogniser Text := fun t =>
  let indent := t.takeWhile isIndent
  let t := t.drop indent.length
  let line? := match licence? t with
    | some line => some line
    | none => pragma? t
  line?.map fun line =>
    let t := t.drop line.length
    let spaces := t.takeWhile isIndent
    let ending := match t.drop spaces.length with
      | '\n' :: _ => ['\n']
      | _ => []
    let raw := indent ++ line ++ spaces ++ ending
    (raw, Text.strip raw)

end Header

/-- The header lines of a text, each without white space around it and with a line feed
behind it, and the text without them. -/
def splitHeader (t : Text) : Text × Text :=
  ((found Header.recognise t).flatMap (· ++ ['\n']), erase Header.recognise t)

end ContractVerifier.Solidity
