import ContractVerifier.Text.Digit
import ContractVerifier.Url.Escape

set_option autoImplicit false

/-! # Hosts

The host of an address is a name or a number. A host that has the shape of a number must be
one: four octets, or eight groups of hexadecimal digits in brackets.
-/

namespace ContractVerifier.Url

/-- Whether the text has the shape of four octets: four runs of digits with points between. -/
def looksLikeOctets (t : Text) : Bool :=
  let runs := Text.split '.' t
  runs.length = 4 && runs.all fun run => !run.isEmpty && run.all Char.isDigit

/-- Whether the text is a number below 256 without needless zeros. -/
def isOctet (t : Text) : Bool :=
  match t with
  | [_] => t.all Char.isDigit
  | '0' :: _ => false
  | _ :: _ =>
    t.all Char.isDigit && t.length ≤ 3 && t.foldl (fun n c => 10 * n + (c.toNat - 48)) 0 < 256
  | [] => false

/-- Whether the text is four octets with points between. -/
def isIPv4 (t : Text) : Bool :=
  let octets := Text.split '.' t
  octets.length = 4 && octets.all isOctet

/-- Whether the text is a group of one to four hexadecimal digits. -/
def isGroup (t : Text) : Bool :=
  !t.isEmpty && t.length ≤ 4 && t.all fun c => (Text.hexValue? c).isSome

/-- The groups with an address in octets at the end replaced by two groups, if there is one. -/
def withoutOctets? (groups : List Text) : Option (List Text) :=
  match groups.getLast? with
  | some last =>
    if last.contains '.' then
      if isIPv4 last then some (groups.dropLast ++ [['0'], ['0']]) else none
    else some groups
  | none => some groups

/-- The groups at one side of a gap; next to an end of the address there may be none. -/
def besideGap (groups : List Text) : List Text := if groups = [[]] then [] else groups

/-- Whether the groups make up an address: eight of them, or fewer with one gap. -/
def areGroups (groups : List Text) : Bool :=
  match ((groups.drop 1).dropLast).findIdx? (·.isEmpty) with
  | none => groups.length = 8 && groups.all isGroup
  | some i =>
    let before := besideGap (groups.take (i + 1))
    let behind := besideGap (groups.drop (i + 2))
    before.all isGroup && behind.all isGroup && before.length + behind.length < 8

/-- Whether the text is an address in groups, with the name of a zone behind a percent sign
if it has one. -/
def isIPv6 (t : Text) : Bool :=
  let (address, zone) := match Text.cut? ['%'] t with
    | some (a, z) => (a, some z)
    | none => (t, none)
  let isZone := zone.all fun z => !z.isEmpty && !z.contains '%'
  let groups := Text.split ':' address
  isZone && 3 ≤ groups.length &&
    match withoutOctets? groups with
    | some groups => groups.length ≤ 9 && areGroups groups
    | none => false

end ContractVerifier.Url
