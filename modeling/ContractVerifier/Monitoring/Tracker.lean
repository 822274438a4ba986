import ContractVerifier.Association
import ContractVerifier.Fault

set_option autoImplicit false

/-! # Tracking errors

The service remembers its latest errors and counts all of them by kind. `Tracker.records` is
a window over what was tracked; `Tracker.counts` is not cut.

Main definitions: `ServiceError.body`, the answer to a client, and `Tracker.track`,
`Tracker.clear` and `Tracker.stats`.
-/

namespace ContractVerifier

/-- The spelling of a field's problem. -/
def FieldProblem.text : FieldProblem → String
  | notText => "string_type"
  | notObject => "model_type"

/-- The details of an error as a value: a text, or the fields at fault with their problems. -/
def Details.toJson : Details → Json
  | text t => .text t
  | fields problems =>
    .list (problems.map fun p => .list [.text p.1, .string p.2.text])

/-- The answer to a client whose request ended in an error. -/
def ServiceError.body (e : ServiceError) (now : Text) : Json :=
  .ofMembers ([("success", .bool false), ("error", .text e.message),
      ("code", .string e.code.text)] ++
    (e.details.map fun d => ("details", d.toJson)).toList ++ [("timestamp", .text now)])

/-- An error that was tracked. -/
structure ErrorRecord where
  kind : String
  message : Text
  path : Option Text
  timestamp : Text
  code : Option ErrorCode
  deriving DecidableEq, Repr

/-- The record of a fault. -/
def ErrorRecord.ofFault (f : Fault) (path : Option Text) (now : Text) : ErrorRecord :=
  { kind := f.kind
    message := f.message
    path
    timestamp := now
    code := match f with
      | .service e => some e.code
      | _ => none }

/-- A record as a value. -/
def ErrorRecord.toJson (r : ErrorRecord) : Json :=
  .ofMembers ([("type", .string r.kind), ("message", .text r.message),
      ("path", r.path.elim .null .text), ("timestamp", .text r.timestamp)] ++
    (r.code.map fun c => ("code", .string c.text)).toList)

/-- The errors remembered and counted. `maxErrors` is how many are remembered. -/
structure Tracker where
  maxErrors : Int := 500
  records : List ErrorRecord := []
  counts : List (String × Nat) := []

namespace Tracker

/-- How many of `n` records are dropped at the front when there are more than `max`. A bound
of zero drops none, and a bound below zero as many as it is below. -/
def excess (max : Int) (n : Nat) : Nat :=
  if (n : Int) ≤ max then 0
  else if 0 < max then n - max.toNat
  else max.natAbs

/-- Tracks one error. -/
def track (t : Tracker) (f : Fault) (path : Option Text) (now : Text) : Tracker :=
  let records := t.records ++ [ErrorRecord.ofFault f path now]
  { t with
    records := records.drop (excess t.maxErrors records.length)
    counts := Association.put f.kind ((Association.get? f.kind t.counts).getD 0 + 1) t.counts }

/-- Forgets what was tracked. -/
def clear (t : Tracker) : Tracker := { t with records := [], counts := [] }

/-- How many records the statistics show. -/
def shown : Nat := 10

/-- The last records, oldest first. -/
def recent (t : Tracker) : List ErrorRecord := t.records.drop (t.records.length - shown)

/-- The counts as a value. -/
def countsJson (t : Tracker) : Json :=
  .object (t.counts.map fun c => (c.1.toList, .int c.2))

/-- The statistics. -/
def stats (t : Tracker) (now : Text) : Json :=
  .ofMembers [("total_errors", .int t.records.length), ("error_counts", t.countsJson),
    ("recent_errors", .list (t.recent.map ErrorRecord.toJson)), ("timestamp", .text now)]

end Tracker

end ContractVerifier
