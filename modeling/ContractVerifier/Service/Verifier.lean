import ContractVerifier.Explorer.Status
import ContractVerifier.Explorer.Submission
import ContractVerifier.Flatten.Flattener

set_option autoImplicit false

/-! # The verifier

The verifier takes a contract's address and source and has the explorer verify them: it reads
the metadata off the source as it was given, flattens the source, and submits what the
flattener gives. It also tells what the explorer says of a contract.

Main definitions: `Verifier.verify` and `Verifier.status`.
-/

namespace ContractVerifier

/-- What a verifier is made of. -/
structure Verifier where
  compiler : CompilerDefaults
  explorer : ExplorerConfig
  flattener : Flattener

/-- What changes while a verifier works: the client with its counters, the files, and the
list of what was sent to the explorer, in order. -/
structure Session where
  client : Client
  tree : Tree
  sent : List ExplorerRequest := []

namespace Verifier

/-- The verifier that is configured. -/
def ofConfig (t : Tree) (c : Config) (chosen : Registry.Chosen) (depths : Flatten.Depths := {}) :
    Except Fault (Verifier × Registry.Chosen) :=
  match Flattener.make t c.flattener none none none none chosen depths with
  | .error e => .error e
  | .ok (flattener, chosen) => .ok (⟨c.compiler, c.explorer, flattener⟩, chosen)

/-- A session in which nothing happened yet, and in which values may be nested `depth` deep in the
explorer's answers. -/
def newSession (v : Verifier) (t : Tree) (depth : Nat := Json.usualDepth) : Session :=
  { client := { settings := v.explorer, depth }, tree := t }

/-- The request for a contract of which the metadata and the flattened source are known. -/
def request (v : Verifier) (address : Text) (metadata : Solidity.Metadata) (source : Text) :
    VerificationRequest :=
  { address
    sourceCode := source
    metadata
    optimizationEnabled := v.compiler.optimizationEnabled
    optimizationRuns := v.compiler.optimizationRuns
    licenseType := v.compiler.licenseType
    evmVersion := v.compiler.evmVersion }

/-- An answer with the contract's page, if it is a good one. -/
def withPage (v : Verifier) (isSuccess : Bool) (address : Text) (answer : Json) : Json :=
  if isSuccess then answer.insert "blockscoutUrl" (.text (v.explorer.addressUrl address)) else answer

/-- Has a contract verified. -/
def verify (v : Verifier) (sys : Flatten.System) (explorer : Explorer) (address source : Text)
    (s : Session) : Except Fault Json × Session :=
  let metadata := Solidity.metadata v.compiler source
  let flattening := v.flattener.flatten sys s.tree ⟨source, metadata.name ++ ".sol".toList⟩
    metadata.name
  let s := { s with tree := flattening.tree }
  match flattening.result with
  | .error fault => (.error fault, s)
  | .ok result =>
    let submission := s.client.submit explorer (v.request address metadata result.source.text)
    (submission.outcome.map fun outcome => v.withPage outcome.isSuccess address outcome.toJson,
      { s with client := submission.client, sent := s.sent ++ submission.sent })

/-- Tells what the explorer says of a contract. -/
def status (v : Verifier) (explorer : Explorer) (address : Text) (s : Session) :
    Except Fault Json × Session :=
  let reading := s.client.readStatus explorer address
  (reading.status.map fun status =>
      v.withPage status.isSuccess address (status.toJson.insert "address" (.text address)),
    { s with client := reading.client, sent := s.sent ++ reading.sent })

end Verifier

end ContractVerifier
