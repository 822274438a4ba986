import ContractVerifier.Json.Display
import ContractVerifier.Solidity.Metadata

set_option autoImplicit false

/-! # Verification requests

What is submitted to the explorer for one contract. A request has two forms with the same
content: a JSON body for the explorer's current interface and query parameters for its
older one.
-/

namespace ContractVerifier

/-- One submission. -/
structure VerificationRequest where
  address : Text
  sourceCode : Text
  metadata : Solidity.Metadata
  optimizationEnabled : Json := .bool false
  optimizationRuns : Json := .int 200
  licenseType : Json := .string "mit"
  evmVersion : Json := .string "default"
  autodetectConstructorArgs : Json := .bool true
  libraries : List (Text × Json) := []

namespace VerificationRequest

/-- The request as a JSON body. -/
def jsonBody (r : VerificationRequest) : Json :=
  .ofMembers [("compiler_version", .text r.metadata.compilerVersion),
    ("license_type", r.licenseType),
    ("source_code", .text r.sourceCode),
    ("is_optimization_enabled", r.optimizationEnabled),
    ("optimization_runs", r.optimizationRuns),
    ("contract_name", .text r.metadata.name),
    ("libraries", .object r.libraries),
    ("evm_version", r.evmVersion),
    ("autodetect_constructor_args", r.autodetectConstructorArgs)]

/-- The request as query parameters, in order. -/
def queryParams (r : VerificationRequest) : List (String × Json) :=
  [("module", .string "contract"),
   ("action", .string "verify"),
   ("addressHash", .text r.address),
   ("name", .text r.metadata.name),
   ("compilerVersion", .text r.metadata.compilerVersion),
   ("optimization", .string (if r.optimizationEnabled.isGiven then "1" else "0")),
   ("contractSourceCode", .text r.sourceCode),
   ("autodetectConstructorArguments",
     .string (if r.autodetectConstructorArgs.isGiven then "true" else "false")),
   ("evmVersion", r.evmVersion),
   ("optimizationRuns", .text r.optimizationRuns.display)]

end VerificationRequest

end ContractVerifier
