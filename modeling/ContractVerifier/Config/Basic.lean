import ContractVerifier.Json.Basic

set_option autoImplicit false

/-! # Configuration

What the verifier can be told: where the explorer is, what is sent to it along with a
source, how sources are flattened. A setting that is handed on as it is, such as the number
of optimiser runs or a timeout, is kept as the JSON value it was given as.
-/

namespace ContractVerifier

/-- Where the verifier runs. -/
inductive Environment where
  | development
  | staging
  | production
  deriving DecidableEq, Repr

/-- The spelling of an environment. -/
def Environment.text : Environment → String
  | development => "development"
  | staging => "staging"
  | production => "production"

/-- The explorer: its address, how long an answer may take in seconds, and the name under
which it is asked. -/
structure ExplorerConfig where
  baseUrl : Text := "https://explorer.testnet.citrea.xyz".toList
  requestTimeout : Json := .float (Number.nearest ⟨false, 30, 0⟩)
  userAgent : Text := "Chainup-Verifier/1.0".toList

/-- An address without the slashes it ends with. -/
def withoutTrailingSlashes (t : Text) : Text := (t.reverse.dropWhile (· = '/')).reverse

/-- The page of a contract. -/
def ExplorerConfig.addressUrl (e : ExplorerConfig) (address : Text) : Text :=
  withoutTrailingSlashes e.baseUrl ++ "/address/".toList ++ address

/-- What is sent to the explorer along with a source. -/
structure CompilerDefaults where
  defaultVersion : Text := "0.8.19".toList
  commitSuffix : Text := "commit.7dd6d404".toList
  licenseType : Json := .string "mit"
  evmVersion : Json := .string "default"
  optimizationEnabled : Json := .bool false
  optimizationRuns : Json := .int 200

/-- A compiler's full version. -/
def CompilerDefaults.fullVersion (d : CompilerDefaults) (version : Text) : Text :=
  'v' :: (version ++ '+' :: d.commitSuffix)

/-- The version of a compiler that a source does not name. -/
def CompilerDefaults.defaultCompilerVersion (d : CompilerDefaults) : Text :=
  d.fullVersion d.defaultVersion

/-- How sources are flattened. Without a scratch directory the system's own is used, and
without a registry file the built-in registry. -/
structure FlattenerConfig where
  backend : Text := "import_graph".toList
  importRoot : Text := "node_modules".toList
  scratchDir : Option Text := none
  registryPath : Option Text := none
  forgeBinary : Text := "forge".toList
  forgeTimeout : Json := .float (Number.nearest ⟨false, 60, 0⟩)

/-- The whole configuration. -/
structure Config where
  environment : Environment := .development
  debug : Bool := true
  explorer : ExplorerConfig := {}
  compiler : CompilerDefaults := {}
  flattener : FlattenerConfig := {}
  logLevel : Text := "INFO".toList

end ContractVerifier
