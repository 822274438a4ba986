import ContractVerifier.Config.Basic
import ContractVerifier.Association
import ContractVerifier.Fault
import ContractVerifier.Text.Capital

set_option autoImplicit false

/-! # Configuration from environment variables

Each setting is read from a variable of its own and has a default. In production the service
says less, whatever the variables say.
-/

namespace ContractVerifier

/-- Environment variables with their values. -/
abbrev Variables := List (Text × Text)

/-- Whether variables can be set: neither a name nor a value holds a zero character. -/
def Variables.check (vars : Variables) : Except Fault Unit :=
  if vars.any fun v => v.1.contains '\x00' || v.2.contains '\x00' then
    .error (.file .zeroCharacter)
  else .ok ()

/-- The value of a variable, if it is set. -/
def Variables.get? (vars : Variables) (name : String) : Option Text :=
  Association.get? name.toList vars

/-- The value of a variable, or a default. -/
def Variables.getD (vars : Variables) (name default : String) : Text :=
  (vars.get? name).getD default.toList

/-- The value of a variable that is set and not empty. -/
def Variables.given? (vars : Variables) (name : String) : Option Text :=
  (vars.get? name).filter (· ≠ [])

/-- Whether a variable says `true`, in capital or small letters. -/
def Variables.flag (vars : Variables) (name default : String) : Bool :=
  Text.lowerLatin (vars.getD name default) = "true".toList

/-- The number a variable gives. -/
def Variables.fraction (vars : Variables) (name default : String) : Except Fault Json :=
  let t := vars.getD name default
  match Number.readDecimal? t with
  | some r => .ok (.float r.toBinary64)
  | none => .error (.fraction t)

/-- The whole number a variable gives. -/
def Variables.whole (vars : Variables) (name default : String) : Except Fault Json :=
  match Number.readInt (vars.getD name default) with
  | .ok n => .ok (.int n)
  | .error e => .error (.number e)

/-- The environment a name stands for; an unknown name stands for development. -/
def Environment.ofText (t : Text) : Environment :=
  let name := Text.lowerLatin t
  if name = "staging".toList then .staging
  else if name = "production".toList then .production
  else .development

namespace Config

/-- The explorer's settings. -/
def explorerOf (vars : Variables) : Except Fault ExplorerConfig := do
  let requestTimeout ← vars.fraction "EXPLORER_TIMEOUT_SECONDS" "30"
  return { baseUrl := vars.getD "EXPLORER_BASE_URL" "https://explorer.testnet.citrea.xyz"
           requestTimeout }

/-- The compiler's settings. -/
def compilerOf (vars : Variables) : Except Fault CompilerDefaults := do
  let optimizationRuns ← vars.whole "VERIFY_OPTIMIZATION_RUNS" "200"
  return { defaultVersion := vars.getD "SOLC_DEFAULT_VERSION" "0.8.19"
           commitSuffix := vars.getD "SOLC_COMMIT_SUFFIX" "commit.7dd6d404"
           licenseType := .text (vars.getD "VERIFY_LICENSE_TYPE" "mit")
           evmVersion := .text (vars.getD "VERIFY_EVM_VERSION" "default")
           optimizationEnabled := .bool (vars.flag "VERIFY_OPTIMIZATION" "false")
           optimizationRuns }

/-- The flattener's settings. -/
def flattenerOf (vars : Variables) : Except Fault FlattenerConfig := do
  let forgeTimeout ← vars.fraction "FORGE_TIMEOUT_SECONDS" "60"
  return { backend := vars.getD "FLATTEN_BACKEND" "import_graph"
           importRoot := vars.getD "FLATTEN_IMPORT_ROOT" "node_modules"
           scratchDir := vars.given? "FLATTEN_SCRATCH_DIR"
           registryPath := vars.given? "DEPENDENCY_REGISTRY_PATH"
           forgeBinary := vars.getD "FORGE_BINARY" "forge"
           forgeTimeout }

/-- The configuration that the variables give. Of several wrong numbers the explorer's is
reported first, then the compiler's, then the flattener's. -/
def ofVariables (vars : Variables) : Except Fault Config := do
  let environment := Environment.ofText (vars.getD "CHAINUP_ENV" "development")
  let debug := vars.flag "DEBUG" "true"
  let explorer ← explorerOf vars
  let compiler ← compilerOf vars
  let flattener ← flattenerOf vars
  let logLevel := Text.capitals (vars.getD "LOG_LEVEL" "INFO")
  if environment = .production then
    return { environment, debug := false, explorer, compiler, flattener
             logLevel := "WARNING".toList }
  else return { environment, debug, explorer, compiler, flattener, logLevel }

end Config

end ContractVerifier
