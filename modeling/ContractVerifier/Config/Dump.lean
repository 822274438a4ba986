import ContractVerifier.Config.Basic

set_option autoImplicit false

/-! # Showing the configuration

A configuration is a tree of records, tables, lists and plain values. It is shown as a
tree without records: a record becomes a table of its fields, a named constant becomes
its value, and a member whose name says that it is secret is left out. Lists are shown as
they are.
-/

namespace ContractVerifier

/-- A tree of settings. -/
inductive Setting where
  | plain (v : Json)
  /-- One of a fixed set of named constants, with its value. -/
  | constant (value : Json)
  | list (items : List Setting)
  | table (members : List (Text × Setting))
  | record (fields : List (Text × Setting))
  deriving Inhabited

namespace Setting

/-- Whether a member is not to be shown: its name speaks of a password or a secret, in
capital or small letters. -/
def isSecret (name : Text) : Bool :=
  let name := Text.lowerLatin name
  Text.occursIn "password".toList name || Text.occursIn "secret".toList name

mutual

/-- The tree as it is shown. -/
def dump : Setting → Setting
  | plain v => plain v
  | constant v => plain v
  | list items => list items
  | table members => table (dumpMembers members)
  | record fields => table (dumpMembers fields)

/-- The members as they are shown. -/
def dumpMembers : List (Text × Setting) → List (Text × Setting)
  | [] => []
  | (name, v) :: rest =>
    if isSecret name then dumpMembers rest else (name, dump v) :: dumpMembers rest

end

mutual

/-- The tree that a JSON value is. -/
def ofJson : Json → Setting
  | .list items => list (ofItems items)
  | .object members => table (ofMembers members)
  | v => plain v

/-- The items of a JSON list. -/
def ofItems : List Json → List Setting
  | [] => []
  | v :: rest => ofJson v :: ofItems rest

/-- The members of a JSON object. -/
def ofMembers : List (Text × Json) → List (Text × Setting)
  | [] => []
  | (name, v) :: rest => (name, ofJson v) :: ofMembers rest

end

mutual

/-- The JSON value of a tree; a record counts as a table. -/
def toJson : Setting → Json
  | plain v => v
  | constant v => v
  | list items => .list (toItems items)
  | table members => .object (toMembers members)
  | record fields => .object (toMembers fields)

/-- The JSON values of the items. -/
def toItems : List Setting → List Json
  | [] => []
  | v :: rest => toJson v :: toItems rest

/-- The JSON values of the members. -/
def toMembers : List (Text × Setting) → List (Text × Json)
  | [] => []
  | (name, v) :: rest => (name, toJson v) :: toMembers rest

end

/-- A record with the given fields. -/
def ofFields (fields : List (String × Setting)) : Setting :=
  record (fields.map fun f => (f.1.toList, f.2))

/-- A text or nothing. -/
def ofText? (t : Option Text) : Setting := plain (t.elim .null .text)

/-- The tree with the values of some of its own fields replaced. -/
def replaceFields (values : List (Text × Setting)) : Setting → Setting
  | record fields => record (fields.map fun f => (f.1, (Association.get? f.1 values).getD f.2))
  | other => other

end Setting

/-- The explorer's settings as a tree. -/
def ExplorerConfig.setting (e : ExplorerConfig) : Setting :=
  .ofFields [("base_url", .plain (.text e.baseUrl)),
    ("request_timeout", .plain e.requestTimeout), ("user_agent", .plain (.text e.userAgent))]

/-- The compiler's settings as a tree. -/
def CompilerDefaults.setting (d : CompilerDefaults) : Setting :=
  .ofFields [("default_version", .plain (.text d.defaultVersion)),
    ("commit_suffix", .plain (.text d.commitSuffix)), ("license_type", .plain d.licenseType),
    ("evm_version", .plain d.evmVersion),
    ("optimization_enabled", .plain d.optimizationEnabled),
    ("optimization_runs", .plain d.optimizationRuns)]

/-- The flattener's settings as a tree. -/
def FlattenerConfig.setting (f : FlattenerConfig) : Setting :=
  .ofFields [("backend", .plain (.text f.backend)),
    ("import_root", .plain (.text f.importRoot)), ("scratch_dir", .ofText? f.scratchDir),
    ("registry_path", .ofText? f.registryPath), ("forge_binary", .plain (.text f.forgeBinary)),
    ("forge_timeout", .plain f.forgeTimeout)]

/-- The configuration as a tree. -/
def Config.setting (c : Config) : Setting :=
  .ofFields [("environment", .constant (.string c.environment.text)),
    ("debug", .plain (.bool c.debug)), ("explorer", c.explorer.setting),
    ("compiler", c.compiler.setting), ("flattener", c.flattener.setting),
    ("monitoring", .ofFields [("log_level", .plain (.text c.logLevel))])]

/-- The configuration as it is shown. -/
def Config.dump (c : Config) : Json := c.setting.dump.toJson

end ContractVerifier
