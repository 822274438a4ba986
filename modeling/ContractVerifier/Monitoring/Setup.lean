import ContractVerifier.Config.Variables

set_option autoImplicit false

/-! # Starting the error monitor

Monitoring is on if the variable `SENTRY_DSN` says where events go.
-/

namespace ContractVerifier.Monitoring

/-- What the error monitor is started with. -/
structure Setup where
  destination : Text
  environment : Text
  release : Text

/-- The share of requests that are traced. -/
def tracesSampleRate : Number.Binary64 := Number.nearest ⟨false, 2, -1⟩

/-- The parts of the service that the monitor watches. -/
def integrations : List String :=
  ["FastApiIntegration", "StarletteIntegration", "LoggingIntegration"]

/-- How the monitor is started, if it is. -/
def setup? (vars : Variables) : Option Setup :=
  (vars.given? "SENTRY_DSN").map fun destination =>
    { destination
      environment := vars.getD "CHAINUP_ENV" "development"
      release := "chainup-verifier@".toList ++ vars.getD "COMMIT_SHA" "local" }

/-- The setup as a value. -/
def Setup.toJson (s : Setup) : Json :=
  .ofMembers [("dsn", .text s.destination), ("environment", .text s.environment),
    ("traces_sample_rate", .float tracesSampleRate), ("send_default_pii", .bool false),
    ("release", .text s.release), ("integrations", .list (integrations.map .string))]

end ContractVerifier.Monitoring
