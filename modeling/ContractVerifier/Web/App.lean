import ContractVerifier.Config.Dump
import ContractVerifier.Registry.Basic
import ContractVerifier.Service.Verifier
import ContractVerifier.Web.Input
import ContractVerifier.Web.Routing

set_option autoImplicit false

/-! # The web interface

Requests come in and answers go out; in between, a service verifies contracts and tells their
status. Every fault becomes an answer and is tracked, and one that nobody expected is reported
besides. While the service is debugged, a fault that nobody expected is shown to the client and not
tracked.

Main definition: `App.handle`. The service is any pair of functions on a state of its own
(`Service`), of which a verifier is one (`Verifier.toService`).
-/

namespace ContractVerifier

namespace Web

/-- What verifies contracts and tells their status, with a state of type `σ`. -/
structure Service (σ : Type) where
  verify : Text → Text → σ → Except Fault Json × σ
  status : Text → σ → Except Fault Json × σ

/-- A service that fails, whatever it is asked. -/
def Service.failing (σ : Type) (fault : Fault) : Service σ where
  verify _ _ s := (.error fault, s)
  status _ s := (.error fault, s)

/-- What the interface knows: the configuration, the registry in use, the errors so far, and how
deep values may be nested in a body that is read. -/
structure App where
  config : Config
  registry : Registry
  tracker : Tracker := {}
  depth : Nat := Json.usualDepth

/-- What the service is called when it is asked how it is. -/
def serviceName : String := "chainup-verifier"

namespace App

variable {σ : Type}

/-- How the service is. -/
def health (a : App) (now : Text) : Json :=
  .ofMembers [("status", .string "ok"), ("service", .string serviceName),
    ("environment", .string a.config.environment.text),
    ("explorer", .text a.config.explorer.baseUrl), ("config", a.config.dump),
    ("dependency_registry", .ofMembers [("name", .text a.registry.name),
      ("version", .text a.registry.version), ("entries", .int a.registry.size)]),
    ("errors", a.tracker.stats now), ("timestamp", .text now)]

/-- A fault in verifying a contract: the service's own errors stay, and any other becomes one. -/
def asProcessing : Fault → Fault
  | .service e => .service e
  | fault => .service (.processing (some (.text fault.describe)))

/-- Submits a contract. -/
def submit (a : App) (service : Service σ) (now : Text) (r : Request) (s : σ) :
    Except Fault Answer × σ :=
  match readSubmission r.body a.depth with
  | .error fault => (.error fault, s)
  | .ok (address, source) =>
    match service.verify address source s with
    -- only here are foreign faults turned into the service's own
    | (.error fault, s) => (.error (asProcessing fault), s)
    | (.ok body, s) => (Answer.ofResult (body.insert "timestamp" (.text now)), s)

/-- Tells a contract's status. One that could not be read is a server's error. -/
def status (service : Service σ) (now : Text) (r : Request) (s : σ) : Except Fault Answer × σ :=
  match readAddress r with
  | .error fault => (.error fault, s)
  | .ok address =>
    match service.status address s with
    | (.error fault, s) => (.error fault, s)
    | (.ok body, s) =>
      let isSuccess := ((body.member? "success").map Json.isGiven).getD false
      let body := body.insert "timestamp" (.text now)
      (if isSuccess then Answer.ofResult body else Answer.ofJson 500 body, s)

/-- What an endpoint makes of a request. -/
def serve (a : App) (service : Service σ) (now : Text) (e : Endpoint) (r : Request) (s : σ) :
    Except Fault Answer × σ :=
  match e with
  | .submit => a.submit service now r s
  | .status => status service now r s
  | .health => (Answer.ofResult (a.health now), s)

/-- The app after a fault in answering a request. -/
def track (a : App) (now : Text) (r : Request) (fault : Fault) : App :=
  { a with tracker := a.tracker.track fault (some (knownPath r.path)) now }

/-- The answer to a request that ended in a fault that nobody expected. -/
def surprise (a : App) (now : Text) (r : Request) (fault : Fault) : Answer × App :=
  -- who debugs the service gets to see where the fault arose, and the fault goes by the tracker
  if a.config.debug then (.ofTrace r.accept fault, a)
  else (.ofFault now fault, a.track now r fault)

/-- The answer to a request that ended in a fault. If the answer to a fault that was expected cannot
be sent, there is another fault, which was not. -/
def fail (a : App) (now : Text) (r : Request) (fault : Fault) : Answer × App :=
  let answer := Answer.ofFault now fault
  match answer.escaped with
  | some _ => a.surprise now r fault
  | none =>
    let a := a.track now r fault
    match answer.fault? with
    | none => (answer, a)
    | some fault => a.surprise now r fault

/-- Answers a request. -/
def handle (a : App) (service : Service σ) (now : Text) (r : Request) (s : σ) : Answer × App × σ :=
  match endpoint r.method r.path with
  | .error stray => (stray.answer r, a, s)
  | .ok e =>
    match a.serve service now e r s with
    | (.ok answer, s) => (answer, a, s)
    | (.error fault, s) =>
      let (answer, a) := a.fail now r fault
      (answer, a, s)

end App

end Web

/-- The verifier as a service of the web interface. -/
def Verifier.toService (v : Verifier) (sys : Flatten.System) (explorer : Explorer) :
    Web.Service Session where
  verify := v.verify sys explorer
  status := v.status explorer

end ContractVerifier
