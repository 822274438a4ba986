import ContractVerifier.Web.Message

set_option autoImplicit false

/-! # Routing

Which endpoint a request goes to. A path that is known under another method, or but for
slashes at its end, is told apart from one that is not known at all.
-/

namespace ContractVerifier.Web

/-- The endpoints. -/
inductive Endpoint where
  | submit
  | status
  | health
  deriving DecidableEq, Repr

/-- Where a contract is submitted and its status asked for. -/
def contractPath : String := "/api/chainup"

/-- Where the service is asked how it is. -/
def healthPath : String := "/health"

/-- A path with a method and the endpoint behind them. -/
structure Route where
  path : String
  method : String
  endpoint : Endpoint
  deriving DecidableEq, Repr

/-- The routes, in the order in which they are tried. -/
def routes : List Route :=
  [⟨contractPath, "POST", .submit⟩, ⟨contractPath, "GET", .status⟩, ⟨healthPath, "GET", .health⟩]

/-- Why a request has no endpoint. -/
inductive Stray where
  /-- The path is known, and this is the first of its methods. -/
  | otherMethod (allowed : String)
  /-- The path without slashes at its end is known. -/
  | elsewhere (path : Text)
  | nowhere
  deriving DecidableEq, Repr

/-- A path as it is compared with those of the routes: a line end may end it. -/
def knownPath (path : Text) : Text :=
  if path.getLast? = some '\n' then path.dropLast else path

/-- The routes of a path. -/
def routesOf (path : Text) : List Route := routes.filter fun r => r.path.toList = knownPath path

/-- The endpoint of a path under a method. -/
def endpoint (method path : Text) : Except Stray Endpoint :=
  let known := routesOf path
  match known.find? fun r => r.method.toList = method with
  | some r => .ok r.endpoint
  | none =>
    match known with
    | r :: _ => .error (.otherMethod r.method)
    -- a path under no route may be a known one with slashes too many
    | [] =>
      let shorter := (path.reverse.dropWhile (· = '/')).reverse
      if routesOf shorter ≠ [] then .error (.elsewhere shorter) else .error .nowhere

/-- Whether `c` stands as it is in the address of a redirection. -/
def keptInLocation (c : Char) : Bool :=
  Url.isUnreserved c || ":/%#?=@[]!$&'()*+,;".toList.contains c

/-- The address of a path where the request was sent to, with the query of the request. -/
def Request.location (r : Request) (path : Text) : Text :=
  let query := Utf8.decodeLossy r.query
  Url.escape keptInLocation (r.origin ++ path ++ if query = [] then [] else '?' :: query)

/-- The answer to a request that has no endpoint. -/
def Stray.answer (r : Request) : Stray → Answer
  | otherMethod allowed =>
    { status := 405, content := some (.ofMembers [("detail", .string "Method Not Allowed")])
      allow := some allowed.toList }
  | elsewhere path =>
    { status := 307, content := none, location := some (r.location path) }
  | nowhere => { status := 404, content := some (.ofMembers [("detail", .string "Not Found")]) }

end ContractVerifier.Web
