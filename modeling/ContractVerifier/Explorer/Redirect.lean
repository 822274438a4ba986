import ContractVerifier.Explorer.Exchange
import ContractVerifier.Url.Escape
import ContractVerifier.Url.Join

set_option autoImplicit false

/-! # Redirections

A response may send the client to another address, which may be given as seen from the one
that was asked. Nobody goes there, but there must be such an address.

Main definition: `ExplorerResponse.checkTarget`.
-/

namespace ContractVerifier

/-- A fragment in its own characters, which is empty if there is none. -/
def Url.fragmentText (u : Url) : Text := Url.unescape (u.fragment.getD [])

/-- The address that a target means, as seen from the address that was asked. A target without
a host is at the same one, and one without a fragment has the same one. -/
def Url.redirected (asked target : Url) : Except UrlError Url := do
  let target ←
    if target.scheme = [] then .ok target
    else if (← target.hostName) = [] then target.withHost (← asked.hostName)
    else .ok target
  let target ← if target.isAbsolute then .ok target else asked.join target
  if asked.fragmentText ≠ [] ∧ target.fragmentText = [] then
    target.withFragment asked.fragmentText
  else return target

namespace ExplorerResponse

/-- Checks where the response sends the client, if it does. -/
def checkTarget (asked : Url) (r : ExplorerResponse) : Except Fault Unit :=
  match r.target? with
  | none => .ok ()
  | some location =>
    match Url.ofText location with
    | .error e => .error (.redirect e)
    | .ok target =>
      match asked.redirected target >>= Url.hostName with
      | .error e => .error (.address e)
      | .ok _ => .ok ()

end ExplorerResponse

end ContractVerifier
