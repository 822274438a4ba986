import ContractVerifier.Explorer.Outcome

set_option autoImplicit false

/-! # Breadcrumbs

A note is left with the error monitor before each attempt to verify a contract.
-/

namespace ContractVerifier.Monitoring

/-- The note that is left before each attempt to verify a contract. -/
structure Breadcrumb where
  category : Text
  message : Text
  level : Text
  deriving DecidableEq, Repr

/-- The note for one attempt. -/
def Breadcrumb.ofAttempt (method : VerificationMethod) (address : Text) : Breadcrumb :=
  ⟨"verification".toList, method.text.toList ++ ' ' :: address, "info".toList⟩

/-- A note as a value. -/
def Breadcrumb.toJson (b : Breadcrumb) : Json :=
  .ofMembers [("category", .text b.category), ("message", .text b.message),
    ("level", .text b.level), ("data", .object [])]

end ContractVerifier.Monitoring
