import ContractVerifier.Fault

set_option autoImplicit false

/-! # The names of faults

A fault is described by its message, or by its name where the message is empty. All faults of the
verifier's own have a name, so that only a fault of another program can lack both
(`Fault.describe_ne_nil_of_named`).
-/

namespace ContractVerifier

theorem HostName.Problem.kind_ne_empty (p : HostName.Problem) : p.kind ≠ "" := by
  cases p <;> simp [HostName.Problem.kind]

theorem UrlError.kind_ne_empty (e : UrlError) : e.kind ≠ "" := by
  cases e with
  | encodedName p => exact p.kind_ne_empty
  | _ => simp [UrlError.kind]

theorem Unreadable.kind_ne_empty (u : Unreadable) : u.kind ≠ "" := by
  cases u <;> simp [Unreadable.kind]

theorem ServiceError.kind_ne_empty (e : ServiceError) : e.kind ≠ "" := by
  cases e <;> simp [ServiceError.kind]

namespace Fault

/-- Whether a fault has a name. One of another program need not. -/
def IsNamed : Fault → Prop
  | foreign kind _ => kind ≠ ""
  | _ => True

theorem fileKind_ne_empty (e : FileFault) : fileKind e ≠ "" := by
  cases e with
  | refused e _ => cases e <;> simp [fileKind]
  | _ => simp [fileKind]

theorem kind_ne_empty {f : Fault} (h : f.IsNamed) : f.kind ≠ "" := by
  cases f with
  | file e => exact fileKind_ne_empty e
  | json e => cases e <;> simp [kind]
  | address e => exact e.kind_ne_empty
  | unreadable u => exact u.kind_ne_empty
  | service e => exact e.kind_ne_empty
  | foreign kind _ => exact h
  | _ => simp [kind]

/-- **A fault that has a name is described**, whatever its message is. -/
theorem describe_ne_nil_of_named {f : Fault} (h : f.IsNamed) : f.describe ≠ [] :=
  f.describe_ne_nil (kind_ne_empty h)

end Fault

end ContractVerifier
