import Brezel.Domain.Text

/-!
# Bindings

A binding hands one authorised operation to the data plane.  It is made by `BindAuthorizedSandbox`,
which checks its fields and its end (`SandboxBinding.acceptable`), and the data plane validates it
again before it calls the engine (`SandboxBinding.verdict`): the binding must not be revoked or
expired, and whoever made it must still find it current.
-/

namespace Brezel.Node

open Domain

/-- Why a binding is refused. -/
inductive BindingError
  | invalid
  | stale
  | revoked
  deriving DecidableEq, Repr

/-- The handoff of one admitted operation to the data plane. -/
structure SandboxBinding where
  projectID : String
  sandboxID : String
  backendID : String
  operationID : String
  revision : Nat
  nodeGeneration : Nat
  expiresAt : Time
  deriving DecidableEq, Repr

/-- The text passes the checks of `BindAuthorizedSandbox`. -/
def bindable (text : String) : Bool :=
  !isBlank text && !containsAny text ['\x00', '\r', '\n']

/-- `BindAuthorizedSandbox` accepts the binding. -/
def SandboxBinding.acceptable (binding : SandboxBinding) (at_ : Time) : Bool :=
  bindable binding.projectID && bindable binding.sandboxID && bindable binding.backendID &&
    bindable binding.operationID && 1 ≤ binding.revision && binding.expiresAt ≠ zeroTime &&
    at_ < binding.expiresAt

/-- The fields of the binding are filled in. -/
def SandboxBinding.wellFormed (binding : SandboxBinding) : Bool :=
  !isBlank binding.projectID && !isBlank binding.sandboxID && !isBlank binding.backendID &&
    !isBlank binding.operationID && 1 ≤ binding.revision && binding.expiresAt ≠ zeroTime

/-- The verdict of `validate` on a binding, from whether it is revoked, the clock, and what the
verifier says. -/
def SandboxBinding.verdict (binding : SandboxBinding) (isRevoked : Bool) (at_ : Time)
    (isCurrent : Bool) : Option BindingError :=
  if !binding.wellFormed then some .invalid
  else if isRevoked then some .revoked
  else if !(at_ < binding.expiresAt) || !isCurrent then some .stale
  else none

end Brezel.Node
