import ServiceTunnel.Error
import ServiceTunnel.Text.Quoted

/-!
# ServiceTunnel.Kube.Failure

**How a request to the cluster can fail:** the cluster refuses it, it cannot be made, or the answer
cannot be read. A refusal for want of the object, or because the object has changed, is told apart
from all others by its code.
-/

namespace ServiceTunnel.Kube

/-- The cluster's refusal of a request. -/
structure Refusal where
  status : String
  message : String
  reason : String
  code : Nat
deriving DecidableEq, Repr

namespace Refusal

/-- The wording, with all parts spelled out. -/
def text (r : Refusal) : String :=
  s!"ApiError: {r.message}: {r.reason} (ErrorResponse \x7b status: {Text.quote r.status}, "
    ++ s!"message: {Text.quote r.message}, reason: {Text.quote r.reason}, code: {r.code} \x7d)"

end Refusal

/-- A request to the cluster that failed. -/
inductive Failure where
  | refused (r : Refusal)
  /-- The name of the object is empty. -/
  | unnamed
  /-- The name cannot stand in a request. -/
  | unsendable
  /-- The answer cannot be read. -/
  | unreadable (why : String)
deriving DecidableEq, Repr

namespace Failure

/-- The wording. -/
def text : Failure → String
  | .refused r => r.text
  | .unnamed =>
    "Failed to build request: failed to validate request: A non-empty name is required"
  | .unsendable =>
    "Failed to build request: failed to build request: invalid uri character"
  | .unreadable why => s!"Error deserializing response: {why}"

/-- The operator's error for a failure. -/
def toError : Failure → OperatorError
  | .refused r =>
    if r.code = 404 then .notFound r.message
    else if r.code = 409 then .conflict r.message
    else .kubeApi r.text
  | f => .kubeApi f.text

end Failure

end ServiceTunnel.Kube
