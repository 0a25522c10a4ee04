import ServiceTunnel.Text.Lowercase
import ServiceTunnel.Text.Part
import ServiceTunnel.Text.Quoted

/-!
# ServiceTunnel.Error

**What can go wrong.** A `ProviderError` is the answer of the machine provider to a call that
failed; an `OperatorError` is what a pass over a Service can end with. Each has its wording in one
function.
-/

namespace ServiceTunnel

/-! ### The provider -/

/-- A call to the provider that failed. -/
inductive ProviderError where
  /-- The request never had an answer. -/
  | http (message : String)
  /-- The answer has a status that is no success. -/
  | api (status : Nat) (body : String)
  /-- The answer to a query names an error. -/
  | graphQl (message : String)
  /-- The answer cannot be read. -/
  | decode (message : String)
  /-- A wait did not end in time. -/
  | timeout (message : String)
deriving DecidableEq, Repr

namespace ProviderError

/-- Whether the target of the call does not exist. -/
def isNotFound : ProviderError → Bool
  | .api status _ => status == 404
  | .graphQl message =>
    let lowered := Text.lowerFrom [] message.toList
    Text.hasPart "not found".toList lowered || Text.hasPart "could not find".toList lowered
  | _ => false

/-- Whether the target of the call exists already. -/
def isConflict : ProviderError → Bool
  | .api status body =>
    status == 409
      || (status == 422 && Text.hasPart "already".toList (Text.lowerFrom [] body.toList))
  | _ => false

/-- The wording. -/
def message : ProviderError → String
  | .http m => s!"request failed: {m}"
  | .api status body => s!"status {status}, body: {body}"
  | .graphQl m => s!"graphql error: {m}"
  | .decode m => s!"decoding response: {m}"
  | .timeout m => s!"timed out: {m}"

end ProviderError

/-! ### The operator -/

/-- What a pass can fail with. -/
inductive OperatorError where
  | kubeApi (message : String)
  | conflict (message : String)
  | configuration (message : String)
  | reconciliation (message : String)
  | provider (cause : ProviderError)
  | serialization (message : String)
  | notFound (message : String)
  | invalidState (message : String)
  | validation (message : String)
deriving DecidableEq, Repr

namespace OperatorError

/-- The wording. -/
def message : OperatorError → String
  | .kubeApi m => s!"Kubernetes API error: {m}"
  | .conflict m => s!"Conflict: {m}"
  | .configuration m => s!"Configuration error: {m}"
  | .reconciliation m => s!"Reconciliation error: {m}"
  | .provider e => s!"Fly.io API error: {e.message}"
  | .serialization m => s!"Serialization error: {m}"
  | .notFound m => s!"Resource not found: {m}"
  | .invalidState m => s!"Invalid state: {m}"
  | .validation m => s!"Validation error: {m}"

/-- The error of the provider behind an error of the operator. -/
def cause? : OperatorError → Option ProviderError
  | .provider e => some e
  | _ => none

end OperatorError

end ServiceTunnel
