import ServiceTunnel.Annotations
import ServiceTunnel.Quantity

/-!
# ServiceTunnel.Requirements

**What the client in the cluster may use.** There is a default for each requirement but the limit
on processor time, and an annotation of the Service can replace each. Every annotation is checked
before any counts, in a fixed order, and the first that is no quantity is reported.
-/

namespace ServiceTunnel

/-- The resources that a client asks for and may use at most. -/
structure Requirements where
  cpuRequest : Quantity := ⟨"10m"⟩
  cpuLimit : Option Quantity := none
  memoryRequest : Quantity := ⟨"32Mi"⟩
  memoryLimit : Quantity := ⟨"128Mi"⟩
deriving DecidableEq, Repr

namespace Requirements

/-- An annotation that is no quantity. -/
structure BadOverride where
  key : String
  raw : String
  reason : Quantity.Reason
deriving DecidableEq, Repr

/-- The wording of a bad annotation. -/
def BadOverride.message (b : BadOverride) : String :=
  s!"parsing annotation {b.key}={Text.quote b.raw}: {b.reason.message}"

/-- The quantity under `key`, if the annotation is there and not empty. -/
def override? (annotations : Dict String String) (key : String) :
    Except BadOverride (Option Quantity) :=
  match Annotations.nonEmpty? annotations key with
  | none => .ok none
  | some raw =>
    match Quantity.parse raw with
    | .ok q => .ok (some q)
    | .error reason => .error ⟨key, raw, reason⟩

/-- The requirements that the annotations of a Service ask for. -/
def resolve (annotations : Dict String String) : Except BadOverride Requirements := do
  let defaults : Requirements := {}
  let cpuRequest ← override? annotations Annotations.cpuRequest
  let cpuLimit ← override? annotations Annotations.cpuLimit
  let memoryRequest ← override? annotations Annotations.memoryRequest
  let memoryLimit ← override? annotations Annotations.memoryLimit
  return {
    cpuRequest := cpuRequest.getD defaults.cpuRequest
    cpuLimit := cpuLimit
    memoryRequest := memoryRequest.getD defaults.memoryRequest
    memoryLimit := memoryLimit.getD defaults.memoryLimit }

/-- The amounts asked for, by resource. -/
def requests (r : Requirements) : Dict String String :=
  .ofList [("cpu", r.cpuRequest.text), ("memory", r.memoryRequest.text)]

/-- The amounts allowed, by resource. -/
def limits (r : Requirements) : Dict String String :=
  .ofList ((r.cpuLimit.toList.map fun q => ("cpu", q.text)) ++ [("memory", r.memoryLimit.text)])

end Requirements

end ServiceTunnel
