import ServiceTunnel.Kube.Service

/-!
# ServiceTunnel.Annotations

**The annotations that the operator reads and writes.** Annotations of the Service are the only
place where the operator keeps anything: `TunnelRecord` is what it has written there about a
tunnel, `Placement` what the users ask for in the choice of a machine. An empty value counts as a
missing one.
-/

namespace ServiceTunnel

namespace Annotations

/-! ### Keys -/

def flyApp : String := "fly-tunnel-operator.dev/fly-app"
def machineId : String := "fly-tunnel-operator.dev/machine-id"
def frpcDeployment : String := "fly-tunnel-operator.dev/frpc-deployment"
def ipId : String := "fly-tunnel-operator.dev/ip-id"
def publicIp : String := "fly-tunnel-operator.dev/public-ip"

def flyRegion : String := "fly-tunnel-operator.dev/fly-region"
def flyMachineSize : String := "fly-tunnel-operator.dev/fly-machine-size"
def cpuRequest : String := "fly-tunnel-operator.dev/frpc-cpu-request"
def cpuLimit : String := "fly-tunnel-operator.dev/frpc-cpu-limit"
def memoryRequest : String := "fly-tunnel-operator.dev/frpc-memory-request"
def memoryLimit : String := "fly-tunnel-operator.dev/frpc-memory-limit"

/-- The key on a pod template for the digest of the client's configuration. -/
def configHash : String := "fly-tunnel-operator.dev/config-hash"

/-- The label on a workload that leads back to its Service. -/
def serviceLabel : String := "fly-tunnel-operator.dev/service"

/-- The finalizer that holds a Service back until its tunnel is gone. -/
def finalizer : String := "fly-tunnel-operator.dev/finalizer"

/-- The keys under which a tunnel is recorded. -/
def recordKeys : List String := [flyApp, machineId, frpcDeployment, ipId, publicIp]

/-- The value under `key`, unless it is empty. -/
def nonEmpty? (annotations : Dict String String) (key : String) : Option String :=
  (annotations.get? key).filter (· != "")

end Annotations

/-! ### What is recorded of a tunnel -/

/-- A tunnel that stands: the names and addresses of its parts. -/
structure Tunnel where
  appName : String
  machineId : String
  publicIp : String
  ipId : String
  deploymentName : String
deriving DecidableEq, Repr

/-- What a Service's annotations say about its tunnel. Any part may be missing. -/
structure TunnelRecord where
  flyApp : Option String := none
  machineId : Option String := none
  frpcDeployment : Option String := none
  ipId : Option String := none
  publicIp : Option String := none
deriving DecidableEq, Repr

namespace TunnelRecord

open Annotations

/-- Reads the record from annotations. -/
def ofAnnotations (annotations : Dict String String) : TunnelRecord where
  flyApp := nonEmpty? annotations Annotations.flyApp
  machineId := nonEmpty? annotations Annotations.machineId
  frpcDeployment := nonEmpty? annotations Annotations.frpcDeployment
  ipId := nonEmpty? annotations Annotations.ipId
  publicIp := nonEmpty? annotations Annotations.publicIp

/-- Reads the record from a Service. -/
def ofService (service : Kube.Service) : TunnelRecord := ofAnnotations service.annotations

/-- The record of a tunnel that stands. -/
def ofTunnel (t : Tunnel) : TunnelRecord where
  flyApp := some t.appName
  machineId := some t.machineId
  frpcDeployment := some t.deploymentName
  ipId := some t.ipId
  publicIp := some t.publicIp

/-- A recorded application means that the tunnel has been set up. -/
def isProvisioned (r : TunnelRecord) : Bool := r.flyApp.isSome

/-- The parts of the record with their keys. -/
def parts (r : TunnelRecord) : List (String × Option String) := [
  (Annotations.flyApp, r.flyApp), (Annotations.machineId, r.machineId),
  (Annotations.frpcDeployment, r.frpcDeployment), (Annotations.ipId, r.ipId),
  (Annotations.publicIp, r.publicIp)]

/-- The annotations for the parts that are there. -/
def toAnnotations (r : TunnelRecord) : Dict String String :=
  .ofList (r.parts.filterMap fun p => p.2.map (p.1, ·))

end TunnelRecord

/-! ### What the users ask for -/

/-- Where and on what machine a tunnel should end, as far as the Service says. -/
structure Placement where
  region : Option String := none
  size : Option String := none
deriving DecidableEq, Repr

namespace Placement

/-- Reads the wishes from annotations. -/
def ofAnnotations (annotations : Dict String String) : Placement where
  region := Annotations.nonEmpty? annotations Annotations.flyRegion
  size := Annotations.nonEmpty? annotations Annotations.flyMachineSize

end Placement

end ServiceTunnel
