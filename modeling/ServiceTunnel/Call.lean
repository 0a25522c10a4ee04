import ServiceTunnel.Error
import ServiceTunnel.Machine
import ServiceTunnel.Program
import ServiceTunnel.Workload

/-!
# ServiceTunnel.Call

**What the operator asks of the world:** calls to the provider of machines, to the cluster for the
clients of tunnels, and to the cluster for Services.
-/

namespace ServiceTunnel

/-! ### The provider -/

/-- A call to the provider. Deleting what is not there succeeds. -/
inductive ProviderCall where
  /-- Makes an application in an organisation, unless it is there. -/
  | ensureApp (app org : String)
  /-- Deletes an application with everything in it. -/
  | deleteApp (app : String)
  | createMachine (app : String) (input : MachineInput)
  | getMachine (app id : String)
  | updateMachine (app id : String) (input : MachineInput)
  | deleteMachine (app id : String)
  /-- Waits until an instance of a machine is in a state, at most so many seconds. -/
  | waitForMachine (app id instanceId state : String) (seconds : Nat)
  /-- Allocates an IPv4 address to an application. -/
  | allocateIp (app : String)
  | releaseIp (app id : String)
  | listIps (app : String)
deriving DecidableEq

namespace ProviderCall

/-- What a call that succeeds gives. -/
abbrev Result : ProviderCall → Type
  | .createMachine .. => Machine
  | .getMachine .. => Machine
  | .updateMachine .. => Machine
  | .allocateIp .. => IpAddress
  | .listIps .. => List IpAddress
  | _ => Unit

end ProviderCall

/-! ### The cluster -/

/-- A call to the cluster for the client of a tunnel. Deleting what is not there succeeds. -/
inductive WorkloadCall where
  | applyConfigMap (configMap : Kube.ConfigMap)
  | applyDeployment (deployment : Kube.Deployment)
  | deleteDeployment (ns name : String)
  | deleteConfigMap (ns name : String)
deriving DecidableEq

/-- A call to the cluster for the Service `ns/name`. A write that names a version succeeds only if
the Service still has it. -/
inductive ServiceCall where
  | get (ns name : String)
  | setFinalizers (ns name : String) (version : Option String) (finalizers : List String)
  /-- Adds annotations, replacing those of the same keys. -/
  | patchAnnotations (ns name : String) (version : Option String)
      (annotations : Dict String String)
  /-- Makes `ip` the one address in the status. -/
  | patchIngress (ns name ip : String)
deriving DecidableEq

namespace ServiceCall

/-- What a call that succeeds gives. -/
abbrev Result : ServiceCall → Type
  | .get .. => Option Kube.Service
  | _ => Unit

end ServiceCall

/-! ### All calls -/

/-- A call of the operator. -/
inductive Call where
  | provider (c : ProviderCall)
  /-- A call to the provider that is given up after so many milliseconds. -/
  | providerWithin (limit : Nat) (c : ProviderCall)
  | workload (c : WorkloadCall)
  | service (c : ServiceCall)
deriving DecidableEq

namespace Call

/-- What a call is answered with; a call that is given up has no answer. -/
abbrev Reply : Call → Type
  | .provider c => Except ProviderError c.Result
  | .providerWithin _ c => Option (Except ProviderError c.Result)
  | .workload _ => Except OperatorError Unit
  | .service c => Except OperatorError c.Result

/-- The calls of the operator with their answers. -/
def interface : Interface := ⟨Call, Reply⟩

end Call

/-- A program of the operator. -/
abbrev Operation (α : Type) := Program Call.interface α

namespace Operation

/-- Asks the provider; its errors become errors of the operator. -/
def provider (c : ProviderCall) : Operation (Except OperatorError c.Result) :=
  .call (.provider c) fun (r : Except ProviderError c.Result) =>
    .done (r.mapError OperatorError.provider)

/-- Asks the cluster for a change of a tunnel's client. -/
def workload (c : WorkloadCall) : Operation (Except OperatorError Unit) :=
  .call (.workload c) .done

/-- Asks the cluster about a Service. -/
def service (c : ServiceCall) : Operation (Except OperatorError c.Result) :=
  .call (.service c) .done

end Operation

end ServiceTunnel
