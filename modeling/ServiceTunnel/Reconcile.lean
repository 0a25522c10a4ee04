import ServiceTunnel.Admission
import ServiceTunnel.Lifecycle

/-!
# ServiceTunnel.Reconcile

**One pass over a Service.** A pass looks the Service up and does what is missing: it puts the
operator's finalizer on before anything is made, sets the tunnel up and records it, repairs the
address in the status, keeps the tunnel in step, and takes it down before it lets a deleted Service
go. Services outside the class are left alone.
-/

namespace ServiceTunnel.Reconcile

open Kube

/-- Whether the operator's finalizer is on a Service. -/
def hasFinalizer (service : Service) : Bool := service.finalizers.contains Annotations.finalizer

/-- The address at the first point of entry. -/
def ingressIp? (service : Service) : Option String := service.firstIngress?.bind (·.ip)

/-- Goes on with the value of a program, unless it failed. -/
def andThen {α β : Type} (p : Operation (Except OperatorError α))
    (f : α → Operation (Except OperatorError β)) : Operation (Except OperatorError β) :=
  p.bind fun
    | .ok a => f a
    | .error e => .done (.error e)

/-- Takes the tunnel of a deleted Service down and takes the operator's finalizer off. -/
def finalize (config : TunnelConfig) (service : Service) (ns name : String) :
    Operation (Except OperatorError Unit) :=
  (Lifecycle.teardown config service).bind fun _ =>
    if hasFinalizer service then
      Operation.service (.setFinalizers ns name service.metadata.resourceVersion
        (service.finalizers.filter (· != Annotations.finalizer)))
    else .done (.ok ())

/-- Sets the tunnel up and records it on the Service as it is by then. If the Service is gone, the
tunnel is taken down again. -/
def establish (config : TunnelConfig) (service : Service) (ns name : String) :
    Operation (Except OperatorError Unit) :=
  andThen (Lifecycle.provision config service) fun tunnel =>
  let annotations := (TunnelRecord.ofTunnel tunnel).toAnnotations
  andThen (Operation.service (.get ns name)) fun (current : Option Service) =>
    match current with
    | none =>
      (Lifecycle.teardown config (service.withAnnotations annotations)).bind fun _ =>
        .done (.ok ())
    | some current =>
      andThen (Operation.service
        (.patchAnnotations ns name current.metadata.resourceVersion annotations)) fun () =>
      Operation.service (.patchIngress ns name tunnel.publicIp)

/-- Shows the recorded address in the status, and keeps the tunnel in step as far as possible. -/
def maintain (config : TunnelConfig) (service : Service) (ns name : String) :
    Operation (Except OperatorError Unit) :=
  let repair : Operation (Except OperatorError Unit) :=
    match (TunnelRecord.ofService service).publicIp with
    | some ip =>
      if ingressIp? service = some ip then .done (.ok ())
      else Operation.service (.patchIngress ns name ip)
    | none => .done (.ok ())
  andThen repair fun () =>
    (Lifecycle.update config service).bind fun _ => .done (.ok ())

/-- Cares for a Service that has the operator's finalizer. -/
def serve (config : TunnelConfig) (service : Service) (ns name : String) :
    Operation (Except OperatorError Unit) :=
  if (TunnelRecord.ofService service).isProvisioned then maintain config service ns name
  else establish config service ns name

/-- One pass over the Service `ns/name`. -/
def pass (config : TunnelConfig) (cls ns name : String) : Operation (Except OperatorError Unit) :=
  andThen (Operation.service (.get ns name)) fun (found : Option Service) =>
    match found with
    | none => .done (.ok ())
    | some service =>
      if !isManaged service cls then .done (.ok ())
      else if service.isDeleting then finalize config service ns name
      else if hasFinalizer service then serve config service ns name
      else
        andThen (Operation.service (.setFinalizers ns name service.metadata.resourceVersion
          (service.finalizers ++ [Annotations.finalizer]))) fun () =>
        andThen (Operation.service (.get ns name)) fun (found : Option Service) =>
          match found with
          | none => .done (.ok ())
          | some service => serve config service ns name

end ServiceTunnel.Reconcile
