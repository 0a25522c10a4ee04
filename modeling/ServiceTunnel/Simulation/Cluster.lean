import ServiceTunnel.Call

/-!
# ServiceTunnel.Simulation.Cluster

**The cluster as a value.** A cluster stores the objects of tunnels' clients, and Services with
their versions. Every write to a Service gives it a new version; a Service that is being deleted
disappears once it has no finalizers.
-/

namespace ServiceTunnel.Simulation

open Kube

/-- What exists in the cluster. -/
structure Cluster where
  configMaps : Dict ObjectKey ConfigMap := ∅
  deployments : Dict ObjectKey Deployment := ∅
  services : Dict ObjectKey Service := ∅
  /-- The number of versions given out. -/
  version : Nat := 0

namespace Cluster

instance : Inhabited Cluster := ⟨{}⟩

/-! ### Clients of tunnels -/

/-- Answers a call about the client of a tunnel. -/
def performWorkload (c : Cluster) : WorkloadCall → Cluster
  | .applyConfigMap m => { c with configMaps := c.configMaps.insert m.metadata.key m }
  | .applyDeployment d => { c with deployments := c.deployments.insert d.metadata.key d }
  | .deleteDeployment ns name => { c with deployments := c.deployments.erase ⟨ns, name⟩ }
  | .deleteConfigMap ns name => { c with configMaps := c.configMaps.erase ⟨ns, name⟩ }

/-! ### Services -/

/-- Stores a Service under a new version. -/
def store (c : Cluster) (key : ObjectKey) (service : Service) : Cluster :=
  { c with
    services := c.services.insert key { service with
      metadata := { service.metadata with resourceVersion := some (toString (c.version + 1)) } }
    version := c.version + 1 }

/-- Removes a Service that is being deleted and has no finalizers. -/
def collect (c : Cluster) (key : ObjectKey) : Cluster :=
  match c.services.get? key with
  | some s =>
    if s.isDeleting && s.finalizers.isEmpty then { c with services := c.services.erase key } else c
  | none => c

/-- Changes the metadata of a Service. -/
def withMetadata (service : Service) (f : Metadata → Metadata) : Service :=
  { service with metadata := f service.metadata }

/-- Changes the Service `key` as stored, unless it has not the version asked for. -/
def write (c : Cluster) (key : ObjectKey) (version : Option String) (f : Service → Service) :
    Except OperatorError Unit × Cluster :=
  match c.services.get? key with
  | none => (.error (.notFound s!"services \"{key.name}\""), c)
  | some s =>
    if version.isSome && version != s.metadata.resourceVersion then
      (.error (.conflict s!"services \"{key.name}\" modified"), c)
    else (.ok (), c.store key (f s))

/-- The Service with other finalizers. -/
def putFinalizers (finalizers : List String) (s : Service) : Service :=
  withMetadata s fun m => { m with finalizers := some finalizers }

/-- The Service with more annotations. -/
def addAnnotations (annotations : Dict String String) (s : Service) : Service :=
  s.withAnnotations (s.annotations.merge annotations)

/-- The Service with an address in its status. -/
def putAddress (ip : String) (s : Service) : Service := { s with status := some (.ofAddress ip) }

/-- Answers a call about a Service. -/
def performService (c : Cluster) :
    (call : ServiceCall) → Except OperatorError call.Result × Cluster
  | .get ns name => (.ok (c.services.get? ⟨ns, name⟩), c)
  | .setFinalizers ns name version finalizers =>
    match c.write ⟨ns, name⟩ version (putFinalizers finalizers) with
    | (.ok (), c) => (.ok (), c.collect ⟨ns, name⟩)
    | refused => refused
  | .patchAnnotations ns name version annotations =>
    c.write ⟨ns, name⟩ version (addAnnotations annotations)
  | .patchIngress ns name ip => c.write ⟨ns, name⟩ none (putAddress ip)

/-! ### Changes by others -/

/-- A change of a Service by someone else. -/
inductive Change where
  | touch
  | remove
  | markDeleted
  | clearStatus
  | setFinalizers (finalizers : List String)
  /-- Sets annotations, or removes those without a value. -/
  | annotate (annotations : List (String × Option String))
  | setSpec (spec : Option ServiceSpec)
  | setStatus (status : Option ServiceStatus)

/-- The Service after a change that leaves it in place. -/
def Change.apply (s : Service) : Change → Service
  | .touch => s
  | .remove => s
  | .markDeleted => withMetadata s fun m =>
    { m with deletionTimestamp := some "1970-01-01T00:00:00Z" }
  | .clearStatus => { s with status := none }
  | .setFinalizers finalizers => putFinalizers finalizers s
  | .annotate annotations => s.withAnnotations (annotations.foldl (fun m a =>
    match a.2 with
    | some v => m.insert a.1 v
    | none => m.erase a.1) s.annotations)
  | .setSpec spec => { s with spec := spec }
  | .setStatus status => { s with status := status }

/-- Makes a change. -/
def change (c : Cluster) (key : ObjectKey) : Change → Cluster
  | .remove => { c with services := c.services.erase key }
  | change =>
    match c.services.get? key with
    | some s => (c.store key (change.apply s)).collect key
    | none => { c with version := c.version + 1 }

end Cluster

end ServiceTunnel.Simulation
