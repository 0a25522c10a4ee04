import ServiceTunnel.Call
import ServiceTunnel.Kube.Request

/-!
# ServiceTunnel.Kube.Client

**The operator's calls to the cluster as requests.** Every call is one request. A call that changes
a Service sends a patch that names nothing but what changes, and the version if the call names one;
a tunnel's client is applied as a whole, whether it is there or not.
-/

namespace ServiceTunnel.Kube

namespace Session

/-! ### Services -/

/-- Looks a Service up; one that the cluster does not find is none. -/
def lookUp (key : ObjectKey) : Session (Except Failure (Option Service)) :=
  (fetch ⟨⟨.service, key, false⟩, .get⟩).bind fun
    | .ok j =>
      .done (match Service.ofJson? j with
        | some service => .ok (some service)
        | none => .error (.unreadable "no Service"))
    | .error (.refused r) =>
      .done (if r.reason = "NotFound" then .ok none else .error (.refused r))
    | .error f => .done (.error f)

/-- The part of a patch that changes the metadata of an object, of a version if one is named. -/
def metadataPatch (name : String) (value : Json) (version : Option String) : Json :=
  .obj [("metadata", .record [(name, some value), ("resourceVersion", version.map .str)])]

/-- Patches a Service. -/
def patch (key : ObjectKey) (status : Bool) (changes : Json) : Session (Except Failure Unit) :=
  (fetch ⟨⟨.service, key, status⟩, .merge changes⟩).bind fun r =>
    .done (r.map fun _ => ())

/-- The requests of a call about a Service. -/
def service (c : ServiceCall) : Session (Except Failure c.Result) :=
  match c with
  | .get ns name => lookUp ⟨ns, name⟩
  | .setFinalizers ns name version finalizers =>
    patch ⟨ns, name⟩ false (metadataPatch "finalizers" (.strings finalizers) version)
  | .patchAnnotations ns name version annotations =>
    patch ⟨ns, name⟩ false (metadataPatch "annotations" (.texts annotations) version)
  | .patchIngress ns name ip =>
    patch ⟨ns, name⟩ true (.obj [("status", (ServiceStatus.ofAddress ip).toJson)])

/-! ### Clients of tunnels -/

/-- The error for an object that cannot be applied. -/
def nameless : OperatorError := .invalidState "object has no name"

/-- Applies an object under its name, in the namespace `default` if it has none. -/
def apply (kind : ResourceKind) (metadata : Metadata) (object : Json) :
    Session (Except OperatorError Unit) :=
  match metadata.name with
  | none => .done (.error nameless)
  | some name =>
    (fetch ⟨⟨kind, ⟨metadata.ns.getD "default", name⟩, false⟩, .apply object⟩).bind fun r =>
      .done ((r.mapError Failure.toError).map fun _ => ())

/-- Deletes an object; one that is not there is deleted. -/
def delete (kind : ResourceKind) (key : ObjectKey) : Session (Except OperatorError Unit) :=
  (fetch ⟨⟨kind, key, false⟩, .delete⟩).bind fun
    | .ok _ => .done (.ok ())
    | .error (.refused r) =>
      .done (if r.code = 404 then .ok () else .error (Failure.refused r).toError)
    | .error f => .done (.error f.toError)

/-- The requests of a call about the client of a tunnel. -/
def workload : WorkloadCall → Session (Except OperatorError Unit)
  | .applyConfigMap m => apply .configMap m.metadata m.toJson
  | .applyDeployment d => apply .deployment d.metadata d.toJson
  | .deleteDeployment ns name => delete .deployment ⟨ns, name⟩
  | .deleteConfigMap ns name => delete .configMap ⟨ns, name⟩

end Session

end ServiceTunnel.Kube
