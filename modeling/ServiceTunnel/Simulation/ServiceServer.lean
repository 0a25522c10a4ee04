import ServiceTunnel.Json.Merge
import ServiceTunnel.Json.Writer
import ServiceTunnel.Kube.Client
import ServiceTunnel.Admission
import ServiceTunnel.Simulation.Planned

/-!
# ServiceTunnel.Simulation.ServiceServer

**The cluster's store of Services as a value.** Services are kept as JSON, so that a patch changes
what it names and nothing else. Every write gives a new version and an event for the watch. A
Service that is being deleted disappears with the write after which it has no finalizers.
-/

namespace ServiceTunnel.Simulation

open Kube

/-- The store. -/
structure ServiceServer where
  documents : Dict ObjectKey Json := ∅
  /-- The number of versions given out. -/
  version : Nat := 0
  refusals : List (Planned Http.Method Refusal) := []
  /-- The events that the watch has still to report, in order. -/
  events : List WatchEvent := []

namespace ServiceServer

instance : Inhabited ServiceServer := ⟨{}⟩

/-- The Service that a document holds. -/
def serviceOf (document : Json) : Service := (Service.ofJson? document).getD {}

/-- A document with a version. -/
def withVersion (document : Json) (version : Nat) : Json :=
  document.merge (.obj [("metadata", .obj [("resourceVersion", .str (toString version))])])

/-- Stores a document under a new version. -/
def store (s : ServiceServer) (key : ObjectKey) (document : Json) : ServiceServer :=
  { s with
    documents := s.documents.insert key (withVersion document (s.version + 1))
    version := s.version + 1 }

/-- Adds an event. -/
def report (s : ServiceServer) (event : WatchEvent) : ServiceServer :=
  { s with events := s.events ++ [event] }

/-- Removes a Service. -/
def remove (s : ServiceServer) (key : ObjectKey) : ServiceServer :=
  match s.documents.get? key with
  | some document =>
    { s with documents := s.documents.erase key }.report (.deleted (serviceOf document))
  | none => s

/-- Writes a document. -/
def write (s : ServiceServer) (key : ObjectKey) (document : Json) : ServiceServer :=
  let service := serviceOf (withVersion document (s.version + 1))
  let s := s.store key document
  if service.isDeleting && service.finalizers.isEmpty then s.remove key
  else s.report (.applied service)

/-- Writes a new Service. -/
def put (s : ServiceServer) (document : Json) : ServiceServer :=
  s.write (serviceOf document).metadata.key document

/-- Changes a Service by a patch. -/
def patch (s : ServiceServer) (key : ObjectKey) (changes : Json) : ServiceServer :=
  match s.documents.get? key with
  | some document => s.write key (document.merge changes)
  | none => s

/-- The events by which the watch first lists what exists. -/
def listing (s : ServiceServer) : List WatchEvent :=
  .listStart :: (s.documents.values.map fun d => .listed (serviceOf d)) ++ [.listEnd]

/-! ### Requests -/

/-- The reply of a refusal. -/
def refuse (r : Refusal) : Reply where
  status := r.code
  body := Json.compact (.obj [("kind", .str "Status"), ("apiVersion", .str "v1"),
    ("status", .str r.status), ("message", .str r.message), ("reason", .str r.reason),
    ("code", .ofNat r.code)])

/-- The reply about a Service that is not there. -/
def missing (key : ObjectKey) : Reply :=
  refuse ⟨"Failure", s!"services \"{key.name}\" not found", "NotFound", 404⟩

/-- The reply to a patch of a version that is not there any more. -/
def modified (key : ObjectKey) : Reply :=
  refuse ⟨"Failure", s!"services \"{key.name}\" modified", "Conflict", 409⟩

/-- The reply with the Service as it is stored. -/
def lookUp (s : ServiceServer) (key : ObjectKey) : Reply :=
  match s.documents.get? key with
  | some document => { body := document.compact }
  | none => missing key

/-- The version that a patch asks for. -/
def versionIn (changes : Json) : Option String :=
  (changes.get? "metadata").bind fun m => (m.get? "resourceVersion").bind Json.str?

/-- Answers a patch. -/
def answerPatch (s : ServiceServer) (key : ObjectKey) (changes : Json) : Reply × ServiceServer :=
  match s.documents.get? key with
  | none => (missing key, s)
  | some document =>
    let asked := versionIn changes
    if asked.isSome && asked != (serviceOf document).metadata.resourceVersion then
      (modified key, s)
    else
      let after := withVersion (document.merge changes) (s.version + 1)
      ({ body := after.compact }, s.patch key changes)

/-- The key of the Service that a path leads to, or to whose status it leads. -/
def keyAt? (path : String) : Option ObjectKey :=
  match path.splitOn "/" with
  | ["", "api", "v1", "namespaces", ns, "services", name]
  | ["", "api", "v1", "namespaces", ns, "services", name, "status"] => some ⟨ns, name⟩
  | _ => none

/-- Answers a request by its path, unless it is planned to fail. -/
def answer (r : Request) (s : ServiceServer) : Reply × ServiceServer :=
  let (due, refusals) := Planned.occur r.method s.refusals
  let s := { s with refusals := refusals }
  match due, r.reference?.bind fun reference => keyAt? reference.path, r.action with
  | refusal :: _, _, _ => (refuse refusal, s)
  | [], some key, .get => (s.lookUp key, s)
  | [], some key, .merge changes => s.answerPatch key changes
  | [], _, _ => (missing r.target.key, s)

end ServiceServer

end ServiceTunnel.Simulation
