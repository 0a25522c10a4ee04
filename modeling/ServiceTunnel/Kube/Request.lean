import ServiceTunnel.Http.Method
import ServiceTunnel.Http.Reference
import ServiceTunnel.Json.Reader
import ServiceTunnel.Kube.Failure
import ServiceTunnel.Kube.Metadata
import ServiceTunnel.Kube.Schema.Report
import ServiceTunnel.Kube.Schema.Service
import ServiceTunnel.Kube.Schema.Workload
import ServiceTunnel.Program

/-!
# ServiceTunnel.Kube.Request

**Requests to the cluster and their replies.** A request says what is to be done to which object.
Its method, path, query and content follow from that. A reply is a status code and a text; a code
of failure makes it a refusal, in the cluster's own words if the text has them.
-/

namespace ServiceTunnel.Kube

/-! ### Requests -/

/-- The kinds of objects that requests are about. -/
inductive ResourceKind where
  | service
  | configMap
  | deployment
deriving DecidableEq, Repr

namespace ResourceKind

/-- The path above the namespaces. -/
def root : ResourceKind → String
  | .service | .configMap => "/api/v1"
  | .deployment => "/apis/apps/v1"

/-- The word for the objects in a path. -/
def plural : ResourceKind → String
  | .service => "services"
  | .configMap => "configmaps"
  | .deployment => "deployments"

/-- What an object is expected to be. -/
def shape : ResourceKind → Json.Shape
  | .service => Schema.service
  | .configMap => Schema.configMap
  | .deployment => Schema.deployment

end ResourceKind

/-- What a request is about. -/
structure Target where
  kind : ResourceKind
  key : ObjectKey
  /-- Whether it is about the status of the object alone. -/
  status : Bool := false
deriving DecidableEq, Repr

/-- The path to a target. -/
def Target.path (t : Target) : String :=
  s!"{t.kind.root}/namespaces/{t.key.ns}/{t.kind.plural}/{t.key.name}"
    ++ if t.status then "/status" else ""

/-- What is to be done to a target. -/
inductive Action where
  | get
  /-- Replaces the members that the patch names, and removes those for which it has null. -/
  | merge (patch : Json)
  /-- Makes the object as given, whoever else has written to it. -/
  | apply (object : Json)
  | delete

/-- A request. -/
structure Request where
  target : Target
  action : Action

namespace Request

/-- The name under which the operator owns what it applies. -/
def fieldManager : String := "fly-tunnel-operator"

/-- The method. -/
def method (r : Request) : Http.Method :=
  match r.action with
  | .get => .get
  | .merge _ | .apply _ => .patch
  | .delete => .delete

/-- The options of the request, as a query. -/
def options (r : Request) : String :=
  match r.action with
  | .get => ""
  | .merge _ | .delete => "?"
  | .apply _ => s!"?&force=true&fieldManager={fieldManager}"

/-- The path and the query as they are sent, if they can be. -/
def reference? (r : Request) : Option Http.Reference :=
  Http.Reference.parse? (r.target.path ++ r.options)

/-- The type of the content with the content. -/
def content? (r : Request) : Option (String × Json) :=
  match r.action with
  | .get => none
  | .merge patch => some ("application/merge-patch+json", patch)
  | .apply object => some ("application/apply-patch+yaml", object)
  | .delete => some ("application/json", .obj [])

end Request

/-! ### Replies -/

/-- A reply. -/
structure Reply where
  status : Nat := 200
  body : String := "{}"
deriving DecidableEq, Repr

namespace Refusal

/-- The refusal that a value states. -/
def ofJson? (j : Json) : Option Refusal := do
  let slots ← j.slots? ["status", "message", "reason", "code"] 4
  match slots with
  | [status, message, reason, code] =>
    return {
      status := ← Json.required Json.str? status
      message := ← Json.orElse "" Json.str? message
      reason := ← Json.orElse "" Json.str? reason
      code := ← Json.required Json.asUInt16 code }
  | _ => none

/-- The refusal that a reply of failure stands for. A text that states none is quoted. -/
def ofReply (r : Reply) : Refusal :=
  ((Json.parse r.body).toOption.bind ofJson?).getD {
    status := Http.statusText r.status
    message := Text.quote r.body
    reason := "Failed to parse error data"
    code := r.status }

end Refusal

/-! ### Exchanges -/

/-- A request is answered with a reply. -/
def exchange : Interface := ⟨Request, fun _ => Reply⟩

/-- A program that sends requests to the cluster. -/
abbrev Session (α : Type) := Program exchange α

namespace Session

/-- Sends a request, and gives the text of a reply of success. An object without a name is not
asked about. -/
def send (r : Request) : Session (Except Failure String) :=
  if r.target.key.name = "" then .done (.error .unnamed)
  else if r.reference?.isNone then .done (.error .unsendable)
  else .call r fun (reply : Reply) =>
    .done (if Http.isFailure reply.status then .error (.refused (.ofReply reply))
      else .ok reply.body)

/-- The value of a shape that a text holds. -/
def read (shape : Json.Shape) (body : String) : Except Failure Json :=
  (Json.parseAs shape body).mapError fun e => .unreadable e.message

/-- Reads the reply to a deletion: the object as it was, or a report. -/
def readDeletion (kind : ResourceKind) (body : String) : Except Failure Json := do
  let j ← read .any body
  let isReport := (j.get? "kind").bind Json.str? == some "Status"
  read (if isReport then Schema.report else kind.shape) body

/-- Sends a request, and reads the reply. -/
def fetch (r : Request) : Session (Except Failure Json) :=
  (send r).bind fun reply => .done <| reply.bind <|
    match r.action with
    | .delete => readDeletion r.target.kind
    | _ => read r.target.kind.shape

end Session

end ServiceTunnel.Kube
