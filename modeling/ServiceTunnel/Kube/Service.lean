import ServiceTunnel.Kube.Metadata
import ServiceTunnel.Kube.Schema.Service

/-!
# ServiceTunnel.Kube.Service

**Services of the cluster.** Of a Service the operator reads its type, class and ports, and the
addresses in its status. Its other fields are carried along unread.
-/

namespace ServiceTunnel.Kube

/-- A port given by number or by name. -/
inductive PortRef where
  | number (n : Int32)
  | name (s : String)
deriving DecidableEq, Repr

/-- A declared port of a Service. -/
structure ServicePort where
  name : Option String := none
  port : Int32 := 0
  protocol : Option String := none
  targetPort : Option PortRef := none
  nodePort : Option Int32 := none
  appProtocol : Option String := none
deriving DecidableEq, Repr

/-- What the users of a Service ask for. -/
structure ServiceSpec where
  type : Option String := none
  loadBalancerClass : Option String := none
  ports : Option (List ServicePort) := none
  /-- The fields that the operator does not read. -/
  others : List (String × Json) := []
deriving DecidableEq

/-- A point at which a Service is reached from outside. -/
structure Ingress where
  ip : Option String := none
  hostname : Option String := none
  /-- The fields that the operator does not read. -/
  others : List (String × Json) := []
deriving DecidableEq, Repr

/-- The state of the load balancer. -/
structure LoadBalancerStatus where
  ingress : Option (List Ingress) := none
deriving DecidableEq, Repr

/-- What is known about a Service. -/
structure ServiceStatus where
  loadBalancer : Option LoadBalancerStatus := none
  /-- The fields that the operator does not read. -/
  others : List (String × Json) := []
deriving DecidableEq, Repr

/-- A Service. -/
structure Service where
  metadata : Metadata := {}
  spec : Option ServiceSpec := none
  status : Option ServiceStatus := none
deriving DecidableEq

/-! ### Reading a Service -/

namespace ServiceStatus

/-- The status of a Service reached at the one address `ip`. -/
def ofAddress (ip : String) : ServiceStatus where
  loadBalancer := some { ingress := some [{ ip := some ip }] }

/-- The first point of entry. -/
def firstIngress? (s : ServiceStatus) : Option Ingress := do
  let balancer ← s.loadBalancer
  let ingress ← balancer.ingress
  ingress.head?

end ServiceStatus

namespace Service

instance : Inhabited Service := ⟨{}⟩

/-- The namespace, empty when missing. -/
def ns (s : Service) : String := s.metadata.ns.getD ""

/-- The name; a Service that is still to be named counts under the stem of its name. -/
def name (s : Service) : String := (s.metadata.name.or s.metadata.generateName).getD ""

/-- The annotations, none when the map is missing. -/
def annotations (s : Service) : Dict String String := s.metadata.annotations.getD ∅

/-- The finalizers, none when the list is missing. -/
def finalizers (s : Service) : List String := s.metadata.finalizers.getD []

/-- The declared ports in order. -/
def ports (s : Service) : List ServicePort := (s.spec.bind (·.ports)).getD []

/-- Whether deletion has been requested. -/
def isDeleting (s : Service) : Bool := s.metadata.deletionTimestamp.isSome

/-- The first point of entry in the status. -/
def firstIngress? (s : Service) : Option Ingress := s.status.bind (·.firstIngress?)

/-- The Service with its annotations replaced. -/
def withAnnotations (s : Service) (annotations : Dict String String) : Service :=
  { s with metadata := { s.metadata with annotations := some annotations } }

end Service

/-! ### JSON forms -/

namespace PortRef

/-- The JSON form. -/
def toJson : PortRef → Json
  | .number n => .ofInt32 n
  | .name s => .str s

/-- Reads the JSON form. -/
def ofJson? : Json → Option PortRef
  | .str s => some (.name s)
  | j => (Json.asInt32 j).map .number

end PortRef

namespace ServicePort

/-- The JSON form, without the missing fields. -/
def toJson (p : ServicePort) : Json :=
  .record [
    ("appProtocol", p.appProtocol.map .str),
    ("name", p.name.map .str),
    ("nodePort", p.nodePort.map .ofInt32),
    ("port", some (.ofInt32 p.port)),
    ("protocol", p.protocol.map .str),
    ("targetPort", p.targetPort.map (·.toJson))]

/-- Reads the JSON form; a missing number is zero. -/
def ofJson? (j : Json) : Option ServicePort := do
  let j ← Schema.servicePort.canonical? j
  return {
    name := ← j.field "name" Json.str?
    port := (← j.field "port" Json.asInt32).getD 0
    protocol := ← j.field "protocol" Json.str?
    targetPort := ← j.field "targetPort" PortRef.ofJson?
    nodePort := ← j.field "nodePort" Json.asInt32
    appProtocol := ← j.field "appProtocol" Json.str? }

end ServicePort

namespace ServiceSpec

/-- The names of the fields that the operator reads. -/
def readFields : List String := ["type", "loadBalancerClass", "ports"]

/-- The JSON form, without the missing fields. -/
def toJson (s : ServiceSpec) : Json :=
  .recordWith s.others [
    ("loadBalancerClass", s.loadBalancerClass.map .str),
    ("ports", s.ports.map fun ports => .arr (ports.map (·.toJson))),
    ("type", s.type.map .str)]

/-- Reads the JSON form. -/
def ofJson? (j : Json) : Option ServiceSpec := do
  let j ← Schema.serviceSpec.canonical? j
  return {
    type := ← j.field "type" Json.str?
    loadBalancerClass := ← j.field "loadBalancerClass" Json.str?
    ports := ← j.field "ports" (Json.asList ServicePort.ofJson?)
    others := j.others readFields }

end ServiceSpec

namespace Ingress

/-- The JSON form, without the missing fields. -/
def toJson (i : Ingress) : Json :=
  .recordWith i.others [("hostname", i.hostname.map .str), ("ip", i.ip.map .str)]

/-- Reads the JSON form. -/
def ofJson? (j : Json) : Option Ingress := do
  let j ← Schema.ingress.canonical? j
  return {
    ip := ← j.field "ip" Json.str?
    hostname := ← j.field "hostname" Json.str?
    others := j.others ["ip", "hostname"] }

end Ingress

namespace LoadBalancerStatus

/-- The JSON form, without the missing fields. -/
def toJson (s : LoadBalancerStatus) : Json :=
  .record [("ingress", s.ingress.map fun l => .arr (l.map (·.toJson)))]

/-- Reads the JSON form. -/
def ofJson? (j : Json) : Option LoadBalancerStatus := do
  let j ← Schema.loadBalancerStatus.canonical? j
  return { ingress := ← j.field "ingress" (Json.asList Ingress.ofJson?) }

end LoadBalancerStatus

namespace ServiceStatus

/-- The JSON form, without the missing fields. -/
def toJson (s : ServiceStatus) : Json :=
  .recordWith s.others [("loadBalancer", s.loadBalancer.map (·.toJson))]

/-- Reads the JSON form. -/
def ofJson? (j : Json) : Option ServiceStatus := do
  let j ← Schema.serviceStatus.canonical? j
  return {
    loadBalancer := ← j.field "loadBalancer" LoadBalancerStatus.ofJson?
    others := j.others ["loadBalancer"] }

end ServiceStatus

namespace Service

/-- The JSON form with its version and kind. -/
def toJson (s : Service) : Json :=
  .record [
    ("apiVersion", some (.str "v1")),
    ("kind", some (.str "Service")),
    ("metadata", some s.metadata.toJson),
    ("spec", s.spec.map (·.toJson)),
    ("status", s.status.map (·.toJson))]

/-- Reads the JSON form; missing metadata is empty. -/
def ofJson? (j : Json) : Option Service := do
  let j ← Schema.service.canonical? j
  return {
    metadata := (← j.field "metadata" Metadata.ofJson?).getD {}
    spec := ← j.field "spec" ServiceSpec.ofJson?
    status := ← j.field "status" ServiceStatus.ofJson? }

end Service

end ServiceTunnel.Kube
