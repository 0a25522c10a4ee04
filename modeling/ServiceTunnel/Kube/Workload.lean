import ServiceTunnel.Kube.Metadata
import ServiceTunnel.Kube.Schema.Workload

/-!
# ServiceTunnel.Kube.Workload

**ConfigMaps and Deployments**, with the fields that a tunnel's client needs. Other fields are
carried along unread.
-/

namespace ServiceTunnel.Kube

/-- A ConfigMap. -/
structure ConfigMap where
  metadata : Metadata := {}
  data : Option (Dict String String) := none
  /-- The fields that a tunnel's client does not need. -/
  others : List (String × Json) := []
deriving DecidableEq

/-- The amounts of each resource that a container asks for and may use at most. -/
structure ResourceRequirements where
  requests : Option (Dict String String) := none
  limits : Option (Dict String String) := none
  /-- The fields that a tunnel's client does not need. -/
  others : List (String × Json) := []
deriving DecidableEq

/-- Where a container sees a volume. -/
structure VolumeMount where
  name : String := ""
  mountPath : String := ""
  readOnly : Option Bool := none
  /-- The fields that a tunnel's client does not need. -/
  others : List (String × Json) := []
deriving DecidableEq, Repr

/-- A container. -/
structure Container where
  name : String := ""
  image : Option String := none
  command : Option (List String) := none
  args : Option (List String) := none
  resources : Option ResourceRequirements := none
  volumeMounts : Option (List VolumeMount) := none
  /-- The fields that a tunnel's client does not need. -/
  others : List (String × Json) := []
deriving DecidableEq

/-- The entries of a ConfigMap as the files of a volume. -/
structure ConfigMapSource where
  /-- The name of the ConfigMap. -/
  name : String := ""
  /-- The fields that a tunnel's client does not need. -/
  others : List (String × Json) := []
deriving DecidableEq, Repr

/-- A volume, filled from a ConfigMap if it names one. -/
structure Volume where
  name : String := ""
  configMap : Option ConfigMapSource := none
  /-- The fields that a tunnel's client does not need. -/
  others : List (String × Json) := []
deriving DecidableEq, Repr

/-- What runs in a pod. -/
structure PodSpec where
  containers : List Container := []
  volumes : Option (List Volume) := none
  /-- The fields that a tunnel's client does not need. -/
  others : List (String × Json) := []
deriving DecidableEq

/-- What the pods of a Deployment are made from. -/
structure PodTemplate where
  metadata : Option Metadata := none
  spec : Option PodSpec := none
deriving DecidableEq

/-- A selection of objects by their labels. -/
structure LabelSelector where
  matchLabels : Option (Dict String String) := none
  /-- The fields that a tunnel's client does not need. -/
  others : List (String × Json) := []
deriving DecidableEq

/-- What a Deployment keeps running. -/
structure DeploymentSpec where
  replicas : Option Int32 := none
  /-- By which the Deployment knows its pods. -/
  selector : LabelSelector := {}
  template : PodTemplate := {}
  /-- The fields that a tunnel's client does not need. -/
  others : List (String × Json) := []
deriving DecidableEq

/-- A Deployment. -/
structure Deployment where
  metadata : Metadata := {}
  spec : Option DeploymentSpec := none
  /-- The fields that a tunnel's client does not need. -/
  others : List (String × Json) := []
deriving DecidableEq

/-! ### JSON forms -/

namespace ConfigMap

/-- The JSON form with its version and kind. -/
def toJson (c : ConfigMap) : Json :=
  .recordWith c.others [
    ("apiVersion", some (.str "v1")),
    ("kind", some (.str "ConfigMap")),
    ("metadata", some c.metadata.toJson),
    ("data", c.data.map .texts)]

/-- Reads the JSON form. -/
def ofJson? (j : Json) : Option ConfigMap := do
  let j ← Schema.configMap.canonical? j
  return {
    metadata := (← j.field "metadata" Metadata.ofJson?).getD {}
    data := ← j.field "data" Json.asTexts
    others := j.others ["apiVersion", "kind", "metadata", "data"] }

end ConfigMap

namespace ResourceRequirements

/-- The JSON form. -/
def toJson (r : ResourceRequirements) : Json :=
  .recordWith r.others [("limits", r.limits.map .texts), ("requests", r.requests.map .texts)]

/-- Reads the JSON form. -/
def ofJson? (j : Json) : Option ResourceRequirements := do
  let j ← Schema.resourceRequirements.canonical? j
  return {
    requests := ← j.field "requests" Json.asTexts
    limits := ← j.field "limits" Json.asTexts
    others := j.others ["requests", "limits"] }

end ResourceRequirements

namespace VolumeMount

/-- The JSON form. -/
def toJson (v : VolumeMount) : Json :=
  .recordWith v.others [
    ("mountPath", some (.str v.mountPath)),
    ("name", some (.str v.name)),
    ("readOnly", v.readOnly.map .bool)]

/-- Reads the JSON form. -/
def ofJson? (j : Json) : Option VolumeMount := do
  let j ← Schema.volumeMount.canonical? j
  return {
    name := (← j.field "name" Json.str?).getD ""
    mountPath := (← j.field "mountPath" Json.str?).getD ""
    readOnly := ← j.field "readOnly" Json.bool?
    others := j.others ["name", "mountPath", "readOnly"] }

end VolumeMount

namespace Container

/-- The JSON form. -/
def toJson (c : Container) : Json :=
  .recordWith c.others [
    ("args", c.args.map .strings),
    ("command", c.command.map .strings),
    ("image", c.image.map .str),
    ("name", some (.str c.name)),
    ("resources", c.resources.map (·.toJson)),
    ("volumeMounts", c.volumeMounts.map fun l => .arr (l.map (·.toJson)))]

/-- The names of the fields that a tunnel's client needs. -/
def readFields : List String := ["name", "image", "command", "args", "resources", "volumeMounts"]

/-- Reads the JSON form. -/
def ofJson? (j : Json) : Option Container := do
  let j ← Schema.container.canonical? j
  return {
    name := (← j.field "name" Json.str?).getD ""
    image := ← j.field "image" Json.str?
    command := ← j.field "command" (Json.asList Json.str?)
    args := ← j.field "args" (Json.asList Json.str?)
    resources := ← j.field "resources" ResourceRequirements.ofJson?
    volumeMounts := ← j.field "volumeMounts" (Json.asList VolumeMount.ofJson?)
    others := j.others readFields }

end Container

namespace ConfigMapSource

/-- The JSON form. -/
def toJson (c : ConfigMapSource) : Json := .recordWith c.others [("name", some (.str c.name))]

/-- Reads the JSON form. -/
def ofJson? (j : Json) : Option ConfigMapSource := do
  let j ← Schema.configMapSource.canonical? j
  return { name := (← j.field "name" Json.str?).getD "", others := j.others ["name"] }

end ConfigMapSource

namespace Volume

/-- The JSON form. -/
def toJson (v : Volume) : Json :=
  .recordWith v.others [
    ("configMap", v.configMap.map (·.toJson)),
    ("name", some (.str v.name))]

/-- Reads the JSON form. -/
def ofJson? (j : Json) : Option Volume := do
  let j ← Schema.volume.canonical? j
  return {
    name := (← j.field "name" Json.str?).getD ""
    configMap := ← j.field "configMap" ConfigMapSource.ofJson?
    others := j.others ["name", "configMap"] }

end Volume

namespace PodSpec

/-- The JSON form. -/
def toJson (p : PodSpec) : Json :=
  .recordWith p.others [
    ("containers", some (.arr (p.containers.map (·.toJson)))),
    ("volumes", p.volumes.map fun l => .arr (l.map (·.toJson)))]

/-- Reads the JSON form. -/
def ofJson? (j : Json) : Option PodSpec := do
  let j ← Schema.podSpec.canonical? j
  return {
    containers := (← j.field "containers" (Json.asList Container.ofJson?)).getD []
    volumes := ← j.field "volumes" (Json.asList Volume.ofJson?)
    others := j.others ["containers", "volumes"] }

end PodSpec

namespace PodTemplate

/-- The JSON form. -/
def toJson (p : PodTemplate) : Json :=
  .record [("metadata", p.metadata.map (·.toJson)), ("spec", p.spec.map (·.toJson))]

/-- Reads the JSON form. -/
def ofJson? (j : Json) : Option PodTemplate := do
  let j ← Schema.podTemplate.canonical? j
  return {
    metadata := ← j.field "metadata" Metadata.ofJson?
    spec := ← j.field "spec" PodSpec.ofJson? }

end PodTemplate

namespace LabelSelector

/-- The JSON form. -/
def toJson (s : LabelSelector) : Json :=
  .recordWith s.others [("matchLabels", s.matchLabels.map .texts)]

/-- Reads the JSON form. -/
def ofJson? (j : Json) : Option LabelSelector := do
  let j ← Schema.labelSelector.canonical? j
  return {
    matchLabels := ← j.field "matchLabels" Json.asTexts
    others := j.others ["matchLabels"] }

end LabelSelector

namespace DeploymentSpec

/-- The JSON form. -/
def toJson (d : DeploymentSpec) : Json :=
  .recordWith d.others [
    ("replicas", d.replicas.map .ofInt32),
    ("selector", some d.selector.toJson),
    ("template", some d.template.toJson)]

/-- Reads the JSON form. -/
def ofJson? (j : Json) : Option DeploymentSpec := do
  let j ← Schema.deploymentSpec.canonical? j
  return {
    replicas := ← j.field "replicas" Json.asInt32
    selector := (← j.field "selector" LabelSelector.ofJson?).getD {}
    template := (← j.field "template" PodTemplate.ofJson?).getD {}
    others := j.others ["replicas", "selector", "template"] }

end DeploymentSpec

namespace Deployment

/-- The JSON form with its version and kind. -/
def toJson (d : Deployment) : Json :=
  .recordWith d.others [
    ("apiVersion", some (.str "apps/v1")),
    ("kind", some (.str "Deployment")),
    ("metadata", some d.metadata.toJson),
    ("spec", d.spec.map (·.toJson))]

/-- Reads the JSON form. -/
def ofJson? (j : Json) : Option Deployment := do
  let j ← Schema.deployment.canonical? j
  return {
    metadata := (← j.field "metadata" Metadata.ofJson?).getD {}
    spec := ← j.field "spec" DeploymentSpec.ofJson?
    others := j.others ["apiVersion", "kind", "metadata", "spec"] }

end Deployment

end ServiceTunnel.Kube
