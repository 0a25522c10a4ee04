import ServiceTunnel.Json.Shape
import ServiceTunnel.Kube.Timestamp

/-!
# ServiceTunnel.Kube.Schema.Metadata

**The shapes of what objects of all kinds share:** their metadata, points in time, selectors of
labels and statements of conditions.
-/

namespace ServiceTunnel.Kube.Schema

open Json (Shape)
open Json.Shape (given optional required)

/-- A list of texts. -/
def texts : Shape := .list .text

/-- A map from texts to texts. -/
def textMap : Shape := .map .text

/-- A point in time. -/
def time : Shape := .formatted {
  expected := "an RFC 3339 formatted date and time string"
  read := Timestamp.canonical
  missing := "1970-01-01T00:00:00Z" }

/-- Who owns an object. -/
def ownerReference : Shape := .record "OwnerReference" <|
  required .text ["apiVersion", "kind", "name", "uid"]
    ++ optional .bool ["blockOwnerDeletion", "controller"]

/-- Which fields of an object someone manages. -/
def managedFields : Shape := .record "ManagedFieldsEntry" <|
  optional .text ["apiVersion", "fieldsType", "manager", "operation", "subresource"]
    ++ optional .any ["fieldsV1"]
    ++ optional time ["time"]

/-- The metadata of an object. -/
def metadata : Shape := .record "ObjectMeta" <|
  optional .text ["generateName", "name", "namespace", "resourceVersion", "selfLink", "uid"]
    ++ optional textMap ["annotations", "labels"]
    ++ optional texts ["finalizers"]
    ++ optional .int64 ["deletionGracePeriodSeconds", "generation"]
    ++ optional time ["creationTimestamp", "deletionTimestamp"]
    ++ optional (.list managedFields) ["managedFields"]
    ++ optional (.list ownerReference) ["ownerReferences"]

/-- An object of a version and a kind. -/
def object (version kind : String) (fields : List (String × Json.Presence × Shape)) : Shape :=
  .record kind <|
    given (.constant version) ["apiVersion"]
      ++ given (.constant kind) ["kind"]
      ++ required metadata ["metadata"]
      ++ fields

/-- A demand on a label. -/
def labelRequirement (title : String) : Shape := .record title <|
  required .text ["key", "operator"] ++ optional texts ["values"]

/-- A selection of objects by their labels. -/
def labelSelector : Shape := .record "LabelSelector" <|
  optional (.list (labelRequirement "LabelSelectorRequirement")) ["matchExpressions"]
    ++ optional textMap ["matchLabels"]

end ServiceTunnel.Kube.Schema
