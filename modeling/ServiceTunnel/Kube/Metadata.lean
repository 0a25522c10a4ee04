import ServiceTunnel.Json.Decode
import ServiceTunnel.Kube.Schema.Metadata

/-!
# ServiceTunnel.Kube.Metadata

**What every object of the cluster carries:** its name and namespace, labels and annotations, the
finalizers that hold it back, and its version. Metadata that the operator does not read is carried
along.
-/

namespace ServiceTunnel.Kube

/-! ### Keys -/

/-- The namespace and the name under which an object is stored. -/
structure ObjectKey where
  ns : String
  name : String
deriving DecidableEq, Repr

namespace ObjectKey

/-- By namespace, then by name. -/
instance : Ord ObjectKey := ⟨compareLex (compareOn ns) (compareOn name)⟩

instance : Std.TransOrd ObjectKey :=
  inferInstanceAs (Std.TransCmp (compareLex (compareOn ns) (compareOn name)))

instance : Std.LawfulEqOrd ObjectKey where
  compare_self {a} := by
    change compareLex (compareOn ns) (compareOn name) a a = .eq
    simp [compareLex, compareOn]
  eq_of_compare {a b} h := by
    change compareLex (compareOn ns) (compareOn name) a b = .eq at h
    simp only [compareLex, compareOn, Ordering.then_eq_eq, Std.LawfulEqCmp.compare_eq_iff_eq] at h
    cases a; cases b; simp_all

/-- The namespace and the name with a slash between them. -/
def text (k : ObjectKey) : String := k.ns ++ "/" ++ k.name

end ObjectKey

/-! ### Metadata -/

/-- The metadata of an object. A missing list or map differs from an empty one. -/
structure Metadata where
  name : Option String := none
  /-- The stem of the name of an object that is still to be named. -/
  generateName : Option String := none
  /-- The namespace. -/
  ns : Option String := none
  labels : Option (Dict String String) := none
  annotations : Option (Dict String String) := none
  finalizers : Option (List String) := none
  resourceVersion : Option String := none
  deletionTimestamp : Option String := none
  /-- The fields that the operator does not read. -/
  others : List (String × Json) := []
deriving DecidableEq

namespace Metadata

instance : Inhabited Metadata := ⟨{}⟩

/-- The key under which the object is stored. -/
def key (m : Metadata) : ObjectKey := ⟨m.ns.getD "", m.name.getD ""⟩

/-- The JSON form, without the missing fields. -/
def toJson (m : Metadata) : Json :=
  .recordWith m.others [
    ("annotations", m.annotations.map .texts),
    ("deletionTimestamp", m.deletionTimestamp.map .str),
    ("finalizers", m.finalizers.map .strings),
    ("generateName", m.generateName.map .str),
    ("labels", m.labels.map .texts),
    ("name", m.name.map .str),
    ("namespace", m.ns.map .str),
    ("resourceVersion", m.resourceVersion.map .str)]

/-- The names of the fields that the operator reads. -/
def readFields : List String := ["name", "generateName", "namespace", "labels", "annotations",
  "finalizers", "resourceVersion", "deletionTimestamp"]

/-- Reads the JSON form; unknown fields are passed over. -/
def ofJson? (j : Json) : Option Metadata := do
  let j ← Schema.metadata.canonical? j
  return {
    name := ← j.field "name" Json.str?
    generateName := ← j.field "generateName" Json.str?
    ns := ← j.field "namespace" Json.str?
    labels := ← j.field "labels" Json.asTexts
    annotations := ← j.field "annotations" Json.asTexts
    finalizers := ← j.field "finalizers" (Json.asList Json.str?)
    resourceVersion := ← j.field "resourceVersion" Json.str?
    deletionTimestamp := ← j.field "deletionTimestamp" Json.str?
    others := j.others readFields }

end Metadata

end ServiceTunnel.Kube
