import ServiceTunnel.Annotations

/-!
# ServiceTunnel.Admission

**Which changes of a Service call for a pass.** Every Service of the cluster is watched, but a pass
is made only over those of the operator's class, and only when something has changed that matters:
the ports, the annotations, a request for deletion, or a status that does not show the recorded
address. The operator's own writes to the status are such changes no more once they are right.
-/

namespace ServiceTunnel

open Kube

/-- Whether a Service is a load balancer of the class. -/
def isManaged (service : Service) (cls : String) : Bool :=
  match service.spec with
  | none => false
  | some spec => spec.type == some "LoadBalancer" && spec.loadBalancerClass == some cls

/-- Whether the change of a Service from `old`, or its first appearance, calls for a pass. -/
def shouldReconcile (old : Option Service) (new : Service) (cls : String) : Bool :=
  isManaged new cls &&
    match old with
    | none => true
    | some old =>
      old.spec.bind (·.ports) != new.spec.bind (·.ports)
        || old.metadata.annotations != new.metadata.annotations
        || new.isDeleting
        || match new.firstIngress? with
          | none => true
          | some ingress =>
            match Annotations.nonEmpty? new.annotations Annotations.publicIp with
            | none => false
            | some expected => expected != ingress.ip.getD ""

/-! ### The filter over watch events -/

/-- What identifies a Service. A missing namespace differs from an empty one. -/
structure ObjectRef where
  ns : Option String
  name : String
deriving DecidableEq, Repr

namespace ObjectRef

/-- By namespace, then by name. -/
instance : Ord ObjectRef := ⟨compareLex (compareOn ns) (compareOn name)⟩

instance : Std.TransOrd ObjectRef :=
  inferInstanceAs (Std.TransCmp (compareLex (compareOn ns) (compareOn name)))

instance : Std.LawfulEqOrd ObjectRef where
  compare_self {a} := by
    change compareLex (compareOn ns) (compareOn name) a a = .eq
    simp [compareLex, compareOn]
  eq_of_compare {a b} h := by
    change compareLex (compareOn ns) (compareOn name) a b = .eq at h
    simp only [compareLex, compareOn, Ordering.then_eq_eq, Std.LawfulEqCmp.compare_eq_iff_eq] at h
    cases a; cases b; simp_all

/-- The identity of a Service. -/
def ofService (s : Service) : ObjectRef := ⟨s.metadata.ns, s.metadata.name.getD ""⟩

end ObjectRef

/-- What the watch over the Services reports. A listing, from `listStart` to `listEnd`, names every
Service that exists. -/
inductive WatchEvent where
  | listStart
  | listed (service : Service)
  | listEnd
  | applied (service : Service)
  | deleted (service : Service)

/-- The filter's memory: the last version seen of every managed Service, and during a listing the
Services it has named. -/
structure AdmissionFilter where
  cls : String
  lastSeen : Dict ObjectRef Service := ∅
  listing : Option (List ObjectRef) := none

namespace AdmissionFilter

/-- Compares a Service with what was last seen of it. One that has left the class is forgotten. -/
def observe (f : AdmissionFilter) (service : Service) : AdmissionFilter × Option Service :=
  let key := ObjectRef.ofService service
  if isManaged service f.cls then
    ({ f with lastSeen := f.lastSeen.insert key service },
      if shouldReconcile (f.lastSeen.get? key) service f.cls then some service else none)
  else ({ f with lastSeen := f.lastSeen.erase key }, none)

/-- Takes an event in, and gives the Service that it calls for a pass over. -/
def receive (f : AdmissionFilter) (event : WatchEvent) : AdmissionFilter × Option Service :=
  match event with
  | .listStart => ({ f with listing := some [] }, none)
  | .listed service =>
    { f with listing := f.listing.map (ObjectRef.ofService service :: ·) }.observe service
  | .listEnd =>
    match f.listing with
    | none => (f, none)
    | some seen =>
      ({ f with lastSeen := f.lastSeen.filter fun k _ => seen.contains k, listing := none }, none)
  | .applied service => f.observe service
  | .deleted service =>
    ({ f with lastSeen := f.lastSeen.erase (.ofService service) },
      if isManaged service f.cls then some service else none)

/-- Takes events in one after another. -/
def receiveAll (f : AdmissionFilter) : List WatchEvent → List (Option Service)
  | [] => []
  | e :: rest => (f.receive e).2 :: (f.receive e).1.receiveAll rest

end AdmissionFilter

end ServiceTunnel
