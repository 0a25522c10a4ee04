import ServiceTunnel.Admission
import ServiceTunnel.Backoff
import ServiceTunnel.Error

/-!
# ServiceTunnel.Controller

**What calls for a pass, and when.** A watch event that the filter lets through calls for a pass at
once; a pass that fails calls for another after its delay. A Service that is known to be gone is
not passed over any more.
-/

namespace ServiceTunnel

open Kube

/-- The controller's memory. -/
structure Controller where
  filter : AdmissionFilter
  backoff : Backoff := {}
  /-- The Services that exist, managed or not, as far as the watch has reported. -/
  known : List ObjectRef := []

namespace Controller

/-- The Services that exist after an event. A listing counts once it is complete. -/
def knownAfter (c : Controller) : WatchEvent → List ObjectRef
  | .listEnd => c.filter.listing.getD c.known
  | .applied service => .ofService service :: c.known.filter (· != .ofService service)
  | .deleted service => c.known.filter (· != .ofService service)
  | .listStart | .listed _ => c.known

/-- Takes an event in, and gives the Service that it calls for a pass over. -/
def receive (c : Controller) (event : WatchEvent) : Controller × Option ObjectRef :=
  let (filter, service) := c.filter.receive event
  ({ c with filter := filter, known := c.knownAfter event }, service.map .ofService)

/-- Takes events in one after another. -/
def receiveAll (c : Controller) : List WatchEvent → Controller × List ObjectRef
  | [] => (c, [])
  | e :: rest =>
    let (c, ref) := c.receive e
    let (c, refs) := c.receiveAll rest
    (c, ref.toList ++ refs)

/-- Whether a pass over a Service makes sense. -/
def knows (c : Controller) (ref : ObjectRef) : Bool := c.known.contains ref

/-- The key under which the failures of a Service are counted. -/
def failureKey (ref : ObjectRef) : String := (ObjectKey.mk (ref.ns.getD "") ref.name).text

/-- Takes the outcome of a pass in, and says when the next one is made. -/
def settle (c : Controller) (ref : ObjectRef) (outcome : Except OperatorError Unit) :
    Controller × NextPass :=
  match outcome with
  | .ok () => ({ c with backoff := c.backoff.reset (failureKey ref) }, .awaitChange)
  | .error e =>
    let (backoff, next) := c.backoff.retry (failureKey ref) e
    ({ c with backoff := backoff }, next)

end Controller

end ServiceTunnel
