import ServiceTunnel.Kube.Failure
import ServiceTunnel.Program

/-!
# ServiceTunnel.Kube.Lease

**Leases, and the calls on the one Lease that is contended for.** Times are milliseconds on the
clock of whoever writes them. A Lease is replaced only over the version that its writer has read.
-/

namespace ServiceTunnel.Kube

/-- Who holds a Lease, and since when. -/
structure LeaseSpec where
  holder : Option String := none
  /-- For how many seconds after a renewal the holder counts as alive. -/
  durationSeconds : Option Int32 := none
  /-- When the holder took the Lease. -/
  acquireTime : Option Int := none
  /-- When the holder last wrote the Lease. -/
  renewTime : Option Int := none
  /-- How often the Lease has been taken over. -/
  transitions : Option Int32 := none
  /-- Who should hold the Lease. -/
  preferredHolder : Option String := none
  /-- How the holder is chosen. -/
  strategy : Option String := none
deriving DecidableEq, Repr

instance : Inhabited LeaseSpec := ⟨{}⟩

/-- The Lease as stored. -/
structure Lease where
  version : String
  spec : Option LeaseSpec
deriving DecidableEq, Repr

/-- The path to the Leases of a namespace. -/
def Lease.collectionPath (ns : String) : String :=
  s!"/apis/coordination.k8s.io/v1/namespaces/{ns}/leases"

/-- The path to the Lease `name` of a namespace. -/
def Lease.path (ns name : String) : String := s!"{Lease.collectionPath ns}/{name}"

/-- What is asked of the cluster and of the clock. -/
inductive LeaseCall where
  /-- Reads the clock. -/
  | now
  | sleep (milliseconds : Nat)
  | get
  | create (spec : LeaseSpec)
  /-- Replaces the version `version` of the Lease. -/
  | replace (version : String) (spec : Option LeaseSpec)
deriving DecidableEq, Repr

namespace LeaseCall

/-- What a call is answered with. -/
abbrev Reply : LeaseCall → Type
  | .now => Int
  | .sleep _ => Unit
  | .get => Except Failure Lease
  | .create _ | .replace .. => Except Failure Unit

/-- The calls with their answers. -/
def interface : Interface := ⟨LeaseCall, Reply⟩

end LeaseCall

end ServiceTunnel.Kube
