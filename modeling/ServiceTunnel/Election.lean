import ServiceTunnel.Kube.Lease
import ServiceTunnel.Text.Blank

/-!
# ServiceTunnel.Election

**Which replica is active.** All replicas contend for one Lease. A replica takes the Lease if
nobody holds it or its holder has not renewed it in time, and renews it as long as it finds itself
the holder. Every write names the version that was read, so of two replicas that write over the
same version one is refused.
-/

namespace ServiceTunnel

open Kube

/-- A program of a replica on the Lease. -/
abbrev LeaseProgram (α : Type) := Program LeaseCall.interface α

namespace Election

/-! ### Where and who -/

/-- The namespace of the Lease: the one asked for, or the one that the replica finds itself in, or
else `fallback`. -/
def namespaceOf (asked : String) (found : Option String) (fallback : String) : String :=
  if asked ≠ "" then asked
  else ((found.map Text.trim).filter (· ≠ "")).getD fallback

/-- The name under which a replica contends. -/
def identity (podName hostName : Option String) (drawn : String) : String :=
  podName.getD (hostName.getD drawn)

/-- The name of the Lease. -/
def leaseName : String := "fly-tunnel-operator"

/-- For how many seconds after a renewal a holder counts as alive. -/
def leaseSeconds : Int32 := 15

/-- How many milliseconds lie between two renewals. -/
def renewInterval : Nat := 10000

/-- How many milliseconds lie between two attempts to take the Lease. -/
def retryInterval : Nat := 5000

/-! ### Claims -/

/-- What a replica may do with a Lease. -/
inductive Claim where
  /-- It is the holder. -/
  | renew
  /-- Nobody alive holds it. -/
  | takeOver
  /-- Someone else holds it. -/
  | wait
deriving DecidableEq, Repr

/-- The age of a renewal in whole seconds. -/
def ageSeconds (renewTime now : Int) : Int := (now - renewTime).tdiv 1000

/-- Whether the holder has not renewed in time. -/
def isExpired (spec : LeaseSpec) (now : Int) : Bool :=
  match spec.renewTime with
  | some t => (spec.durationSeconds.getD leaseSeconds).toInt < ageSeconds t now
  | none => true

/-- What `me` may do with a Lease at the time `now`. -/
def claim (spec : Option LeaseSpec) (me : String) (now : Int) : Claim :=
  let spec := spec.getD {}
  if spec.holder = some me then .renew
  else if spec.holder.getD "" = "" || isExpired spec now then .takeOver
  else .wait

/-- The Lease as renewed by `me`. -/
def renewed (previous : Option LeaseSpec) (me : String) (now : Int) : LeaseSpec where
  holder := some me
  durationSeconds := some leaseSeconds
  acquireTime := previous.bind (·.acquireTime)
  renewTime := some now
  transitions := some ((previous.bind (·.transitions)).getD 0)

/-- The Lease as taken by `me`. Taking a Lease over that somebody has held counts as a
transition. -/
def taken (previous : Option LeaseSpec) (me : String) (now : Int) : LeaseSpec :=
  { renewed previous me now with
    acquireTime := some now
    transitions := some (match previous with
      | some spec => spec.transitions.getD 0 + 1
      | none => 0) }

/-- The Lease without a holder. -/
def released (spec : LeaseSpec) : LeaseSpec := { spec with holder := none }

/-! ### Single attempts -/

/-- Whether a write succeeded; one over a version that is no longer there did not. -/
def written : Except Failure Unit → Except Failure Bool
  | .ok () => .ok true
  | .error (.refused r) => if r.code = 409 then .ok false else .error (.refused r)
  | .error f => .error f

/-- Writes over the version that was read. -/
def replace (lease : Lease) (spec : LeaseSpec) : LeaseProgram (Except Failure Bool) :=
  .call (.replace lease.version (some spec)) fun (r : Except Failure Unit) => .done (written r)

/-- Makes the Lease. -/
def create (me : String) (now : Int) : LeaseProgram (Except Failure Bool) :=
  .call (.create (taken none me now)) fun (r : Except Failure Unit) => .done (written r)

/-- Takes the Lease if that is possible. -/
def tryAcquire (me : String) : LeaseProgram (Except Failure Bool) :=
  .call .now fun (now : Int) =>
  .call .get fun (found : Except Failure Lease) =>
    match found with
    | .error (.refused r) =>
      if r.reason = "NotFound" then create me now else .done (.error (.refused r))
    | .error f => .done (.error f)
    | .ok lease =>
      match claim lease.spec me now with
      | .renew => replace lease (renewed lease.spec me now)
      | .takeOver => replace lease (taken lease.spec me now)
      | .wait => .done (.ok false)

/-- Renews the Lease; `false` says that it is lost. -/
def renew (me : String) : LeaseProgram (Except Failure Bool) :=
  .call .get fun (found : Except Failure Lease) =>
    match found with
    | .error f => .done (.error f)
    | .ok lease =>
      .call .now fun (now : Int) =>
        if claim lease.spec me now = .renew then replace lease (renewed lease.spec me now)
        else .done (.ok false)

/-- Gives the Lease up, so that another replica need not wait. -/
def release (me : String) : LeaseProgram Unit :=
  .call .get fun (found : Except Failure Lease) =>
    match found with
    | .error _ => .done ()
    | .ok lease =>
      match lease.spec with
      | some spec =>
        if spec.holder = some me then
          .call (.replace lease.version (some (released spec))) fun (_ : Except Failure Unit) =>
            .done ()
        else .done ()
      | none => .done ()

/-! ### Attempts in turn -/

/-- Attempts to take the Lease until it is taken, at most `n` times; `false` says that it is not
taken yet. A failed attempt is one more to be repeated. -/
def acquire (me : String) : Nat → LeaseProgram Bool
  | 0 => .done false
  | n + 1 => (tryAcquire me).bind fun
    | .ok true => .done true
    | _ => .call (.sleep retryInterval) fun () => acquire me n

/-- Renews the Lease until that fails, at most `n` times; `false` says that it is lost. -/
def hold (me : String) : Nat → LeaseProgram Bool
  | 0 => .done true
  | n + 1 => .call (.sleep renewInterval) fun () => (renew me).bind fun
    | .ok true => hold me n
    | _ => .done false

end Election

end ServiceTunnel
