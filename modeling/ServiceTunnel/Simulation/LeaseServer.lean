import ServiceTunnel.Election
import ServiceTunnel.Http.Method
import ServiceTunnel.Http.Reference
import ServiceTunnel.Simulation.Planned

/-!
# ServiceTunnel.Simulation.LeaseServer

**The cluster with one Lease, and the clock, as a value.** The clock moves only when a replica
sleeps, and no further than to its limit: a sleep beyond the limit breaks the program off. Requests
can be planned to fail, and writes by others to follow them.
-/

namespace ServiceTunnel.Simulation

open Kube

/-- A write by someone else. -/
inductive LeaseWrite where
  | remove
  | put (spec : Option LeaseSpec)
deriving DecidableEq, Repr

/-- A request for the Lease as it was made. -/
structure LeaseRequest where
  now : Nat
  method : Http.Method
  path : String
  /-- The version that the request names. -/
  version : Option String
deriving DecidableEq, Repr

/-- What the replicas contend for, and what goes on around it. -/
structure LeaseServer where
  /-- The namespace in which the replicas look for the Lease. -/
  ns : String := ""
  now : Nat := 0
  limit : Nat := 0
  /-- The specification of the Lease, if there is one. -/
  lease : Option (Option LeaseSpec) := none
  /-- The number of versions given out. -/
  version : Nat := 0
  refusals : List (Planned Http.Method Refusal) := []
  writes : List (Planned Http.Method LeaseWrite) := []
  /-- The requests made, in order. -/
  log : List LeaseRequest := []

namespace LeaseServer

instance : Inhabited LeaseServer := ⟨{}⟩

/-- A refusal in the cluster's words. -/
def refuse (code : Nat) (reason message : String) : Failure :=
  .refused { status := "Failure", message, reason, code }

/-- The version of the Lease as a text. -/
def versionText (s : LeaseServer) : String := toString s.version

/-- Stores a specification under a new version. -/
def store (s : LeaseServer) (spec : Option LeaseSpec) : LeaseServer :=
  { s with lease := some spec, version := s.version + 1 }

/-- Makes a write by someone else. -/
def write (s : LeaseServer) : LeaseWrite → LeaseServer
  | .remove => { s with lease := none, version := s.version + 1 }
  | .put spec => s.store spec

/-- The Lease as the cluster gives it. -/
def answerGet (s : LeaseServer) : Except Failure Lease :=
  match s.lease with
  | some spec => .ok ⟨s.versionText, spec⟩
  | none => .error (refuse 404 "NotFound" s!"leases \"{Election.leaseName}\" not found")

/-- Makes the Lease unless it is there. -/
def answerCreate (s : LeaseServer) (spec : LeaseSpec) : Except Failure Unit × LeaseServer :=
  if s.lease.isSome then (.error (refuse 409 "AlreadyExists" "lease exists"), s)
  else (.ok (), s.store (some spec))

/-- Replaces the Lease if it has the version. -/
def answerReplace (s : LeaseServer) (version : String) (spec : Option LeaseSpec) :
    Except Failure Unit × LeaseServer :=
  if s.lease.isNone then (.error (refuse 404 "NotFound" "lease not found"), s)
  else if version ≠ s.versionText then (.error (refuse 409 "Conflict" "lease modified"), s)
  else (.ok (), s.store spec)

/-- Lets the clock go on, and says whether the limit has been kept. -/
def sleep (s : LeaseServer) (milliseconds : Nat) : Option Unit × LeaseServer :=
  if s.now + milliseconds ≤ s.limit then (some (), { s with now := s.now + milliseconds })
  else (none, { s with now := s.limit })

/-- The path to the Lease. It is made among those of its namespace. -/
def path (s : LeaseServer) (method : Http.Method) : String :=
  if method = .post then Lease.collectionPath s.ns else Lease.path s.ns Election.leaseName

/-- Notes a request and answers it, unless it is planned to fail; then the writes that follow it
are made. -/
def receive {α : Type} (s : LeaseServer) (r : LeaseRequest)
    (answer : LeaseServer → Except Failure α × LeaseServer) : Except Failure α × LeaseServer :=
  let method := r.method
  let s := { s with log := s.log ++ [r] }
  let (due, refusals) := Planned.occur method s.refusals
  let s := { s with refusals := refusals }
  match due with
  | r :: _ => (.error (.refused r), s)
  | [] =>
    let (reply, s) := answer s
    let (due, writes) := Planned.occur method s.writes
    (reply, due.foldl write { s with writes := writes })

/-- Makes a request if the namespace can stand in one. -/
def request {α : Type} (s : LeaseServer) (method : Http.Method) (version : Option String)
    (answer : LeaseServer → Except Failure α × LeaseServer) : Except Failure α × LeaseServer :=
  match Http.Reference.parse? (s.path method) with
  | none => (.error .unsendable, s)
  | some reference => s.receive ⟨s.now, method, reference.path, version⟩ answer

/-- Answers a call. -/
def perform (c : LeaseCall) (s : LeaseServer) : Option c.Reply × LeaseServer :=
  match c with
  | .now => (some (s.now : Int), s)
  | .sleep milliseconds => s.sleep milliseconds
  | .get =>
    let (r, s) := s.request .get none fun s => (s.answerGet, s)
    (some r, s)
  | .create spec =>
    let (r, s) := s.request .post none fun s => s.answerCreate spec
    (some r, s)
  | .replace version spec =>
    let (r, s) := s.request .put (some version) fun s => s.answerReplace version spec
    (some r, s)

/-- Runs a program of a replica for at most so many milliseconds. -/
def runFor {α : Type} (s : LeaseServer) (milliseconds : Nat) (p : LeaseProgram α) :
    Option α × LeaseServer :=
  p.runWhile perform { s with limit := s.now + milliseconds }

end LeaseServer

end ServiceTunnel.Simulation
