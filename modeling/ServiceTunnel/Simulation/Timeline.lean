import ServiceTunnel.Controller
import ServiceTunnel.Reconcile
import ServiceTunnel.Simulation.ServiceServer
import ServiceTunnel.Simulation.World

/-!
# ServiceTunnel.Simulation.Timeline

**The controller at work, in virtual time.** The watch reports one event after another with some
time between them, and a pass takes no time, so it is over before the next event. Retries wait for
their time; an event for a Service takes the place of the retry that waits for it.
-/

namespace ServiceTunnel.Simulation

open Kube

/-- What the controller did. -/
inductive Deed where
  /-- A request about a Service, with the time in milliseconds. -/
  | request (now : Nat) (r : Request)
  /-- Any other call. -/
  | call (c : Call)

/-- The controller, what it works on, and the time in milliseconds. -/
structure Timeline where
  config : TunnelConfig
  controller : Controller
  world : World := {}
  server : ServiceServer := {}
  now : Nat := 0
  /-- When each retry is due. -/
  retries : Dict ObjectRef Nat := ∅
  /-- What has been done, in order. -/
  log : List Deed := []

namespace Timeline

/-! ### Passes -/

/-- How many milliseconds lie between two events. -/
def eventGap : Nat := 50

/-- Notes a request about a Service and answers it. -/
def exchange (r : Request) (t : Timeline) : Reply × Timeline :=
  let (reply, server) := t.server.answer r
  (reply, { t with server := server, log := t.log ++ [Deed.request t.now r] })

/-- Notes a call to the provider or about a tunnel's client, and answers it. -/
def performElsewhere (t : Timeline) (c : Call) : c.Reply × Timeline :=
  let (reply, world) := t.world.perform c
  (reply, { t with world := world, log := t.log ++ [Deed.call c] })

/-- Answers a call; one about a Service is made as requests. -/
def perform (c : Call) (t : Timeline) : c.Reply × Timeline :=
  match c with
  | .service c =>
    let (reply, t) := (Session.service c).run exchange t
    (reply.mapError Failure.toError, t)
  | .provider c => t.performElsewhere (.provider c)
  | .providerWithin limit c => t.performElsewhere (.providerWithin limit c)
  | .workload c => t.performElsewhere (.workload c)

/-- Makes a pass over a Service, unless it is gone. A retry that was waiting waits no longer. -/
def visit (t : Timeline) (ref : ObjectRef) : Timeline :=
  let t := { t with retries := t.retries.erase ref }
  if t.controller.knows ref then
    let pass := Reconcile.pass t.config t.controller.filter.cls (ref.ns.getD "") ref.name
    let (outcome, t) := pass.run perform t
    let (controller, next) := t.controller.settle ref outcome
    { t with
      controller := controller
      retries := match next with
        | .after delay => t.retries.insert ref (t.now + delay.milliseconds)
        | .awaitChange => t.retries }
  else t

/-- Lets the controller know of events that come together. -/
def deliver (t : Timeline) (events : List WatchEvent) : Timeline :=
  let (controller, refs) := t.controller.receiveAll events
  refs.foldl visit { t with controller := controller }

/-! ### Time -/

/-- What happens next. -/
inductive Occurrence where
  | event (e : WatchEvent) (rest : List WatchEvent)
  | retry (ref : ObjectRef)

/-- When the next event is reported. -/
def nextEvent? (t : Timeline) : Option (Nat × Occurrence) :=
  match t.server.events with
  | [] => none
  | e :: rest => some (t.now + eventGap, .event e rest)

/-- When the next retry is due. -/
def nextRetry? (t : Timeline) : Option (Nat × Occurrence) :=
  t.retries.entries.foldl (fun best e =>
    match best with
    | some (due, _) => if e.2 < due then some (e.2, .retry e.1) else best
    | none => some (e.2, .retry e.1)) none

/-- What happens next, and when. -/
def next? (t : Timeline) : Option (Nat × Occurrence) :=
  match t.nextEvent?, t.nextRetry? with
  | some e, some r => some (if r.1 < e.1 then r else e)
  | some e, none => some e
  | none, r => r

/-- Lets something happen at a time. -/
def happen (t : Timeline) (now : Nat) : Occurrence → Timeline
  | .event e rest => { t with now := now, server := { t.server with events := rest } }.deliver [e]
  | .retry ref => { t with now := now }.visit ref

/-- Lets at most `n` things happen before the time `limit`. -/
def runUntil (t : Timeline) (limit : Nat) : Nat → Timeline
  | 0 => t
  | n + 1 =>
    match t.next? with
    | some (due, what) => if due < limit then (t.happen due what).runUntil limit n else t
    | none => t

/-- Lets so many milliseconds go by. In each, one event is reported at most, and each Service is
retried at most once. -/
def runFor (t : Timeline) (milliseconds : Nat) : Timeline :=
  let limit := t.now + milliseconds
  let steps := milliseconds * (t.retries.keys.length + t.server.documents.keys.length + 1)
  { t.runUntil limit steps with now := limit }

/-- Lets the controller start on what exists. -/
def start (t : Timeline) : Timeline := t.deliver t.server.listing

end Timeline

end ServiceTunnel.Simulation
