import ServiceTunnel.Call

/-!
# ServiceTunnel.Simulation.Cloud

**The provider as a value.** A cloud holds applications, and machines and addresses that belong to
them. Identifiers are numbered and never used twice; deleting an application removes exactly what
belongs to it.
-/

namespace ServiceTunnel.Simulation

/-- What exists at the provider. -/
structure Cloud where
  apps : Dict String Unit := ∅
  /-- Every machine with its application. -/
  machines : Dict String (String × Machine) := ∅
  /-- Every address with its application. -/
  ips : Dict String (String × IpAddress) := ∅
  /-- The number of identifiers given out. -/
  issued : Nat := 0
deriving DecidableEq

namespace Cloud

instance : Inhabited Cloud := ⟨{}⟩

/-- The error for a thing that does not exist. -/
def missing (what : String) : ProviderError := .api 404 s!"{what} not found"

/-- The error of a query about an application that does not exist. -/
def noApp : ProviderError := .graphQl "Could not find App"

/-- The machine `id` of an application. -/
def machineOf? (c : Cloud) (app id : String) : Option Machine :=
  match c.machines.get? id with
  | some (owner, m) => if owner = app then some m else none
  | none => none

/-- A new machine in the `n`-th place. -/
def newMachine (n : Nat) (input : MachineInput) : Machine where
  id := s!"m{n}"
  name := input.name
  state := "created"
  region := input.region
  instanceId := s!"inst{n}"
  privateIp := s!"fdaa::{n}"
  config := input.config

/-- A new address in the `n`-th place. -/
def newIp (n : Nat) : IpAddress where
  id := s!"ip{n}"
  address := s!"137.66.0.{n}"
  kind := "v4"
  region := "global"

/-- Answers a call. A wait ends at once, with the machine in the state. -/
def perform (c : Cloud) : (call : ProviderCall) → Except ProviderError call.Result × Cloud
  | .ensureApp app _ => (.ok (), { c with apps := c.apps.insert app () })
  | .deleteApp app => (.ok (), { c with
      apps := c.apps.erase app
      machines := c.machines.filter fun _ m => m.1 != app
      ips := c.ips.filter fun _ i => i.1 != app })
  | .createMachine app input =>
    if c.apps.contains app then
      let m := newMachine (c.issued + 1) input
      (.ok m, { c with machines := c.machines.insert m.id (app, m), issued := c.issued + 1 })
    else (.error (missing "app"), c)
  | .getMachine app id =>
    match c.machineOf? app id with
    | some m => (.ok m, c)
    | none => (.error (missing "machine"), c)
  | .updateMachine app id input =>
    match c.machineOf? app id with
    | some m =>
      let m := { m with config := input.config, region := input.region }
      (.ok m, { c with machines := c.machines.insert id (app, m) })
    | none => (.error (missing "machine"), c)
  | .deleteMachine _ id => (.ok (), { c with machines := c.machines.erase id })
  | .waitForMachine _ id _ state _ =>
    match c.machines.get? id with
    | some (app, m) =>
      (.ok (), { c with machines := c.machines.insert id (app, { m with state := state }) })
    | none => (.error (missing "machine"), c)
  | .allocateIp app =>
    if c.apps.contains app then
      let ip := newIp (c.issued + 1)
      (.ok ip, { c with ips := c.ips.insert ip.id (app, ip), issued := c.issued + 1 })
    else (.error noApp, c)
  | .releaseIp _ id => (.ok (), { c with ips := c.ips.erase id })
  | .listIps app =>
    if c.apps.contains app then
      (.ok ((c.ips.values.filter fun i => i.1 == app).map (·.2)), c)
    else (.error noApp, c)

end Cloud

end ServiceTunnel.Simulation
