import ServiceTunnel.Machine

/-!
# ServiceTunnel.Machine.Wire

**Machines and addresses as JSON.** What is empty or absent is left out of the JSON form where the
reader takes a missing field for just that. The guest of a machine and the input for a machine must
be complete; every other field that is missing has an empty value.
-/

namespace ServiceTunnel

/-- The field for a list, left out when empty. -/
def listField {α : Type} (f : α → Json) (l : List α) : Option Json :=
  if l.isEmpty then none else some (.arr (l.map f))

namespace GuestConfig

/-- The JSON form. -/
def toJson (g : GuestConfig) : Json :=
  .obj [("cpu_kind", .str g.cpuKind), ("cpus", .ofNat g.cpus.toNat),
    ("memory_mb", .ofNat g.memoryMb.toNat)]

/-- Reads the JSON form. -/
def ofJson? (j : Json) : Option GuestConfig := do
  match ← Json.slots? ["cpu_kind", "cpus", "memory_mb"] 3 j with
  | [cpuKind, cpus, memoryMb] =>
    return {
      cpuKind := ← Json.required Json.str? cpuKind
      cpus := ← Json.required Json.asUInt32 cpus
      memoryMb := ← Json.required Json.asUInt32 memoryMb }
  | _ => none

end GuestConfig

namespace InitConfig

/-- The JSON form. -/
def toJson (i : InitConfig) : Json :=
  .record [("entrypoint", listField .str i.entrypoint), ("cmd", listField .str i.cmd)]

/-- Reads the JSON form. -/
def ofJson? (j : Json) : Option InitConfig := do
  match ← Json.slots? ["entrypoint", "cmd"] 0 j with
  | [entrypoint, cmd] =>
    return {
      entrypoint := ← Json.orElse [] (Json.asList Json.str?) entrypoint
      cmd := ← Json.orElse [] (Json.asList Json.str?) cmd }
  | _ => none

end InitConfig

namespace MachinePort

/-- The JSON form. -/
def toJson (p : MachinePort) : Json :=
  .record [("port", some (.ofInt32 p.port)), ("handlers", listField .str p.handlers)]

/-- Reads the JSON form. -/
def ofJson? (j : Json) : Option MachinePort := do
  match ← Json.slots? ["port", "handlers"] 0 j with
  | [port, handlers] =>
    return {
      port := ← Json.orElse 0 Json.asInt32 port
      handlers := ← Json.orElse [] (Json.asList Json.str?) handlers }
  | _ => none

end MachinePort

namespace MachineService

/-- The JSON form. -/
def toJson (s : MachineService) : Json :=
  .record [("protocol", some (.str s.protocol)), ("internal_port", some (.ofInt32 s.internalPort)),
    ("ports", listField (·.toJson) s.ports)]

/-- Reads the JSON form. -/
def ofJson? (j : Json) : Option MachineService := do
  match ← Json.slots? ["protocol", "internal_port", "ports"] 0 j with
  | [protocol, internalPort, ports] =>
    return {
      protocol := ← Json.orElse "" Json.str? protocol
      internalPort := ← Json.orElse 0 Json.asInt32 internalPort
      ports := ← Json.orElse [] (Json.asList MachinePort.ofJson?) ports }
  | _ => none

end MachineService

namespace MachineConfig

/-- The JSON form. -/
def toJson (c : MachineConfig) : Json :=
  .record [
    ("image", some (.str c.image)),
    ("env", if c.env.isEmpty then none else some (.texts c.env)),
    ("services", listField (·.toJson) c.services),
    ("guest", c.guest.map (·.toJson)),
    ("init", c.init.map (·.toJson))]

/-- Reads the JSON form. -/
def ofJson? (j : Json) : Option MachineConfig := do
  match ← Json.slots? ["image", "env", "services", "guest", "init"] 0 j with
  | [image, env, services, guest, init] =>
    return {
      image := ← Json.orElse "" Json.str? image
      env := ← Json.orElse ∅ Json.asTexts env
      services := ← Json.orElse [] (Json.asList MachineService.ofJson?) services
      guest := ← Json.optional GuestConfig.ofJson? guest
      init := ← Json.optional InitConfig.ofJson? init }
  | _ => none

end MachineConfig

namespace Machine

/-- The JSON form. -/
def toJson (m : Machine) : Json :=
  .obj [("id", .str m.id), ("name", .str m.name), ("state", .str m.state),
    ("region", .str m.region), ("instance_id", .str m.instanceId), ("private_ip", .str m.privateIp),
    ("config", m.config.toJson)]

/-- Reads the JSON form. -/
def ofJson? (j : Json) : Option Machine := do
  match ← Json.slots?
    ["id", "name", "state", "region", "instance_id", "private_ip", "config"] 0 j with
  | [id, name, state, region, instanceId, privateIp, config] =>
    return {
      id := ← Json.orElse "" Json.str? id
      name := ← Json.orElse "" Json.str? name
      state := ← Json.orElse "" Json.str? state
      region := ← Json.orElse "" Json.str? region
      instanceId := ← Json.orElse "" Json.str? instanceId
      privateIp := ← Json.orElse "" Json.str? privateIp
      config := ← Json.orElse {} MachineConfig.ofJson? config }
  | _ => none

end Machine

namespace MachineInput

/-- The JSON form. -/
def toJson (i : MachineInput) : Json :=
  .obj [("name", .str i.name), ("region", .str i.region), ("config", i.config.toJson)]

/-- Reads the JSON form. -/
def ofJson? (j : Json) : Option MachineInput := do
  match ← Json.slots? ["name", "region", "config"] 3 j with
  | [name, region, config] =>
    return {
      name := ← Json.required Json.str? name
      region := ← Json.required Json.str? region
      config := ← Json.required MachineConfig.ofJson? config }
  | _ => none

end MachineInput

namespace IpAddress

/-- The JSON form. -/
def toJson (i : IpAddress) : Json :=
  .obj [("id", .str i.id), ("address", .str i.address), ("type", .str i.kind),
    ("region", .str i.region), ("createdAt", .str i.createdAt)]

/-- Reads the JSON form. -/
def ofJson? (j : Json) : Option IpAddress := do
  match ← Json.slots? ["id", "address", "type", "region", "createdAt"] 0 j with
  | [id, address, kind, region, createdAt] =>
    return {
      id := ← Json.orElse "" Json.str? id
      address := ← Json.orElse "" Json.str? address
      kind := ← Json.orElse "" Json.str? kind
      region := ← Json.orElse "" Json.str? region
      createdAt := ← Json.orElse "" Json.str? createdAt }
  | _ => none

end IpAddress

end ServiceTunnel
