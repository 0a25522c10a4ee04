import ServiceTunnel.Annotations
import ServiceTunnel.Frp
import ServiceTunnel.Json.Decode
import ServiceTunnel.Name

/-!
# ServiceTunnel.Machine

**Machines at the provider:** what a machine is, what is asked for when one is made, and the
machine that serves a Service. Its listeners are the control port of the tunnel server and, for
each port of the Service, one of the same number.
-/

namespace ServiceTunnel

/-! ### Machines -/

/-- Processors and memory. -/
structure GuestConfig where
  cpuKind : String
  cpus : UInt32
  memoryMb : UInt32
deriving DecidableEq, Repr

/-- What the machine runs instead of the entry point of its image. -/
structure InitConfig where
  entrypoint : List String := []
  cmd : List String := []
deriving DecidableEq, Repr

/-- A port at the provider's edge. -/
structure MachinePort where
  port : Int32 := 0
  handlers : List String := []
deriving DecidableEq, Repr

/-- A listener: an inner port and the edge ports that lead to it. -/
structure MachineService where
  protocol : String := ""
  internalPort : Int32 := 0
  ports : List MachinePort := []
deriving DecidableEq, Repr

/-- The configuration of a machine. -/
structure MachineConfig where
  image : String := ""
  env : Dict String String := ∅
  services : List MachineService := []
  guest : Option GuestConfig := none
  init : Option InitConfig := none
deriving DecidableEq

/-- A machine as the provider describes it. -/
structure Machine where
  id : String := ""
  name : String := ""
  state : String := ""
  region : String := ""
  instanceId : String := ""
  privateIp : String := ""
  config : MachineConfig := {}
deriving DecidableEq

/-- What is asked for when a machine is made or changed. -/
structure MachineInput where
  name : String
  region : String
  config : MachineConfig
deriving DecidableEq

/-- An address of an application. -/
structure IpAddress where
  id : String := ""
  address : String := ""
  kind : String := ""
  region : String := ""
  createdAt : String := ""
deriving DecidableEq, Repr

/-! ### The machine of a Service -/

/-- Operator-wide settings for the parts of a tunnel. -/
structure TunnelConfig where
  flyOrg : String
  flyRegion : String
  flyMachineSize : String
  frpsImage : String
  frpcImage : String
  /-- The namespace of the clients. -/
  operatorNamespace : String
deriving DecidableEq, Repr

namespace GuestConfig

/-- What a named size stands for; a name that is not known stands for the smallest size. -/
def ofSize (size : String) : GuestConfig :=
  if size = "shared-cpu-2x" then ⟨"shared", 2, 512⟩
  else if size = "shared-cpu-4x" then ⟨"shared", 4, 1024⟩
  else if size = "performance-1x" then ⟨"performance", 1, 2048⟩
  else if size = "performance-2x" then ⟨"performance", 2, 4096⟩
  else ⟨"shared", 1, 256⟩

end GuestConfig

namespace MachineService

/-- The listener that leads a port of the edge to the same port inside. -/
def same (transport : Frp.Transport) (port : Int32) : MachineService where
  protocol := transport.word
  internalPort := port
  ports := [{ port := port }]

end MachineService

namespace InitConfig

/-- Writes the server's configuration from the environment to a file and runs the server on it. -/
def serveTunnel : InitConfig where
  entrypoint := ["sh"]
  cmd := ["-c", "mkdir -p /etc/frp && echo \"$FRP_SERVER_CONFIG\" > /etc/frp/frps.toml"
    ++ " && exec frps -c /etc/frp/frps.toml"]

end InitConfig

namespace MachineInput

/-- The machine that serves a Service. -/
def ofService (service : Kube.Service) (config : TunnelConfig) : MachineInput :=
  let wishes := Placement.ofAnnotations service.annotations
  { name := Name.ofService .machine service
    region := wishes.region.getD config.flyRegion
    config := {
      image := config.frpsImage
      env := .ofList [("FRP_SERVER_CONFIG", Frp.serverConfig Frp.controlPort)]
      services := .same .tcp Frp.controlPort
        :: service.ports.map fun p => .same (.ofPort p) p.port
      guest := some (.ofSize (wishes.size.getD config.flyMachineSize))
      init := some .serveTunnel } }

/-- Whether a machine is as asked for, as far as the operator ever changes one. -/
def matchesMachine (input : MachineInput) (machine : Machine) : Bool :=
  machine.region == input.region
    && machine.config.image == input.config.image
    && machine.config.services == input.config.services
    && machine.config.guest == input.config.guest

end MachineInput

end ServiceTunnel
