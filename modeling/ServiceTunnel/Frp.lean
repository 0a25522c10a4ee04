import ServiceTunnel.Kube.Service

/-!
# ServiceTunnel.Frp

**The two ends of a tunnel and their configuration.** The server runs on the machine at the
provider and needs only its control port. The client runs in the cluster; it has one proxy for each
port of the Service, which hands the same port number of the server on to the Service.
-/

namespace ServiceTunnel.Frp

/-- The control port of every server. -/
def controlPort : Int32 := 7000

/-- The two transports of a proxy. -/
inductive Transport where
  | tcp
  | udp
deriving DecidableEq, Repr

namespace Transport

/-- The word for a transport. -/
def word : Transport → String
  | .tcp => "tcp"
  | .udp => "udp"

/-- The transport of a declared port: UDP if it says so. -/
def ofPort (p : Kube.ServicePort) : Transport := if p.protocol = some "UDP" then .udp else .tcp

end Transport

/-- The decimal text of a port number. -/
def portText (port : Int32) : String := toString port.toInt

/-- The configuration of the server. -/
def serverConfig (port : Int32) : String := s!"bindPort = {portText port}\n"

/-! ### The client -/

/-- One proxy of the client: the server's `remotePort` leads to `localIp:localPort`. -/
structure Proxy where
  name : String
  transport : Transport
  localIp : String
  localPort : Int32
  remotePort : Int32
deriving DecidableEq, Repr

/-- The configuration of the client. -/
structure ClientConfig where
  serverAddr : String
  serverPort : Int32
  proxies : List Proxy
deriving DecidableEq, Repr

namespace Proxy

/-- What tells the proxy of a port from the others: the port's name, else transport and number. -/
def suffix (p : Kube.ServicePort) : String :=
  match p.name with
  | some n => if n = "" then ofNumber else n
  | none => ofNumber
where
  ofNumber : String := s!"{(Transport.ofPort p).word}-{portText p.port}"

/-- The address of a Service inside the cluster. -/
def clusterAddress (service : Kube.Service) : String :=
  s!"{service.name}.{service.ns}.svc.cluster.local"

/-- The proxy of a declared port. -/
def ofPort (service : Kube.Service) (p : Kube.ServicePort) : Proxy where
  name := s!"{service.ns}-{service.name}-{suffix p}"
  transport := .ofPort p
  localIp := clusterAddress service
  localPort := p.port
  remotePort := p.port

/-- The section of the client's configuration for a proxy. -/
def render (p : Proxy) : String :=
  s!"\n[[proxies]]\nname = \"{p.name}\"\ntype = \"{p.transport.word}\"\nlocalIP = \"{p.localIp}\"\n"
    ++ s!"localPort = {portText p.localPort}\nremotePort = {portText p.remotePort}\n"

end Proxy

namespace ClientConfig

/-- The configuration of the client that connects a Service to the server at an address. -/
def ofService (service : Kube.Service) (serverAddr : String) (serverPort : Int32) :
    ClientConfig where
  serverAddr := serverAddr
  serverPort := serverPort
  proxies := service.ports.map (.ofPort service)

/-- The text of the configuration. -/
def render (c : ClientConfig) : String :=
  s!"serverAddr = \"{c.serverAddr}\"\nserverPort = {portText c.serverPort}\n"
    ++ String.join (c.proxies.map (·.render))

end ClientConfig

end ServiceTunnel.Frp
