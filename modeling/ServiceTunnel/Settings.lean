import ServiceTunnel.Error
import ServiceTunnel.Json.Basic
import ServiceTunnel.Machine
import ServiceTunnel.SocketAddress
import ServiceTunnel.Text.Blank

/-!
# ServiceTunnel.Settings

**What the operator runs with.** `Options` are the values as given, `Settings` the values as
checked: a token, an organisation and a region must be there, and the address of the health probe
must be one.
-/

namespace ServiceTunnel

/-- The class of the Services that the operator cares for, unless told otherwise. -/
def defaultClass : String := "fly-tunnel-operator.dev/lb"

/-- The namespace of the tunnels' clients, unless told otherwise. -/
def defaultNamespace : String := "fly-tunnel-operator-system"

/-- The values as given on the command line and in the environment, or by default. -/
structure Options where
  flyApiToken : Option String := none
  flyOrg : Option String := none
  flyRegion : Option String := none
  flyMachineSize : String := "shared-cpu-1x"
  loadBalancerClass : String := defaultClass
  frpsImage : String := "snowdreamtech/frps:latest"
  frpcImage : String := "snowdreamtech/frpc:latest"
  ns : String := defaultNamespace
  leaderElection : Bool := true
  leaderElectionNamespace : String := ""
  healthProbeBindAddress : String := "0.0.0.0:8081"
  flyApiUrl : String := "https://api.machines.dev"
  flyGraphqlUrl : String := "https://api.fly.io/graphql"
deriving DecidableEq, Repr

/-- The values as checked. -/
structure Settings where
  flyApiToken : String
  flyApiUrl : String
  flyGraphqlUrl : String
  loadBalancerClass : String
  leaderElection : Bool
  leaderElectionNamespace : String
  healthProbeAddress : SocketAddress
  tunnel : TunnelConfig
deriving DecidableEq, Repr

namespace Settings

/-- What can be wrong with the values. -/
inductive Problem where
  | missing (flag envName : String)
  | badProbeAddress (written : String)
deriving DecidableEq, Repr

/-- The wording of a problem. -/
def Problem.message : Problem → String
  | .missing flag envName => s!"--{flag} or {envName} is required"
  | .badProbeAddress written =>
    s!"invalid --health-probe-bind-address {Text.quote written}: invalid socket address syntax"

/-- The value without blanks around it; one that is empty then counts as missing. -/
def require (value : Option String) (flag envName : String) : Except Problem String :=
  match (value.map Text.trim).filter (· != "") with
  | some v => .ok v
  | none => .error (.missing flag envName)

/-- Checks the values. -/
def ofOptions (o : Options) : Except Problem Settings := do
  let flyApiToken ← require o.flyApiToken "fly-api-token" "FLY_API_TOKEN"
  let flyOrg ← require o.flyOrg "fly-org" "FLY_ORG"
  let flyRegion ← require o.flyRegion "fly-region" "FLY_REGION"
  let healthProbeAddress ← match SocketAddress.parse? o.healthProbeBindAddress with
    | some a => .ok a
    | none => .error (.badProbeAddress o.healthProbeBindAddress)
  return {
    flyApiToken
    flyApiUrl := o.flyApiUrl
    flyGraphqlUrl := o.flyGraphqlUrl
    loadBalancerClass := o.loadBalancerClass
    leaderElection := o.leaderElection
    leaderElectionNamespace := o.leaderElectionNamespace
    healthProbeAddress
    tunnel := {
      flyOrg
      flyRegion
      flyMachineSize := o.flyMachineSize
      frpsImage := o.frpsImage
      frpcImage := o.frpcImage
      operatorNamespace := if Text.trim o.ns = "" then defaultNamespace else o.ns } }

/-- The checked values, or the operator's error. -/
def load (o : Options) : Except OperatorError Settings :=
  (ofOptions o).mapError fun p => .configuration p.message

/-- The values as they are shown: all but the token, which is a secret. -/
def shown (s : Settings) : List (String × Json) := [
  ("fly_api_url", .str s.flyApiUrl),
  ("fly_graphql_url", .str s.flyGraphqlUrl),
  ("load_balancer_class", .str s.loadBalancerClass),
  ("leader_election", .bool s.leaderElection),
  ("leader_election_namespace", .str s.leaderElectionNamespace),
  ("health_probe_addr", .str s.healthProbeAddress.text),
  ("fly_org", .str s.tunnel.flyOrg),
  ("fly_region", .str s.tunnel.flyRegion),
  ("fly_machine_size", .str s.tunnel.flyMachineSize),
  ("frps_image", .str s.tunnel.frpsImage),
  ("frpc_image", .str s.tunnel.frpcImage),
  ("operator_namespace", .str s.tunnel.operatorNamespace)]

end Settings

end ServiceTunnel
