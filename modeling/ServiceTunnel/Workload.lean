import ServiceTunnel.Digest.Sha256
import ServiceTunnel.Frp
import ServiceTunnel.Kube.Workload
import ServiceTunnel.Name
import ServiceTunnel.Requirements

/-!
# ServiceTunnel.Workload

**The client of a tunnel inside the cluster:** a ConfigMap with its configuration, and a Deployment
of one pod that mounts it. The pods carry a digest of the configuration, so they are replaced when
it changes and only then.
-/

namespace ServiceTunnel

/-- The objects that make up the client of a tunnel. -/
structure Workload where
  configMap : Kube.ConfigMap
  deployment : Kube.Deployment
deriving DecidableEq

namespace Workload

/-- The name under which the operator owns what it writes. -/
def fieldManager : String := "fly-tunnel-operator"

/-- The entry of the ConfigMap that holds the configuration. -/
def configKey : String := "frpc.toml"

/-- The name of the ConfigMap that belongs to a Deployment. -/
def configMapName (deployment : String) : String := deployment ++ "-config"

/-- The digest of a configuration. -/
def configHash (config : String) : String := String.ofList (Digest.sha256Hex config)

/-- The labels by which a Deployment knows its pods. -/
def selectorLabels (service : Kube.Service) : Dict String String :=
  .ofList [("app.kubernetes.io/name", "frpc"),
    (Annotations.serviceLabel, Name.ofService .label service)]

/-- The labels of everything that belongs to a client. -/
def labels (service : Kube.Service) : Dict String String :=
  (selectorLabels service).insert "app.kubernetes.io/managed-by" fieldManager

/-! ### Clients -/

/-- A client: its Deployment and its image, the server that it connects to, and what its container
may use. -/
structure Client where
  deploymentName : String
  ns : String
  image : String
  serverAddr : String
  resources : Kube.ResourceRequirements
deriving DecidableEq

namespace Client

/-- The text of the client's configuration. -/
def config (c : Client) (service : Kube.Service) : String :=
  (Frp.ClientConfig.ofService service c.serverAddr Frp.controlPort).render

/-- The ConfigMap of a client. -/
def configMap (c : Client) (service : Kube.Service) : Kube.ConfigMap where
  metadata := {
    name := some (configMapName c.deploymentName)
    ns := some c.ns
    labels := some (labels service) }
  data := some (.ofList [(configKey, c.config service)])

/-- The container of a client. -/
def container (c : Client) : Kube.Container where
  name := "frpc"
  image := some c.image
  command := some ["frpc"]
  args := some ["-c", "/etc/frp/" ++ configKey]
  resources := some c.resources
  volumeMounts := some [{ name := "config", mountPath := "/etc/frp", readOnly := some true }]

/-- What the pod of a client is made from. -/
def template (c : Client) (service : Kube.Service) : Kube.PodTemplate where
  metadata := some {
    labels := some (labels service)
    annotations := some (.ofList [(Annotations.configHash, configHash (c.config service))]) }
  spec := some {
    containers := [c.container]
    volumes :=
      some [{ name := "config", configMap := some { name := configMapName c.deploymentName } }] }

/-- The Deployment of a client. -/
def deployment (c : Client) (service : Kube.Service) : Kube.Deployment where
  metadata := {
    name := some c.deploymentName
    ns := some c.ns
    labels := some (labels service) }
  spec := some {
    replicas := some 1
    selector := { matchLabels := some (selectorLabels service) }
    template := c.template service }

/-- The objects of a client. -/
def workload (c : Client) (service : Kube.Service) : Workload where
  configMap := c.configMap service
  deployment := c.deployment service

end Client

/-! ### Clients of Services -/

/-- What differs between the clients of one Service. -/
structure Spec where
  deploymentName : String
  ns : String
  image : String
  serverAddr : String
  requirements : Requirements
deriving DecidableEq, Repr

/-- The client that is asked for. -/
def Spec.client (spec : Spec) : Client where
  deploymentName := spec.deploymentName
  ns := spec.ns
  image := spec.image
  serverAddr := spec.serverAddr
  resources := {
    requests := some spec.requirements.requests
    limits := some spec.requirements.limits }

/-- The container of the client that is asked for. -/
def buildContainer (spec : Spec) : Kube.Container := spec.client.container

/-- The client that connects a Service to the server at `spec.serverAddr`. -/
def build (service : Kube.Service) (spec : Spec) : Workload := spec.client.workload service

end Workload

end ServiceTunnel
