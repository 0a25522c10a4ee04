import ServiceTunnel.Kube.Schema.Volume

/-!
# ServiceTunnel.Kube.Schema.Pod

**The shape of what pods are made from:** containers and volumes, where a pod may run, and what it
may do there.
-/

namespace ServiceTunnel.Kube.Schema

open Json (Shape)
open Json.Shape (optional required)

/-! ### Where a pod may run -/

/-- A choice of nodes. -/
def nodeSelectorTerm : Shape := .record "NodeSelectorTerm" <|
  optional (.list (labelRequirement "NodeSelectorRequirement")) ["matchExpressions", "matchFields"]

/-- A choice of nodes that is preferred. -/
def preferredNodes : Shape := .record "PreferredSchedulingTerm" <|
  required nodeSelectorTerm ["preference"] ++ required .int32 ["weight"]

/-- One of several choices of nodes. -/
def nodeSelector : Shape := .record "NodeSelector" <|
  required (.list nodeSelectorTerm) ["nodeSelectorTerms"]

/-- The nodes that a pod is drawn to. -/
def nodeAffinity : Shape := .record "NodeAffinity" <|
  optional (.list preferredNodes) ["preferredDuringSchedulingIgnoredDuringExecution"]
    ++ optional nodeSelector ["requiredDuringSchedulingIgnoredDuringExecution"]

/-- A choice of other pods. -/
def podAffinityTerm : Shape := .record "PodAffinityTerm" <|
  required .text ["topologyKey"]
    ++ optional labelSelector ["labelSelector", "namespaceSelector"]
    ++ optional texts ["matchLabelKeys", "mismatchLabelKeys", "namespaces"]

/-- A choice of other pods that is preferred. -/
def preferredPods : Shape := .record "WeightedPodAffinityTerm" <|
  required podAffinityTerm ["podAffinityTerm"] ++ required .int32 ["weight"]

/-- The pods that a pod is drawn to or kept from. -/
def podAffinity (title : String) : Shape := .record title <|
  optional (.list preferredPods) ["preferredDuringSchedulingIgnoredDuringExecution"]
    ++ optional (.list podAffinityTerm) ["requiredDuringSchedulingIgnoredDuringExecution"]

/-- What a pod is drawn to and kept from. -/
def affinity : Shape := .record "Affinity" <|
  optional nodeAffinity ["nodeAffinity"]
    ++ optional (podAffinity "PodAffinity") ["podAffinity"]
    ++ optional (podAffinity "PodAntiAffinity") ["podAntiAffinity"]

/-- A taint of nodes that a pod bears. -/
def toleration : Shape := .record "Toleration" <|
  optional .text ["effect", "key", "operator", "value"] ++ optional .int64 ["tolerationSeconds"]

/-- How pods are spread. -/
def topologySpread : Shape := .record "TopologySpreadConstraint" <|
  required .int32 ["maxSkew"]
    ++ required .text ["topologyKey", "whenUnsatisfiable"]
    ++ optional .text ["nodeAffinityPolicy", "nodeTaintsPolicy"]
    ++ optional .int32 ["minDomains"]
    ++ optional texts ["matchLabelKeys"]
    ++ optional labelSelector ["labelSelector"]

/-! ### What a pod may do -/

/-- A setting of the kernel. -/
def sysctl : Shape := .record "Sysctl" (required .text ["name", "value"])

/-- What all containers of a pod may do. -/
def podSecurityContext : Shape := .record "PodSecurityContext" <|
  optional .text ["fsGroupChangePolicy", "seLinuxChangePolicy", "supplementalGroupsPolicy"]
    ++ optional .int64 ["fsGroup", "runAsGroup", "runAsUser"]
    ++ optional .bool ["runAsNonRoot"]
    ++ optional (.list .int64) ["supplementalGroups"]
    ++ optional (securityProfile "AppArmorProfile") ["appArmorProfile"]
    ++ optional (securityProfile "SeccompProfile") ["seccompProfile"]
    ++ optional securityLabels ["seLinuxOptions"]
    ++ optional (.list sysctl) ["sysctls"]
    ++ optional windowsOptions ["windowsOptions"]

/-! ### Pods -/

/-- An option of the resolver of names. -/
def dnsOption : Shape := .record "PodDNSConfigOption" (optional .text ["name", "value"])

/-- How names are resolved. -/
def dnsConfig : Shape := .record "PodDNSConfig" <|
  optional texts ["nameservers", "searches"]
    ++ optional (.list dnsOption) ["options"]

/-- Names of an address. -/
def hostAlias : Shape := .record "HostAlias" <|
  required .text ["ip"] ++ optional texts ["hostnames"]

/-- A claim of a pod to resources. -/
def podResourceClaim : Shape := .record "PodResourceClaim" <|
  required .text ["name"] ++ optional .text ["resourceClaimName", "resourceClaimTemplateName"]

/-- A condition that must hold for a pod to be ready. -/
def readinessGate : Shape := .record "PodReadinessGate" (required .text ["conditionType"])

/-- What must be lifted before a pod is scheduled. -/
def schedulingGate : Shape := .record "PodSchedulingGate" (required .text ["name"])

/-- The operating system of a pod. -/
def podSystem : Shape := .record "PodOS" (required .text ["name"])

/-- A pod as it is wished for. -/
def podSpec : Shape := .record "PodSpec" <|
  required (.list container) ["containers"]
    ++ optional (.list container) ["initContainers"]
    ++ optional (.list ephemeralContainer) ["ephemeralContainers"]
    ++ optional (.list volume) ["volumes"]
    ++ optional .text ["dnsPolicy", "hostname", "nodeName", "preemptionPolicy",
      "priorityClassName", "restartPolicy", "runtimeClassName", "schedulerName",
      "serviceAccount", "serviceAccountName", "subdomain"]
    ++ optional .bool ["automountServiceAccountToken", "enableServiceLinks", "hostIPC",
      "hostNetwork", "hostPID", "hostUsers", "setHostnameAsFQDN", "shareProcessNamespace"]
    ++ optional .int32 ["priority"]
    ++ optional .int64 ["activeDeadlineSeconds", "terminationGracePeriodSeconds"]
    ++ optional textMap ["nodeSelector", "overhead"]
    ++ optional affinity ["affinity"]
    ++ optional dnsConfig ["dnsConfig"]
    ++ optional (.list hostAlias) ["hostAliases"]
    ++ optional (.list localReference) ["imagePullSecrets"]
    ++ optional podSystem ["os"]
    ++ optional (.list readinessGate) ["readinessGates"]
    ++ optional (.list podResourceClaim) ["resourceClaims"]
    ++ optional resourceRequirements ["resources"]
    ++ optional (.list schedulingGate) ["schedulingGates"]
    ++ optional podSecurityContext ["securityContext"]
    ++ optional (.list toleration) ["tolerations"]
    ++ optional (.list topologySpread) ["topologySpreadConstraints"]

/-- What pods are made from. -/
def podTemplate : Shape := .record "PodTemplateSpec" <|
  optional metadata ["metadata"] ++ optional podSpec ["spec"]

end ServiceTunnel.Kube.Schema
