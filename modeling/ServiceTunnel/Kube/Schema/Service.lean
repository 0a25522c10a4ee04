import ServiceTunnel.Kube.Schema.Metadata

/-!
# ServiceTunnel.Kube.Schema.Service

**The shape of a Service.**
-/

namespace ServiceTunnel.Kube.Schema

open Json (Shape)
open Json.Shape (optional required)

/-- A declared port. -/
def servicePort : Shape := .record "ServicePort" <|
  required .int32 ["port"]
    ++ optional .text ["appProtocol", "name", "protocol"]
    ++ optional .int32 ["nodePort"]
    ++ optional .intOrText ["targetPort"]

/-- How long the address of a user counts. -/
def clientAddressConfig : Shape := .record "ClientIPConfig" (optional .int32 ["timeoutSeconds"])

/-- How long a user keeps reaching the same server. -/
def sessionAffinityConfig : Shape := .record "SessionAffinityConfig" <|
  optional clientAddressConfig ["clientIP"]

/-- What the users of a Service ask for. -/
def serviceSpec : Shape := .record "ServiceSpec" <|
  optional .text ["clusterIP", "externalName", "externalTrafficPolicy", "internalTrafficPolicy",
      "ipFamilyPolicy", "loadBalancerClass", "loadBalancerIP", "sessionAffinity",
      "trafficDistribution", "type"]
    ++ optional texts ["clusterIPs", "externalIPs", "ipFamilies", "loadBalancerSourceRanges"]
    ++ optional .bool ["allocateLoadBalancerNodePorts", "publishNotReadyAddresses"]
    ++ optional .int32 ["healthCheckNodePort"]
    ++ optional textMap ["selector"]
    ++ optional sessionAffinityConfig ["sessionAffinityConfig"]
    ++ optional (.list servicePort) ["ports"]

/-- The state of a port of the load balancer. -/
def portStatus : Shape := .record "PortStatus" <|
  required .int32 ["port"] ++ required .text ["protocol"] ++ optional .text ["error"]

/-- A point at which a Service is reached from outside. -/
def ingress : Shape := .record "LoadBalancerIngress" <|
  optional .text ["hostname", "ip", "ipMode"] ++ optional (.list portStatus) ["ports"]

/-- The state of the load balancer. -/
def loadBalancerStatus : Shape := .record "LoadBalancerStatus" <|
  optional (.list ingress) ["ingress"]

/-- A condition that an object is in. -/
def condition : Shape := .record "Condition" <|
  required time ["lastTransitionTime"]
    ++ required .text ["message", "reason", "status", "type"]
    ++ optional .int64 ["observedGeneration"]

/-- What is known about a Service. -/
def serviceStatus : Shape := .record "ServiceStatus" <|
  optional (.list condition) ["conditions"] ++ optional loadBalancerStatus ["loadBalancer"]

/-- A Service. -/
def service : Shape := object "v1" "Service" <|
  optional serviceSpec ["spec"] ++ optional serviceStatus ["status"]

end ServiceTunnel.Kube.Schema
