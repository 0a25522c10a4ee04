import ServiceTunnel.Kube.Schema.Pod
import ServiceTunnel.Text.Base64

/-!
# ServiceTunnel.Kube.Schema.Workload

**The shapes of ConfigMaps and Deployments.**
-/

namespace ServiceTunnel.Kube.Schema

open Json (Shape)
open Json.Shape (optional required)

/-- Bytes. -/
def bytes : Shape := .formatted {
  expected := "ByteString"
  read := Text.Base64.checked
  missing := ""
  orNull := true }

/-- A ConfigMap. -/
def configMap : Shape := object "v1" "ConfigMap" <|
  optional (.map bytes) ["binaryData"]
    ++ optional textMap ["data"]
    ++ optional .bool ["immutable"]

/-- How pods are replaced one after another. -/
def rollingUpdate : Shape := .record "RollingUpdateDeployment" <|
  optional .intOrText ["maxSurge", "maxUnavailable"]

/-- How pods are replaced. -/
def deploymentStrategy : Shape := .record "DeploymentStrategy" <|
  optional rollingUpdate ["rollingUpdate"] ++ optional .text ["type"]

/-- What a Deployment keeps running. -/
def deploymentSpec : Shape := .record "DeploymentSpec" <|
  required labelSelector ["selector"]
    ++ required podTemplate ["template"]
    ++ optional .int32 ["minReadySeconds", "progressDeadlineSeconds", "replicas",
      "revisionHistoryLimit"]
    ++ optional .bool ["paused"]
    ++ optional deploymentStrategy ["strategy"]

/-- A condition that a Deployment is in. -/
def deploymentCondition : Shape := .record "DeploymentCondition" <|
  required .text ["status", "type"]
    ++ optional .text ["message", "reason"]
    ++ optional time ["lastTransitionTime", "lastUpdateTime"]

/-- What is known about a Deployment. -/
def deploymentStatus : Shape := .record "DeploymentStatus" <|
  optional .int32 ["availableReplicas", "collisionCount", "readyReplicas", "replicas",
      "unavailableReplicas", "updatedReplicas"]
    ++ optional .int64 ["observedGeneration"]
    ++ optional (.list deploymentCondition) ["conditions"]

/-- A Deployment. -/
def deployment : Shape := object "apps/v1" "Deployment" <|
  optional deploymentSpec ["spec"] ++ optional deploymentStatus ["status"]

end ServiceTunnel.Kube.Schema
