import ServiceTunnel.Kube.Schema.Metadata

/-!
# ServiceTunnel.Kube.Schema.Container

**The shape of a container:** its environment, ports and mounts, how it is watched, and what it may
do.
-/

namespace ServiceTunnel.Kube.Schema

open Json (Shape)
open Json.Shape (optional required)

/-! ### Environment -/

/-- A reference to an object of the namespace by its name. -/
def localReference : Shape := .record "LocalObjectReference" (required .text ["name"])

/-- A reference to an object of the namespace that may be missing. -/
def optionalReference (title : String) : Shape := .record title <|
  required .text ["name"] ++ optional .bool ["optional"]

/-- A reference to one entry of an object of the namespace. -/
def keyReference (title : String) : Shape := .record title <|
  required .text ["key", "name"] ++ optional .bool ["optional"]

/-- A reference to a field of the pod. -/
def fieldReference : Shape := .record "ObjectFieldSelector" <|
  required .text ["fieldPath"] ++ optional .text ["apiVersion"]

/-- A reference to an amount of a container's resources. -/
def resourceFieldReference : Shape := .record "ResourceFieldSelector" <|
  required .text ["resource"] ++ optional .text ["containerName", "divisor"]

/-- Where the value of a variable comes from. -/
def variableSource : Shape := .record "EnvVarSource" <|
  optional (keyReference "ConfigMapKeySelector") ["configMapKeyRef"]
    ++ optional (keyReference "SecretKeySelector") ["secretKeyRef"]
    ++ optional fieldReference ["fieldRef"]
    ++ optional resourceFieldReference ["resourceFieldRef"]

/-- A variable of the environment. -/
def environmentVariable : Shape := .record "EnvVar" <|
  required .text ["name"] ++ optional .text ["value"] ++ optional variableSource ["valueFrom"]

/-- An object whose entries are variables of the environment. -/
def variablesFrom : Shape := .record "EnvFromSource" <|
  optional (optionalReference "ConfigMapEnvSource") ["configMapRef"]
    ++ optional (optionalReference "SecretEnvSource") ["secretRef"]
    ++ optional .text ["prefix"]

/-! ### Probes and hooks -/

/-- A command to run. -/
def execAction : Shape := .record "ExecAction" (optional texts ["command"])

/-- A header of a request. -/
def httpHeader : Shape := .record "HTTPHeader" (required .text ["name", "value"])

/-- A request to make. -/
def httpGetAction : Shape := .record "HTTPGetAction" <|
  required .intOrText ["port"]
    ++ optional .text ["host", "path", "scheme"]
    ++ optional (.list httpHeader) ["httpHeaders"]

/-- A connection to open. -/
def tcpSocketAction : Shape := .record "TCPSocketAction" <|
  required .intOrText ["port"] ++ optional .text ["host"]

/-- A health call to make. -/
def grpcAction : Shape := .record "GRPCAction" <|
  required .int32 ["port"] ++ optional .text ["service"]

/-- A rest to take. -/
def sleepAction : Shape := .record "SleepAction" (required .int64 ["seconds"])

/-- What happens at a point in the life of a container. -/
def lifecycleHandler : Shape := .record "LifecycleHandler" <|
  optional execAction ["exec"]
    ++ optional httpGetAction ["httpGet"]
    ++ optional sleepAction ["sleep"]
    ++ optional tcpSocketAction ["tcpSocket"]

/-- What happens after the start and before the end of a container. -/
def lifecycle : Shape := .record "Lifecycle" (optional lifecycleHandler ["postStart", "preStop"])

/-- How it is found out whether a container is well. -/
def probe : Shape := .record "Probe" <|
  optional execAction ["exec"]
    ++ optional grpcAction ["grpc"]
    ++ optional httpGetAction ["httpGet"]
    ++ optional tcpSocketAction ["tcpSocket"]
    ++ optional .int32 ["failureThreshold", "initialDelaySeconds", "periodSeconds",
      "successThreshold", "timeoutSeconds"]
    ++ optional .int64 ["terminationGracePeriodSeconds"]

/-! ### Rights and resources -/

/-- A profile of a security module. -/
def securityProfile (title : String) : Shape := .record title <|
  required .text ["type"] ++ optional .text ["localhostProfile"]

/-- Labels of a security module. -/
def securityLabels : Shape := .record "SELinuxOptions" <|
  optional .text ["level", "role", "type", "user"]

/-- Options for other operating systems. -/
def windowsOptions : Shape := .record "WindowsSecurityContextOptions" <|
  optional .text ["gmsaCredentialSpec", "gmsaCredentialSpecName", "runAsUserName"]
    ++ optional .bool ["hostProcess"]

/-- Rights given and taken. -/
def capabilities : Shape := .record "Capabilities" (optional texts ["add", "drop"])

/-- What a container may do. -/
def securityContext : Shape := .record "SecurityContext" <|
  optional .bool ["allowPrivilegeEscalation", "privileged", "readOnlyRootFilesystem",
      "runAsNonRoot"]
    ++ optional .int64 ["runAsGroup", "runAsUser"]
    ++ optional .text ["procMount"]
    ++ optional capabilities ["capabilities"]
    ++ optional (securityProfile "AppArmorProfile") ["appArmorProfile"]
    ++ optional (securityProfile "SeccompProfile") ["seccompProfile"]
    ++ optional securityLabels ["seLinuxOptions"]
    ++ optional windowsOptions ["windowsOptions"]

/-- A claim to a resource. -/
def resourceClaim : Shape := .record "ResourceClaim" <|
  required .text ["name"] ++ optional .text ["request"]

/-- The amounts of each resource that are asked for and may be used at most. -/
def resourceRequirements : Shape := .record "ResourceRequirements" <|
  optional (.list resourceClaim) ["claims"] ++ optional textMap ["limits", "requests"]

/-- What happens when the amount of a resource changes. -/
def resizePolicy : Shape := .record "ContainerResizePolicy" <|
  required .text ["resourceName", "restartPolicy"]

/-! ### Containers -/

/-- A port that a container listens on. -/
def containerPort : Shape := .record "ContainerPort" <|
  required .int32 ["containerPort"]
    ++ optional .text ["hostIP", "name", "protocol"]
    ++ optional .int32 ["hostPort"]

/-- Where a container sees a volume. -/
def volumeMount : Shape := .record "VolumeMount" <|
  required .text ["mountPath", "name"]
    ++ optional .text ["mountPropagation", "recursiveReadOnly", "subPath", "subPathExpr"]
    ++ optional .bool ["readOnly"]

/-- Where a container sees a volume as a device. -/
def volumeDevice : Shape := .record "VolumeDevice" (required .text ["devicePath", "name"])

/-- The fields of a container. -/
def containerFields : List (String × Json.Presence × Shape) :=
  required .text ["name"]
    ++ optional .text ["image", "imagePullPolicy", "restartPolicy", "terminationMessagePath",
      "terminationMessagePolicy", "workingDir"]
    ++ optional texts ["args", "command"]
    ++ optional .bool ["stdin", "stdinOnce", "tty"]
    ++ optional (.list environmentVariable) ["env"]
    ++ optional (.list variablesFrom) ["envFrom"]
    ++ optional lifecycle ["lifecycle"]
    ++ optional probe ["livenessProbe", "readinessProbe", "startupProbe"]
    ++ optional (.list containerPort) ["ports"]
    ++ optional (.list resizePolicy) ["resizePolicy"]
    ++ optional resourceRequirements ["resources"]
    ++ optional securityContext ["securityContext"]
    ++ optional (.list volumeDevice) ["volumeDevices"]
    ++ optional (.list volumeMount) ["volumeMounts"]

/-- A container. -/
def container : Shape := .record "Container" containerFields

/-- A container that joins a running pod. -/
def ephemeralContainer : Shape := .record "EphemeralContainer" <|
  containerFields ++ optional .text ["targetContainerName"]

end ServiceTunnel.Kube.Schema
