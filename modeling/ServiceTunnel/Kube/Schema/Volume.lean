import ServiceTunnel.Kube.Schema.Container

/-!
# ServiceTunnel.Kube.Schema.Volume

**The shape of a volume:** a name, and where its files come from.
-/

namespace ServiceTunnel.Kube.Schema

open Json (Shape)
open Json.Shape (optional required)

/-! ### Files from objects -/

/-- An entry and the path under which it is seen. -/
def keyToPath : Shape := .record "KeyToPath" <|
  required .text ["key", "path"] ++ optional .int32 ["mode"]

/-- The entries of a ConfigMap. -/
def configMapSource : Shape := .record "ConfigMapVolumeSource" <|
  required .text ["name"]
    ++ optional .bool ["optional"]
    ++ optional .int32 ["defaultMode"]
    ++ optional (.list keyToPath) ["items"]

/-- The entries of a Secret. -/
def secretSource : Shape := .record "SecretVolumeSource" <|
  optional .text ["secretName"]
    ++ optional .bool ["optional"]
    ++ optional .int32 ["defaultMode"]
    ++ optional (.list keyToPath) ["items"]

/-- A file about the pod itself. -/
def podInfoFile : Shape := .record "DownwardAPIVolumeFile" <|
  required .text ["path"]
    ++ optional .int32 ["mode"]
    ++ optional fieldReference ["fieldRef"]
    ++ optional resourceFieldReference ["resourceFieldRef"]

/-- Files about the pod itself. -/
def podInfoSource : Shape := .record "DownwardAPIVolumeSource" <|
  optional .int32 ["defaultMode"] ++ optional (.list podInfoFile) ["items"]

/-- Files about the pod itself among others. -/
def projectedInfo : Shape := .record "DownwardAPIProjection" <|
  optional (.list podInfoFile) ["items"]

/-- The entries of an object among others. -/
def projectedEntries (title : String) : Shape := .record title <|
  required .text ["name"]
    ++ optional .bool ["optional"]
    ++ optional (.list keyToPath) ["items"]

/-- A bundle of trusted certificates. -/
def trustBundle : Shape := .record "ClusterTrustBundleProjection" <|
  required .text ["path"]
    ++ optional .text ["name", "signerName"]
    ++ optional .bool ["optional"]
    ++ optional labelSelector ["labelSelector"]

/-- A token of the pod's account. -/
def accountToken : Shape := .record "ServiceAccountTokenProjection" <|
  required .text ["path"] ++ optional .text ["audience"] ++ optional .int64 ["expirationSeconds"]

/-- One of several sources of a volume. -/
def projection : Shape := .record "VolumeProjection" <|
  optional trustBundle ["clusterTrustBundle"]
    ++ optional (projectedEntries "ConfigMapProjection") ["configMap"]
    ++ optional (projectedEntries "SecretProjection") ["secret"]
    ++ optional projectedInfo ["downwardAPI"]
    ++ optional accountToken ["serviceAccountToken"]

/-- Several sources in one volume. -/
def projectedSource : Shape := .record "ProjectedVolumeSource" <|
  optional .int32 ["defaultMode"] ++ optional (.list projection) ["sources"]

/-! ### Claims -/

/-- Where the content of a claimed volume comes from. -/
def dataSource : Shape := .record "TypedLocalObjectReference" <|
  required .text ["kind", "name"] ++ optional .text ["apiGroup"]

/-- Where the content of a claimed volume comes from, in any namespace. -/
def dataSourceReference : Shape := .record "TypedObjectReference" <|
  required .text ["kind", "name"] ++ optional .text ["apiGroup", "namespace"]

/-- The size of a claimed volume. -/
def volumeResources : Shape := .record "VolumeResourceRequirements" <|
  optional textMap ["limits", "requests"]

/-- A claim to a volume. -/
def claimSpec : Shape := .record "PersistentVolumeClaimSpec" <|
  optional .text ["storageClassName", "volumeAttributesClassName", "volumeMode", "volumeName"]
    ++ optional texts ["accessModes"]
    ++ optional dataSource ["dataSource"]
    ++ optional dataSourceReference ["dataSourceRef"]
    ++ optional volumeResources ["resources"]
    ++ optional labelSelector ["selector"]

/-- A claim to be made together with the pod. -/
def claimTemplate : Shape := .record "PersistentVolumeClaimTemplate" <|
  required claimSpec ["spec"] ++ optional metadata ["metadata"]

/-! ### Storage systems -/

/-- The sources of volumes by their names. -/
def volumeSources : List (String × Shape) := [
  ("awsElasticBlockStore", .record "AWSElasticBlockStoreVolumeSource" <|
    required .text ["volumeID"] ++ optional .text ["fsType"] ++ optional .int32 ["partition"]
      ++ optional .bool ["readOnly"]),
  ("azureDisk", .record "AzureDiskVolumeSource" <|
    required .text ["diskName", "diskURI"] ++ optional .text ["cachingMode", "fsType", "kind"]
      ++ optional .bool ["readOnly"]),
  ("azureFile", .record "AzureFileVolumeSource" <|
    required .text ["secretName", "shareName"] ++ optional .bool ["readOnly"]),
  ("cephfs", .record "CephFSVolumeSource" <|
    required texts ["monitors"] ++ optional .text ["path", "secretFile", "user"]
      ++ optional .bool ["readOnly"] ++ optional localReference ["secretRef"]),
  ("cinder", .record "CinderVolumeSource" <|
    required .text ["volumeID"] ++ optional .text ["fsType"] ++ optional .bool ["readOnly"]
      ++ optional localReference ["secretRef"]),
  ("configMap", configMapSource),
  ("csi", .record "CSIVolumeSource" <|
    required .text ["driver"] ++ optional .text ["fsType"] ++ optional .bool ["readOnly"]
      ++ optional localReference ["nodePublishSecretRef"]
      ++ optional textMap ["volumeAttributes"]),
  ("downwardAPI", podInfoSource),
  ("emptyDir", .record "EmptyDirVolumeSource" (optional .text ["medium", "sizeLimit"])),
  ("ephemeral", .record "EphemeralVolumeSource" (optional claimTemplate ["volumeClaimTemplate"])),
  ("fc", .record "FCVolumeSource" <|
    optional .text ["fsType"] ++ optional .int32 ["lun"] ++ optional .bool ["readOnly"]
      ++ optional texts ["targetWWNs", "wwids"]),
  ("flexVolume", .record "FlexVolumeSource" <|
    required .text ["driver"] ++ optional .text ["fsType"] ++ optional textMap ["options"]
      ++ optional .bool ["readOnly"] ++ optional localReference ["secretRef"]),
  ("flocker", .record "FlockerVolumeSource" (optional .text ["datasetName", "datasetUUID"])),
  ("gcePersistentDisk", .record "GCEPersistentDiskVolumeSource" <|
    required .text ["pdName"] ++ optional .text ["fsType"] ++ optional .int32 ["partition"]
      ++ optional .bool ["readOnly"]),
  ("gitRepo", .record "GitRepoVolumeSource" <|
    required .text ["repository"] ++ optional .text ["directory", "revision"]),
  ("glusterfs", .record "GlusterfsVolumeSource" <|
    required .text ["endpoints", "path"] ++ optional .bool ["readOnly"]),
  ("hostPath", .record "HostPathVolumeSource" (required .text ["path"] ++ optional .text ["type"])),
  ("image", .record "ImageVolumeSource" (optional .text ["pullPolicy", "reference"])),
  ("iscsi", .record "ISCSIVolumeSource" <|
    required .text ["iqn", "targetPortal"] ++ required .int32 ["lun"]
      ++ optional .bool ["chapAuthDiscovery", "chapAuthSession", "readOnly"]
      ++ optional .text ["fsType", "initiatorName", "iscsiInterface"]
      ++ optional texts ["portals"] ++ optional localReference ["secretRef"]),
  ("nfs", .record "NFSVolumeSource" <|
    required .text ["path", "server"] ++ optional .bool ["readOnly"]),
  ("persistentVolumeClaim", .record "PersistentVolumeClaimVolumeSource" <|
    required .text ["claimName"] ++ optional .bool ["readOnly"]),
  ("photonPersistentDisk", .record "PhotonPersistentDiskVolumeSource" <|
    required .text ["pdID"] ++ optional .text ["fsType"]),
  ("portworxVolume", .record "PortworxVolumeSource" <|
    required .text ["volumeID"] ++ optional .text ["fsType"] ++ optional .bool ["readOnly"]),
  ("projected", projectedSource),
  ("quobyte", .record "QuobyteVolumeSource" <|
    required .text ["registry", "volume"] ++ optional .text ["group", "tenant", "user"]
      ++ optional .bool ["readOnly"]),
  ("rbd", .record "RBDVolumeSource" <|
    required .text ["image"] ++ required texts ["monitors"]
      ++ optional .text ["fsType", "keyring", "pool", "user"]
      ++ optional .bool ["readOnly"] ++ optional localReference ["secretRef"]),
  ("scaleIO", .record "ScaleIOVolumeSource" <|
    required .text ["gateway", "system"] ++ required localReference ["secretRef"]
      ++ optional .text ["fsType", "protectionDomain", "storageMode", "storagePool", "volumeName"]
      ++ optional .bool ["readOnly", "sslEnabled"]),
  ("secret", secretSource),
  ("storageos", .record "StorageOSVolumeSource" <|
    optional .text ["fsType", "volumeName", "volumeNamespace"] ++ optional .bool ["readOnly"]
      ++ optional localReference ["secretRef"]),
  ("vsphereVolume", .record "VsphereVirtualDiskVolumeSource" <|
    required .text ["volumePath"]
      ++ optional .text ["fsType", "storagePolicyID", "storagePolicyName"])]

/-- A volume. -/
def volume : Shape := .record "Volume" <|
  required .text ["name"] ++ volumeSources.map fun (name, source) => (name, .optional, source)

end ServiceTunnel.Kube.Schema
