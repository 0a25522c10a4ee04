import ServiceTunnel.Call
import ServiceTunnel.Saga

/-!
# ServiceTunnel.Lifecycle

**Setting a tunnel up, keeping it in step with its Service, and taking it down.** Nothing is kept
between these: what a tunnel is made of is told in the annotations of the Service.
-/

namespace ServiceTunnel.Lifecycle

open Kube

/-- The state of a machine that runs. -/
def startedState : String := "started"

/-- How many seconds the provider may take to start a machine. -/
def startSeconds : Nat := 60

/-- How many milliseconds the operator itself waits for a machine to start. -/
def startLimit : Nat := 65000

/-- Waits until a new machine runs. -/
def waitStarted (app : String) (machine : Machine) : Operation (Except OperatorError Unit) :=
  let wait := .waitForMachine app machine.id machine.instanceId startedState startSeconds
  .call (.providerWithin startLimit wait) fun (r : Option (Except ProviderError Unit)) =>
    match r with
    | some (.ok ()) => .done (.ok ())
    | some (.error e) => .done (.error (.provider e))
    | none =>
      .done (.error (.provider (.timeout s!"machine {machine.id} did not reach {startedState}")))

/-- Writes the objects of a tunnel's client, the configuration first. -/
def applyWorkload (w : Workload) : Operation (Except OperatorError Unit) :=
  (Operation.workload (.applyConfigMap w.configMap)).bind fun
    | .ok () => Operation.workload (.applyDeployment w.deployment)
    | .error e => .done (.error e)

/-- The requirements that a Service asks for. -/
def requirements (service : Service) : Except OperatorError Requirements :=
  (Requirements.resolve service.annotations).mapError fun b => .validation b.message

/-- The client that connects a Service to the server at an address. -/
def workload (config : TunnelConfig) (service : Service) (deploymentName serverAddr : String)
    (requirements : Requirements) : Workload :=
  .build service {
    deploymentName
    ns := config.operatorNamespace
    image := config.frpcImage
    serverAddr
    requirements }

/-! ### Setting up -/

/-- The steps that set a tunnel up: the application, a machine in it that runs, an address, and
the client in the cluster. -/
def provisionSteps (config : TunnelConfig) (service : Service) (requirements : Requirements) :
    SagaM Call.interface Tunnel := do
  let app := Name.ofService .app service
  let deploymentName := Name.ofService .deployment service
  SagaM.step "creating Fly.io app" (Operation.provider (.ensureApp app config.flyOrg))
  SagaM.compensate "delete Fly.io app" (Operation.provider (.deleteApp app))
  let machine ← SagaM.step "creating machine"
    (Operation.provider (.createMachine app (.ofService service config)))
  SagaM.compensate "delete machine" (Operation.provider (.deleteMachine app machine.id))
  SagaM.step "waiting for machine to start" (waitStarted app machine)
  let ip ← SagaM.step "allocating IPv4" (Operation.provider (.allocateIp app))
  SagaM.compensate "release IPv4" (Operation.provider (.releaseIp app ip.id))
  SagaM.step "deploying frpc"
    (applyWorkload (workload config service deploymentName ip.address requirements))
  return {
    appName := app
    machineId := machine.id
    publicIp := ip.address
    ipId := ip.id
    deploymentName }

/-- Sets a tunnel up. A Service that asks for the impossible is refused before anything is done,
and a failure undoes what has been done. -/
def provision (config : TunnelConfig) (service : Service) :
    Operation (Except OperatorError Tunnel) :=
  match requirements service with
  | .error e => .done (.error e)
  | .ok requirements => (provisionSteps config service requirements).perform

/-! ### Keeping in step -/

/-- The keys of what an update needs and the record lacks. -/
def missingKeys (record : TunnelRecord) : List String :=
  [(Annotations.publicIp, record.publicIp), (Annotations.frpcDeployment, record.frpcDeployment),
    (Annotations.flyApp, record.flyApp)].filterMap fun p => if p.2.isNone then some p.1 else none

/-- Changes the recorded machine if it is not as the Service asks. -/
def updateMachine (config : TunnelConfig) (service : Service) (app id : String) :
    Operation (Except OperatorError Unit) :=
  let input := MachineInput.ofService service config
  (Operation.provider (.getMachine app id)).bind fun
    | .error e => .done (.error e)
    | .ok machine =>
      if input.matchesMachine machine then .done (.ok ())
      else (Operation.provider (.updateMachine app id input)).bind fun
        | .error e => .done (.error e)
        | .ok _ => .done (.ok ())

/-- Brings a tunnel in step with its Service: the client always, the machine if one is recorded. -/
def update (config : TunnelConfig) (service : Service) : Operation (Except OperatorError Unit) :=
  let record := TunnelRecord.ofService service
  match record.publicIp, record.frpcDeployment, record.flyApp with
  | some publicIp, some deploymentName, some app =>
    match requirements service with
    | .error e => .done (.error e)
    | .ok requirements =>
      (applyWorkload (workload config service deploymentName publicIp requirements)).bind fun
        | .error e => .done (.error e)
        | .ok () =>
          match record.machineId with
          | none => .done (.ok ())
          | some id => updateMachine config service app id
  | _, _, _ =>
    .done (.error (.validation ("missing annotations: " ++ ", ".intercalate (missingKeys record))))

/-! ### Taking down -/

/-- Makes a call and goes on whatever becomes of it. -/
def attempt (p : Operation (Except OperatorError Unit)) : Operation Unit := p.bind fun _ => .done ()

/-- Releases addresses one after another. -/
def releaseAll (app : String) : List IpAddress → Operation Unit
  | [] => .done ()
  | ip :: rest =>
    (attempt (Operation.provider (.releaseIp app ip.id))).bind fun _ => releaseAll app rest

/-- Releases the recorded address, or every address of the application if none is recorded. -/
def releaseAddresses (app : String) (ipId : Option String) : Operation Unit :=
  match ipId with
  | some id => attempt (Operation.provider (.releaseIp app id))
  | none => (Operation.provider (.listIps app)).bind fun
    | .ok ips => releaseAll app ips
    | .error _ => .done ()

/-- Deletes the machine if one is recorded. -/
def deleteMachine (app : String) (id : Option String) : Operation Unit :=
  match id with
  | some id => attempt (Operation.provider (.deleteMachine app id))
  | none => .done ()

/-- Takes a tunnel down. Every step is tried, whatever becomes of those before it. -/
def teardown (config : TunnelConfig) (service : Service) : Operation Unit :=
  let record := TunnelRecord.ofService service
  let app := record.flyApp.getD (Name.ofService .app service)
  let deploymentName := record.frpcDeployment.getD (Name.ofService .deployment service)
  let ns := config.operatorNamespace
  (attempt (Operation.workload (.deleteDeployment ns deploymentName))).bind fun _ =>
  (attempt (Operation.workload
    (.deleteConfigMap ns (Workload.configMapName deploymentName)))).bind fun _ =>
  (releaseAddresses app record.ipId).bind fun _ =>
  (deleteMachine app record.machineId).bind fun _ =>
  attempt (Operation.provider (.deleteApp app))

end ServiceTunnel.Lifecycle
