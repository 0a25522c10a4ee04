import ServiceTunnel.Proofs.Drift

/-!
# ServiceTunnel.Proofs.Provisioned

**A tunnel that is reported exists.** Setting up that succeeds has made six calls and no others,
each with success (`Lifecycle.runs_provision_ok`), so what is there afterwards can be told from the
answers: the application, a machine that runs in it, an address of it, and the client that connects
to this address. Everything else is as it was, whatever was there before (`provision_stands`).
-/

namespace ServiceTunnel

open Kube Simulation Program

/-! ### Steps that succeed -/

namespace SagaM

variable {I : Interface} {α β σ : Type} {answers : σ → (c : I.Call) → I.Reply c → σ → Prop}
  {s t : σ} {events : List I.Event}

/-- If steps succeed to the end, so does the first of them. -/
theorem runs_step_ok {label : String} {action : Program I (Except OperatorError α)}
    {f : α → SagaM I β} {g : Saga I} {r : Except OperatorError β × Saga I} {b : β}
    (h : ((step label action >>= f : SagaM I β) g).Runs answers s events r t)
    (hok : r.1 = .ok b) :
    ∃ first rest a m, events = first ++ rest ∧ action.Runs answers s first (.ok a) m ∧
      (f a g).Runs answers m rest r t := by
  have hsteps : ((step label action g).bind fun p =>
      (ExceptT.bindCont f p.1) p.2).Runs answers s events r t := h
  obtain ⟨first, rest, p, m, rfl, hfirst, hrest⟩ := runs_bind.mp hsteps
  obtain ⟨first, undoing, outcome, n, rfl, haction, houtcome⟩ := runs_bind.mp hfirst
  cases outcome with
  | ok a =>
      obtain ⟨rfl, rfl, rfl⟩ := runs_done.mp houtcome
      exact ⟨first, rest, a, m, by rw [List.append_nil], haction, hrest⟩
  | error e =>
      obtain ⟨undone, last, u, k, rfl, -, hlast⟩ := runs_bind.mp houtcome
      obtain ⟨-, rfl, -⟩ := runs_done.mp hlast
      obtain ⟨-, rfl, -⟩ := runs_done.mp hrest
      cases hok

end SagaM

namespace Lifecycle

variable {σ : Type} {answers : σ → (c : Call) → c.Reply → σ → Prop} {s t : σ}
  {events : List Call.interface.Event} {config : TunnelConfig} {service : Service}

theorem runs_waitStarted_ok {app : String} {machine : Machine}
    (h : (waitStarted app machine).Runs answers s events (.ok ()) t) :
    let wait : ProviderCall :=
      .waitForMachine app machine.id machine.instanceId startedState startSeconds
    events = [⟨.providerWithin startLimit wait, some (.ok ())⟩] ∧
      answers s (.providerWithin startLimit wait) (some (.ok ())) t := by
  obtain ⟨r, m, rest, rfl, hanswers, hrest⟩ := runs_call.mp h
  match r with
  | some (.ok ()) =>
      obtain ⟨rfl, -, rfl⟩ := runs_done.mp hrest
      exact ⟨rfl, hanswers⟩
  | some (.error e) =>
      obtain ⟨-, hr, -⟩ := runs_done.mp hrest
      cases hr
  | none =>
      obtain ⟨-, hr, -⟩ := runs_done.mp hrest
      cases hr

/-- Setting up that succeeds has made six calls, each with success: for the application, a machine,
its start, an address, and the two objects of the client. -/
theorem runs_provision_ok {tunnel : Tunnel}
    (h : (provision config service).Runs answers s events (.ok tunnel) t) :
    let app := Name.ofService .app service
    let name := Name.ofService .deployment service
    ∃ (requirements : Requirements) (machine : Machine) (ip : IpAddress) (s₁ s₂ s₃ s₄ s₅ : σ),
      let load := workload config service name ip.address requirements
      let wait : ProviderCall :=
        .waitForMachine app machine.id machine.instanceId startedState startSeconds
      Lifecycle.requirements service = .ok requirements ∧
      tunnel = tunnelOf app name machine ip ∧
      events = [
        ⟨.provider (.ensureApp app config.flyOrg), (.ok () : Except ProviderError Unit)⟩,
        ⟨.provider (.createMachine app (.ofService service config)),
          (.ok machine : Except ProviderError Machine)⟩,
        ⟨.providerWithin startLimit wait, some (.ok ())⟩,
        ⟨.provider (.allocateIp app), (.ok ip : Except ProviderError IpAddress)⟩,
        ⟨.workload (.applyConfigMap load.configMap), (.ok () : Except OperatorError Unit)⟩,
        ⟨.workload (.applyDeployment load.deployment), (.ok () : Except OperatorError Unit)⟩] ∧
      answers s (.provider (.ensureApp app config.flyOrg)) (.ok ()) s₁ ∧
      answers s₁ (.provider (.createMachine app (.ofService service config))) (.ok machine) s₂ ∧
      answers s₂ (.providerWithin startLimit wait) (some (.ok ())) s₃ ∧
      answers s₃ (.provider (.allocateIp app)) (.ok ip) s₄ ∧
      answers s₄ (.workload (.applyConfigMap load.configMap)) (.ok ()) s₅ ∧
      answers s₅ (.workload (.applyDeployment load.deployment)) (.ok ()) t := by
  intro app name
  unfold provision at h
  split at h
  · obtain ⟨-, hr, -⟩ := runs_done.mp h
    cases hr
  rename_i requirements hrequirements
  obtain ⟨events, last, r, m, rfl, hsteps, hlast⟩ := runs_bind.mp h
  obtain ⟨rfl, hr, rfl⟩ := runs_done.mp hlast
  obtain ⟨_, later, _, s₁, rfl, hensure, hsteps⟩ := SagaM.runs_step_ok hsteps hr.symm
  obtain ⟨_, later, machine, s₂, rfl, hcreate, hsteps⟩ := SagaM.runs_step_ok hsteps hr.symm
  obtain ⟨_, later, _, s₃, rfl, hwait, hsteps⟩ := SagaM.runs_step_ok hsteps hr.symm
  obtain ⟨_, later, ip, s₄, rfl, hallocate, hsteps⟩ := SagaM.runs_step_ok hsteps hr.symm
  obtain ⟨_, later, _, s₅, rfl, happly, hsteps⟩ := SagaM.runs_step_ok hsteps hr.symm
  obtain ⟨rfl, rfl, rfl⟩ := runs_done.mp hsteps
  obtain ⟨rfl, hensured⟩ := Operation.runs_provider_ok hensure
  obtain ⟨rfl, hcreated⟩ := Operation.runs_provider_ok hcreate
  obtain ⟨rfl, hstarted⟩ := runs_waitStarted_ok hwait
  obtain ⟨rfl, hallocated⟩ := Operation.runs_provider_ok hallocate
  obtain ⟨m, rfl, hmap, hdeployment⟩ := runs_applyWorkload_ok happly
  exact ⟨requirements, machine, ip, s₁, s₂, s₃, s₄, m, hrequirements, Except.ok.inj hr, rfl,
    hensured, hcreated, hstarted, hallocated, hmap, hdeployment⟩

end Lifecycle

/-! ### What stands in the end -/

/-- What there is once an application, a machine that has come into a state, and an address have
been added. -/
def Estate.raised (e : Estate) (app state : String) (machine : Machine) (ip : IpAddress) : Estate :=
  ({ e with apps := insert app e.apps }.setMachine machine.id
    (.held app { machine with state := state })).setIp ip.id (.held app ip)

/-- An application, a machine, its start and an address, one after another, come to what is added;
and the identifiers that are given out are new. -/
theorem Estate.eq_raised {e e₁ e₂ e₃ e₄ : Estate} {app org inst state : String} {seconds : Nat}
    {input : MachineInput} {machine : Machine} {ip : IpAddress}
    (hensure : e.Carries (.ensureApp app org) () e₁)
    (hcreate : e₁.Carries (.createMachine app input) machine e₂)
    (hwait : e₂.Carries (.waitForMachine app machine.id inst state seconds) () e₃)
    (hallocate : e₃.Carries (.allocateIp app) ip e₄) :
    e₄ = e.raised app state machine ip ∧ MadeAs machine input ∧
      e.machines machine.id = .unissued ∧ e.ips ip.id = .unissued := by
  cases hensure
  obtain ⟨-, hnewMachine, hmade, rfl⟩ := hcreate
  obtain ⟨owner, m, hheld, rfl⟩ := hwait
  obtain ⟨-, hnewIp, rfl⟩ := hallocate
  -- the wait found the machine that was just made
  rw [machines_setMachine_self] at hheld
  cases hheld
  refine ⟨?_, hmade, hnewMachine, hnewIp⟩
  rw [raised, setMachine, setMachine, Function.update_idem]
  rfl

/-- Writing a client in two steps that succeed stores both of its objects, and changes nothing
else. -/
theorem Lifecycle.realm_of_applied {w w₁ w₂ : Realm} {load : Workload}
    (hmap : w.Answers (.workload (.applyConfigMap load.configMap)) (.ok ()) w₁)
    (hdeployment : w₁.Answers (.workload (.applyDeployment load.deployment)) (.ok ()) w₂) :
    w₂.estate = w.estate ∧ w₂.cluster = { w.cluster with
      configMaps := w.cluster.configMaps.insert load.configMap.metadata.key load.configMap
      deployments :=
        w.cluster.deployments.insert load.deployment.metadata.key load.deployment } := by
  refine ⟨hdeployment.1.trans hmap.1, ?_⟩
  rw [hdeployment.cluster_of_ok, hmap.cluster_of_ok]
  rfl

/-- A tunnel stands as it is told of, and but for it everything is as it was. -/
structure Tunnel.Stands (tunnel : Tunnel) (config : TunnelConfig) (service : Service)
    (before after : Realm) : Prop where
  appName : tunnel.appName = Name.ofService .app service
  deploymentName : tunnel.deploymentName = Name.ofService .deployment service
  apps : after.estate.apps = insert tunnel.appName before.estate.apps
  machine : ∃ m, after.estate.machineOf? tunnel.appName tunnel.machineId = some m ∧
    m.state = "started" ∧ m.name = Name.ofService .machine service ∧
      m.Follows (.ofService service config)
  ip : ∃ ip, after.estate.ipOf? tunnel.appName tunnel.ipId = some ip ∧
    ip.address = tunnel.publicIp
  /-- The client is stored under its names, with the address of the tunnel in it. -/
  client : ∃ requirements, Requirements.resolve service.annotations = .ok requirements ∧
    let load := Workload.build service {
      deploymentName := tunnel.deploymentName
      ns := config.operatorNamespace
      image := config.frpcImage
      serverAddr := tunnel.publicIp
      requirements }
    after.cluster.configMaps = before.cluster.configMaps.insert
        ⟨config.operatorNamespace, Workload.configMapName tunnel.deploymentName⟩ load.configMap ∧
      after.cluster.deployments = before.cluster.deployments.insert
        ⟨config.operatorNamespace, tunnel.deploymentName⟩ load.deployment
  newMachine : before.estate.machines tunnel.machineId = .unissued
  newIp : before.estate.ips tunnel.ipId = .unissued
  otherMachines : ∀ id, id ≠ tunnel.machineId →
    after.estate.machines id = before.estate.machines id
  otherIps : ∀ id, id ≠ tunnel.ipId → after.estate.ips id = before.estate.ips id
  services : after.cluster.services = before.cluster.services

namespace Call

/-- A call that deletes or releases something. -/
def Removes : Call → Prop
  | .provider c | .providerWithin _ c =>
    match c with
    | .deleteApp _ | .deleteMachine _ _ | .releaseIp _ _ => True
    | _ => False
  | .workload (.deleteDeployment _ _) | .workload (.deleteConfigMap _ _) => True
  | _ => False

end Call

theorem Lifecycle.resolve_of_requirements {service : Service} {requirements : Requirements}
    (h : Lifecycle.requirements service = .ok requirements) :
    Requirements.resolve service.annotations = .ok requirements := by
  unfold Lifecycle.requirements at h
  cases hresolve : Requirements.resolve service.annotations with
  | ok found =>
      rw [hresolve] at h
      exact congrArg Except.ok (Except.ok.inj h)
  | error bad =>
      rw [hresolve] at h
      cases h

/-- **A tunnel that is reported exists, and nothing else has changed.** Setting up ends with a
tunnel, whatever was there before and whatever calls may fail. Then its application is the one that
is derived for the Service, and exists. Its machine runs in it under the derived name, where the
Service asks for it and configured as the Service asks. Its address is one of the application's.
The client is stored under the derived names, made for the Service and this address with the
requirements of the Service. Nothing was deleted or released on the way, and every other
application, machine, address and object is as it was. -/
theorem provision_stands {config : TunnelConfig} {service : Service} {tunnel : Tunnel}
    {w w' : Realm} {events : List Call.interface.Event}
    (hrun : (Lifecycle.provision config service).Runs Realm.Answers w events (.ok tunnel) w') :
    tunnel.Stands config service w w' ∧ ∀ event ∈ events, ¬ Call.Removes event.call := by
  obtain ⟨requirements, machine, ip, w₁, w₂, w₃, w₄, w₅, hrequirements, rfl, rfl, hensure, hcreate,
    hwait, hallocate, hmap, hdeployment⟩ := Lifecycle.runs_provision_ok hrun
  let app := Name.ofService .app service
  have hensured : w.estate.Carries (.ensureApp app config.flyOrg) () w₁.estate := hensure.1
  have hcreated : w₁.estate.Carries (.createMachine app (.ofService service config)) machine
      w₂.estate := hcreate.1
  have hstarted : w₂.estate.Carries (.waitForMachine app machine.id machine.instanceId
      Lifecycle.startedState Lifecycle.startSeconds) () w₃.estate := hwait.1
  have hallocated : w₃.estate.Carries (.allocateIp app) ip w₄.estate := hallocate.1
  obtain ⟨hraised, ⟨hname, hregion, hconfig⟩, hnewMachine, hnewIp⟩ :=
    Estate.eq_raised hensured hcreated hstarted hallocated
  obtain ⟨hsame, happlied⟩ := Lifecycle.realm_of_applied hmap hdeployment
  have hestate := hsame.trans hraised
  have hcluster : w₄.cluster = w.cluster :=
    hallocate.2.trans (hwait.2.trans (hcreate.2.trans hensure.2))
  rw [hcluster] at happlied
  have hmachine : w'.estate.machines machine.id =
      .held app { machine with state := Lifecycle.startedState } := by
    rw [hestate]
    exact Estate.machines_setMachine_self _ _ _
  have hip : w'.estate.ips ip.id = .held app ip := by
    rw [hestate]
    exact Estate.ips_setIp_self _ _ _
  refine ⟨?_, by simp [Call.Removes]⟩
  exact {
    appName := rfl
    deploymentName := rfl
    apps := by rw [hestate]; rfl
    machine := ⟨_, Slot.of?_eq_some.mpr hmachine, rfl, hname, hregion, hconfig⟩
    ip := ⟨ip, Slot.of?_eq_some.mpr hip, rfl⟩
    client := by
      refine ⟨requirements, Lifecycle.resolve_of_requirements hrequirements, ?_, ?_⟩
      · rw [happlied]; rfl
      · rw [happlied]; rfl
    newMachine := hnewMachine
    newIp := hnewIp
    otherMachines := fun id hid => by rw [hestate]; exact Estate.machines_setMachine_ne _ hid _
    otherIps := fun id hid => by rw [hestate]; exact Estate.ips_setIp_ne _ hid _
    services := by rw [happlied] }

/-- A tunnel is set up where one already stands: application and client are found, machine and
address are new, and those of the first tunnel are left. -/
theorem provision_stands_again :
    let setUp := Lifecycle.provision sampleConfig (sampleService "web")
    let left := ((World.sample ["web"]).run setUp).2
    let tunnel : Tunnel :=
      ⟨"fly-tunnel-default-web", "m3", "137.66.0.4", "ip4", "frpc-default-web"⟩
    ∃ w w', "fly-tunnel-default-web" ∈ w.estate.apps ∧
      setUp.Runs Realm.Answers w (left.events setUp) (.ok tunnel) w' ∧
      tunnel.Stands sampleConfig (sampleService "web") w w' ∧
      w'.estate.machines "m1" = w.estate.machines "m1" := by
  intro setUp left tunnel
  have hstands : left.cloud.apps.contains "fly-tunnel-default-web" = true := by decide +kernel
  have hresult : (left.run setUp).1 = .ok tunnel := by decide +kernel
  obtain ⟨w, -, hdepicts, hfree⟩ :=
    World.runs_of_result (v := World.sample ["web"]) (Scene.depicts_untouched _) rfl setUp rfl
  obtain ⟨w', hrun, -, -⟩ := World.runs_of_result hdepicts hfree setUp hresult
  obtain ⟨hfound, -⟩ := provision_stands hrun
  exact ⟨w, w', (hdepicts.1.apps _).mpr hstands, hrun, hfound,
    hfound.otherMachines "m1" (by decide)⟩

end ServiceTunnel
