import ServiceTunnel.Proofs.Derived
import ServiceTunnel.Proofs.Site
import ServiceTunnel.Proofs.Storage

/-!
# ServiceTunnel.Proofs.Standing

**What undisturbed work leaves, and what it leaves alone.** When nothing fails, keeping in step
leaves a tunnel in step with its Service, and a tunnel in step is left as it is; taking down leaves
nothing, and where nothing is left there is nothing to take down. Setting up leaves everything that
keeping in step asks for.

A tunnel that is in step is so for every Service that is `Alike`: what is set up for the bare
Service is what is asked for when the Service has its record.
-/

namespace ServiceTunnel

open Kube Simulation

namespace Simulation

/-! ### What stands -/

/-- The objects of a client are stored as they are asked for. -/
def Cluster.Runs (c : Cluster) (w : Workload) : Prop :=
  c.configMaps.get? w.configMap.metadata.key = some w.configMap ∧
    c.deployments.get? w.deployment.metadata.key = some w.deployment

/-- The machine `id` of an application, if it is there, is as it is asked for. -/
def Cloud.Fits (c : Cloud) (app id : String) (input : MachineInput) : Prop :=
  ∀ m, c.machineOf? app id = some m → input.matchesMachine m = true

namespace Cloud

/-- A machine is as it was asked for when it is made. -/
theorem matches_newMachine (n : Nat) (input : MachineInput) :
    input.matchesMachine (newMachine n input) = true := by
  simp only [MachineInput.matchesMachine, newMachine, beq_self_eq_true, Bool.and_self]

theorem id_newMachine_ne_empty (n : Nat) (input : MachineInput) :
    (newMachine n input).id ≠ "" := by
  simp [newMachine]

theorem id_newIp_ne_empty (n : Nat) : (newIp n).id ≠ "" := by
  simp [newIp]

theorem address_newIp_ne_empty (n : Nat) : (newIp n).address ≠ "" := by
  simp [newIp]

end Cloud

end Simulation

/-- The tunnel that is recorded on a Service is as the Service asks, as far as it can be brought in
step. -/
def Kube.Service.InStep (service : Service) (config : TunnelConfig) (s : Site) : Prop :=
  ∀ address name app requirements,
    (TunnelRecord.ofService service).publicIp = some address →
    (TunnelRecord.ofService service).frpcDeployment = some name →
    (TunnelRecord.ofService service).flyApp = some app →
    Lifecycle.requirements service = .ok requirements →
    s.cluster.Runs (Lifecycle.workload config service name address requirements) ∧
      ∀ id, (TunnelRecord.ofService service).machineId = some id →
        s.cloud.Fits app id (.ofService service config)

theorem Kube.Service.InStep.congr {a b : Service} {config : TunnelConfig} {s : Site}
    (h : a.InStep config s) (halike : a.Alike b)
    (hrecord : TunnelRecord.ofService a = TunnelRecord.ofService b) : b.InStep config s := by
  intro address name app requirements haddress hname happ hrequirements
  rw [← hrecord] at haddress hname happ ⊢
  rw [← halike.requirements] at hrequirements
  rw [← halike.workload, ← halike.input]
  exact h address name app requirements haddress hname happ hrequirements

namespace Kube.Service

/-- The application that goes with the tunnel of a Service: the recorded one, if there is one. -/
def appName (service : Service) : String :=
  (TunnelRecord.ofService service).flyApp.getD (Name.ofService .app service)

/-- The Deployment that goes with the tunnel of a Service: the recorded one, if there is one. -/
def deploymentName (service : Service) : String :=
  (TunnelRecord.ofService service).frpcDeployment.getD (Name.ofService .deployment service)

/-- Nothing is left of the tunnel that is recorded on a Service, or would be made for it. -/
structure Cleared (service : Service) (config : TunnelConfig) (s : Site) : Prop where
  deployment : s.cluster.deployments.get?
    ⟨config.operatorNamespace, service.deploymentName⟩ = none
  configMap : s.cluster.configMaps.get?
    ⟨config.operatorNamespace, Workload.configMapName service.deploymentName⟩ = none
  address : ∀ id, (TunnelRecord.ofService service).ipId = some id → s.cloud.ips.get? id = none
  machine : ∀ id, (TunnelRecord.ofService service).machineId = some id →
    s.cloud.machines.get? id = none
  founded : s.cloud.apps.get? service.appName = none
  machines : ∀ id m, s.cloud.machines.get? id = some m → m.1 ≠ service.appName
  ips : ∀ id ip, s.cloud.ips.get? id = some ip → ip.1 ≠ service.appName

theorem Cleared.congr {a b : Service} {config : TunnelConfig} {s s' : Site}
    (h : a.Cleared config s) (halike : a.Alike b)
    (hrecord : TunnelRecord.ofService a = TunnelRecord.ofService b) (hcloud : s'.cloud = s.cloud)
    (hdeployments : s'.cluster.deployments = s.cluster.deployments)
    (hmaps : s'.cluster.configMaps = s.cluster.configMaps) : b.Cleared config s' := by
  have happ : a.appName = b.appName := by
    rw [appName, appName, hrecord, halike.ofService]
  have hname : a.deploymentName = b.deploymentName := by
    rw [deploymentName, deploymentName, hrecord, halike.ofService]
  obtain ⟨hdeployment, hmap, haddress, hmachine, hfounded, hmachines, hips⟩ := h
  rw [← hdeployments, hname] at hdeployment
  rw [← hmaps, hname] at hmap
  rw [← hcloud, hrecord] at haddress hmachine
  rw [← hcloud, happ] at hfounded hmachines hips
  exact ⟨hdeployment, hmap, haddress, hmachine, hfounded, hmachines, hips⟩

end Kube.Service

namespace Lifecycle

open Program Operation

variable {config : TunnelConfig} {service : Service} {s : Site}

/-! ### Keeping in step -/

theorem applyWorkload_runs (w : Workload) (s : Site) :
    (applyWorkload w).Keeps (Site.Running World.Patient)
      (fun r s' => r = .ok () ∧ s'.cloud = s.cloud ∧ s'.cluster.services = s.cluster.services ∧
        s'.cluster.Runs w) s := by
  rw [applyWorkload, keeps_bind, Site.keeps_workload]
  refine ⟨trivial, ?_⟩
  rw [Site.keeps_workload]
  exact ⟨trivial, rfl, rfl, rfl, Dict.get?_insert_self _ _ _, Dict.get?_insert_self _ _ _⟩

theorem updateMachine_fits (app id : String) (s : Site) :
    (updateMachine config service app id).Keeps (Site.Running World.Patient)
      (fun _ s' => s'.cluster = s.cluster ∧ s'.cloud.Fits app id (.ofService service config))
      s := by
  rw [updateMachine, keeps_bind, Site.keeps_provider]
  refine ⟨trivial, ?_⟩
  cases hm : s.cloud.machineOf? app id with
  | none =>
      simp only [Cloud.perform, hm, Except.mapError, keeps_done]
      refine ⟨trivial, fun m hfound => ?_⟩
      rw [hm] at hfound
      cases hfound
  | some m =>
      simp only [Cloud.perform, hm, Except.mapError]
      split
      · rename_i hmatches
        refine ⟨rfl, fun m' hfound => ?_⟩
        rw [hm, Option.some.injEq] at hfound
        rw [← hfound]
        exact hmatches
      · rw [keeps_bind, Site.keeps_provider]
        refine ⟨trivial, ?_⟩
        simp only [Cloud.perform, hm, Except.mapError, keeps_done]
        refine ⟨trivial, fun m' hfound => ?_⟩
        rw [Cloud.machineOf?_insert, Option.some.injEq] at hfound
        rw [← hfound]
        simp only [MachineInput.matchesMachine, beq_self_eq_true, Bool.and_self]

theorem update_inStep (s : Site) :
    (update config service).Keeps (Site.Running World.Patient)
      (fun _ s' => s'.cluster.services = s.cluster.services ∧ service.InStep config s') s := by
  unfold update
  dsimp only
  split
  · rename_i address name app haddress hname happ
    split
    · rename_i e he
      refine ⟨rfl, fun _ _ _ _ _ _ _ hok => ?_⟩
      rw [he] at hok
      cases hok
    rename_i requirements hrequirements
    -- the record and the requirements leave only the client and the machine open
    have hclaim : ∀ s' : Site,
        s'.cluster.Runs (workload config service name address requirements) →
        (∀ id, (TunnelRecord.ofService service).machineId = some id →
          s'.cloud.Fits app id (.ofService service config)) → service.InStep config s' := by
      intro s' hruns hfits address' name' app' requirements' haddress' hname' happ' hok
      rw [haddress, Option.some.injEq] at haddress'
      rw [hname, Option.some.injEq] at hname'
      rw [happ, Option.some.injEq] at happ'
      rw [hrequirements, Except.ok.injEq] at hok
      subst haddress' hname' happ' hok
      exact ⟨hruns, hfits⟩
    refine (applyWorkload_runs _ s).bind fun r s' hr => ?_
    obtain ⟨rfl, -, hservices, hruns⟩ := hr
    dsimp only
    split
    · rename_i hnone
      refine ⟨hservices, hclaim s' hruns fun id hid => ?_⟩
      rw [hnone] at hid
      cases hid
    · rename_i id hid
      refine (updateMachine_fits app id s').imp fun _ s'' h => ?_
      obtain ⟨hcluster, hfits⟩ := h
      rw [hcluster]
      refine ⟨hservices, hclaim s'' (hcluster ▸ hruns) fun id' hid' => ?_⟩
      rw [hid, Option.some.injEq] at hid'
      exact hid' ▸ hfits
  · rename_i hmissing
    refine ⟨rfl, fun address name app _ haddress hname happ _ => ?_⟩
    exact absurd happ (hmissing address name app haddress hname)

/-! A tunnel in step is left as it is. -/

theorem applyWorkload_rests {w : Workload} (h : s.cluster.Runs w) :
    (applyWorkload w).Keeps (Site.Running World.Quiet) (fun r s' => r = .ok () ∧ s' = s) s := by
  obtain ⟨hmap, hdeployment⟩ := h
  have hmaps : s.cluster.performWorkload (.applyConfigMap w.configMap) = s.cluster :=
    congrArg (fun maps => { s.cluster with configMaps := maps }) (Dict.insert_of_get? hmap)
  have hdeployments : s.cluster.performWorkload (.applyDeployment w.deployment) = s.cluster :=
    congrArg (fun all => { s.cluster with deployments := all }) (Dict.insert_of_get? hdeployment)
  rw [applyWorkload, keeps_bind, Site.keeps_workload]
  refine ⟨trivial, ?_⟩
  rw [Site.keeps_workload, hmaps, hdeployments]
  exact ⟨trivial, rfl, rfl⟩

theorem updateMachine_rests {app id : String}
    (h : s.cloud.Fits app id (.ofService service config)) :
    (updateMachine config service app id).Keeps (Site.Running World.Quiet)
      (fun _ s' => s' = s) s := by
  rw [updateMachine, keeps_bind, Site.keeps_provider]
  refine ⟨trivial, ?_⟩
  cases hm : s.cloud.machineOf? app id with
  | none => simp only [Cloud.perform, hm, Except.mapError, keeps_done]
  | some m =>
      simp only [Cloud.perform, hm, Except.mapError]
      rw [if_pos (h m hm)]
      exact rfl

theorem update_rests (h : service.InStep config s) :
    (update config service).Keeps (Site.Running World.Quiet) (fun _ s' => s' = s) s := by
  unfold update
  dsimp only
  split
  · rename_i address name app haddress hname happ
    split
    · exact rfl
    rename_i requirements hrequirements
    obtain ⟨hruns, hfits⟩ := h address name app requirements haddress hname happ hrequirements
    refine (applyWorkload_rests hruns).bind fun r s' hr => ?_
    obtain ⟨rfl, rfl⟩ := hr
    dsimp only
    split
    · exact rfl
    · rename_i id hid
      exact updateMachine_rests (hfits id hid)
  · exact rfl

/-! ### Taking down -/

theorem releaseAll_keeps {app : String} (ips : List IpAddress) (s : Site) :
    (releaseAll app ips).Keeps (Site.Running World.Patient)
      (fun _ s' => s'.cluster = s.cluster) s := by
  have hstable : (releaseAll app ips).Stable (Site.Running World.Patient)
      (fun s' => s'.cluster = s.cluster) := by
    refine stable_releaseAll fun ip _ s' hs' => ⟨trivial, fun r s'' hr => ?_⟩
    have hs'' : { s' with cloud := _ } = s'' := congrArg Prod.snd hr
    rw [← hs'']
    exact hs'
  exact hstable s rfl

theorem releaseAddresses_clears (app : String) (s : Site) :
    (releaseAddresses app (TunnelRecord.ofService service).ipId).Keeps
      (Site.Running World.Patient) (fun _ s' => s'.cluster = s.cluster ∧
        ∀ id, (TunnelRecord.ofService service).ipId = some id → s'.cloud.ips.get? id = none) s := by
  unfold releaseAddresses
  split
  · rename_i id hid
    rw [keeps_attempt, Site.keeps_provider, hid]
    refine ⟨trivial, rfl, fun id' hid' => ?_⟩
    cases hid'
    exact Dict.get?_erase_self _ _
  · rename_i hnone
    rw [keeps_bind, Site.keeps_provider]
    refine ⟨trivial, ?_⟩
    have hcloud : (s.cloud.perform (.listIps app)).2 = s.cloud := by
      rw [Cloud.perform]
      split <;> rfl
    rw [hcloud, hnone]
    cases (s.cloud.perform (.listIps app)).1 with
    | error e => exact ⟨rfl, nofun⟩
    | ok ips => exact (releaseAll_keeps ips s).imp fun _ s' h => ⟨h, nofun⟩

theorem deleteMachine_clears (app : String) (s : Site) :
    (deleteMachine app (TunnelRecord.ofService service).machineId).Keeps
      (Site.Running World.Patient) (fun _ s' => s'.cluster = s.cluster ∧
        s'.cloud.ips = s.cloud.ips ∧
        ∀ id, (TunnelRecord.ofService service).machineId = some id →
          s'.cloud.machines.get? id = none) s := by
  unfold deleteMachine
  split
  · rename_i id hid
    rw [keeps_attempt, Site.keeps_provider, hid]
    refine ⟨trivial, rfl, rfl, fun id' hid' => ?_⟩
    cases hid'
    exact Dict.get?_erase_self _ _
  · rename_i hnone
    rw [hnone]
    exact ⟨rfl, rfl, nofun⟩

theorem teardown_clears (s : Site) :
    (teardown config service).Keeps (Site.Running World.Patient)
      (fun _ s' => s'.cluster.services = s.cluster.services ∧ service.Cleared config s') s := by
  unfold teardown
  rw [keeps_bind, keeps_attempt, Site.keeps_workload]
  refine ⟨trivial, ?_⟩
  rw [keeps_bind, keeps_attempt, Site.keeps_workload]
  refine ⟨trivial, ?_⟩
  refine (releaseAddresses_clears _ _).bind fun _ s₁ h₁ => ?_
  refine (deleteMachine_clears _ s₁).bind fun _ s₂ h₂ => ?_
  obtain ⟨hcluster₁, haddress⟩ := h₁
  obtain ⟨hcluster₂, hips, hmachine⟩ := h₂
  rw [keeps_attempt, Site.keeps_provider]
  refine ⟨trivial, ?_⟩
  have hcluster := hcluster₂.trans hcluster₁
  -- deleting the application keeps what belongs to others, so what is gone stays gone
  have hgone : ∀ {β : Type} {m : Dict String (String × β)} {id : String},
      m.get? id = none → (m.filter fun _ b => b.1 != service.appName).get? id = none := by
    intro β m id h
    rw [Dict.get?_filter, h, Option.filter_none]
  have howned : ∀ {β : Type} {m : Dict String (String × β)} {id : String} {b : String × β},
      (m.filter fun _ b => b.1 != service.appName).get? id = some b → b.1 ≠ service.appName := by
    intro β m id b h
    rw [Dict.get?_filter] at h
    exact bne_iff_ne.mp (Option.filter_eq_some_iff.mp h).2
  refine ⟨?_, ?_, ?_, fun id hid => ?_, fun id hid => ?_, ?_, fun id m => ?_, fun id ip => ?_⟩
  · show s₂.cluster.services = s.cluster.services
    rw [hcluster]
    rfl
  · show s₂.cluster.deployments.get? _ = none
    rw [hcluster]
    exact Dict.get?_erase_self _ _
  · show s₂.cluster.configMaps.get? _ = none
    rw [hcluster]
    exact Dict.get?_erase_self _ _
  · exact hgone (hips ▸ haddress id hid)
  · exact hgone (hmachine id hid)
  · exact Dict.get?_erase_self _ _
  · exact howned
  · exact howned

/-! Taking down once more finds nothing to do. -/

/-- A call that leaves the site as it is can be made any number of times. -/
theorem allows_same {c : Call} (hquiet : World.Quiet c) (hsame : (Site.perform c s).2 = s) :
    (Site.Running World.Quiet).Allows (· = s) c := by
  intro s₀ hs
  subst hs
  refine ⟨hquiet, fun r s' hr => ?_⟩
  have hs' : (Site.perform c _).2 = s' := congrArg Prod.snd hr
  exact hs'.symm.trans hsame

theorem teardown_rests (h : service.Cleared config s) :
    (teardown config service).Keeps (Site.Running World.Quiet) (fun _ s' => s' = s) s := by
  have hfilter : ∀ {β : Type} {m : Dict String (String × β)},
      (∀ id b, m.get? id = some b → b.1 ≠ service.appName) →
      (m.filter fun _ b => b.1 != service.appName) = m := by
    intro β m hm
    exact Dict.filter_of_get? fun id b hb => bne_iff_ne.mpr (hm id b hb)
  have hdeployment : (Site.Running World.Quiet).Allows (· = s)
      (.workload (.deleteDeployment config.operatorNamespace service.deploymentName)) := by
    refine allows_same trivial ?_
    exact congrArg (fun all => { s with cluster := { s.cluster with deployments := all } })
      (Dict.erase_of_get? h.deployment)
  have hmap : (Site.Running World.Quiet).Allows (· = s) (.workload
      (.deleteConfigMap config.operatorNamespace
        (Workload.configMapName service.deploymentName))) := by
    refine allows_same trivial ?_
    exact congrArg (fun all => { s with cluster := { s.cluster with configMaps := all } })
      (Dict.erase_of_get? h.configMap)
  have hlist : s.cloud.perform (.listIps service.appName) = (.error Cloud.noApp, s.cloud) := by
    simp only [Cloud.perform, Dict.contains, h.founded, Option.isSome_none, Bool.false_eq_true,
      if_false]
  have hdelete : s.cloud.perform (.deleteApp service.appName) = (.ok (), s.cloud) := by
    rw [Cloud.perform, Dict.erase_of_get? h.founded, hfilter h.machines, hfilter h.ips]
  refine keeps_teardown rfl rfl hdeployment hmap ?_ ?_ ?_ rfl
  · unfold releaseAddresses
    split
    · rename_i id hid
      refine stable_attempt (stable_provider (allows_same ?_ ?_))
      · exact trivial
      · exact congrArg (fun ips => { s with cloud := { s.cloud with ips := ips } })
          (Dict.erase_of_get? (h.address id hid))
    · -- there is no application to list the addresses of, so the look-up fails
      intro s' hs'
      subst hs'
      show ((provider (.listIps service.appName)).bind _).Keeps _ _ _
      rw [keeps_bind, Site.keeps_provider, hlist]
      exact ⟨trivial, rfl⟩
  · refine stable_deleteMachine fun id hid => allows_same trivial ?_
    exact congrArg (fun all => { s with cloud := { s.cloud with machines := all } })
      (Dict.erase_of_get? (h.machine id hid))
  · refine fun s' hs' => stable_attempt (stable_provider (allows_same ?_ ?_)) s' hs'
    · exact trivial
    · exact congrArg (fun r => { s with cloud := r.2 }) hdelete

/-! ### Setting up -/

/-- The machine stands in the application, as it is asked for. -/
structure Hosts (c : Cloud) (app : String) (machine : Machine) (input : MachineInput) : Prop where
  founded : c.apps.contains app = true
  named : machine.id ≠ ""
  fits : ∃ m, c.machineOf? app machine.id = some m ∧ input.matchesMachine m = true

/-- How setting up goes when nothing fails. -/
def undisturbed (config : TunnelConfig) (service : Service) (app name : String)
    (cluster : Cluster) :
    Progress (Site.Running World.Patient) config service app name where
  before s := s.cluster = cluster
  founded s := s.cluster = cluster ∧ s.cloud.apps.contains app = true
  made machine s := s.cluster = cluster ∧ Hosts s.cloud app machine (.ofService service config)
  allocated machine ip s := s.cluster = cluster ∧
    Hosts s.cloud app machine (.ofService service config) ∧ ip.id ≠ "" ∧ ip.address ≠ ""
  ready machine ip s := s.cluster.services = cluster.services ∧
    Hosts s.cloud app machine (.ofService service config) ∧ ip.id ≠ "" ∧ ip.address ≠ "" ∧
    ∀ requirements, Lifecycle.requirements service = .ok requirements →
      s.cluster.Runs (workload config service name ip.address requirements)
  failed _ _ := False
  founds := by
    refine Site.asks fun s hs => ⟨trivial, (), rfl, hs, ?_⟩
    show ((s.cloud.apps.insert app ()).get? app).isSome = true
    rw [Dict.get?_insert_self]
    rfl
  creates := by
    refine Site.asks fun s hs => ⟨trivial, ?_⟩
    obtain ⟨hcluster, hfounded⟩ := hs
    rw [Cloud.perform, if_pos hfounded]
    have hmatches := Cloud.matches_newMachine (s.cloud.issued + 1) (.ofService service config)
    exact ⟨_, rfl, hcluster, hfounded, Cloud.id_newMachine_ne_empty _ _, _,
      Cloud.machineOf?_insert _ _ _ _, hmatches⟩
  waits machine s hs := by
    obtain ⟨hcluster, hfounded, hnamed, m, hm, hmatches⟩ := hs
    let started : Machine := { m with state := startedState }
    have hwait : s.cloud.perform (.waitForMachine app machine.id machine.instanceId startedState
        startSeconds) = (.ok (), { s.cloud with
          machines := s.cloud.machines.insert machine.id (app, started) }) := by
      rw [Cloud.perform, Cloud.get?_of_machineOf? hm]
    refine ⟨Nat.le_refl _, fun r s' hr => ?_⟩
    cases hr
    rw [hwait]
    exact ⟨hcluster, hfounded, hnamed, _, Cloud.machineOf?_insert _ _ _ _, hmatches⟩
  allocates machine := by
    refine Site.asks fun s hs => ⟨trivial, ?_⟩
    obtain ⟨hcluster, hhosts⟩ := hs
    rw [Cloud.perform, if_pos hhosts.founded]
    exact ⟨_, rfl, hcluster, ⟨hhosts.founded, hhosts.named, hhosts.fits⟩,
      Cloud.id_newIp_ne_empty _, Cloud.address_newIp_ne_empty _⟩
  applies machine ip requirements s hrequirements hs := by
    obtain ⟨hcluster, hhosts, hid, haddress⟩ := hs
    refine (applyWorkload_runs _ s).imp fun r s' h => ?_
    obtain ⟨rfl, hcloud, hservices, hruns⟩ := h
    refine ⟨hcluster ▸ hservices, hcloud ▸ hhosts, hid, haddress, fun requirements' hok => ?_⟩
    rw [hrequirements, Except.ok.injEq] at hok
    exact hok ▸ hruns
  deletesApp _ := nofun
  deletesMachine _ _ _ := nofun
  releasesIp _ _ _ := nofun

end Lifecycle

end ServiceTunnel
