import Mathlib.Data.List.Basic
import ServiceTunnel.Proofs.Meddled
import ServiceTunnel.Proofs.Provisioned
import ServiceTunnel.Proofs.Demolition

/-!
# ServiceTunnel.Proofs.Vanished

**A tunnel whose Service vanished is taken down whole.** A pass that has set a tunnel up looks its
Service up again. If the Service is gone by then, the tunnel is taken down by the record that would
have been written: what is told of the tunnel comes back as it was from the annotations, whatever
the Service had been annotated with. Setting up and taking down then cancel out
(`Demolition.razed_of_provision`), whoever writes Services meanwhile (`vanished_reclaimed`).
-/

namespace ServiceTunnel

open Kube Simulation Program

/-! ### Setting up and taking down again -/

/-- What is added for one application is nothing to the others, if the identifiers are new. -/
theorem Estate.beside_raised {e : Estate} {machine : Machine} {ip : IpAddress}
    (hmachine : e.machines machine.id = .unissued) (hip : e.ips ip.id = .unissued)
    (app state : String) : e.Beside app (e.raised app state machine ip) where
  apps other hne := by
    show other = app ∨ other ∈ e.apps ↔ other ∈ e.apps
    exact or_iff_right hne.symm
  machines other hne := by
    funext id
    by_cases hid : id = machine.id
    · subst hid
      rw [Estate.machineOf?, Estate.machineOf?, hmachine, Slot.of?_unissued]
      show (Slot.of? other (Function.update e.machines machine.id _ machine.id)) = none
      rw [Function.update_self, Slot.of?_held_ne hne]
    · exact congrArg (Slot.of? other) (Estate.machines_setMachine_ne _ hid _)
  ips other hne := by
    funext id
    by_cases hid : id = ip.id
    · subst hid
      rw [Estate.ipOf?, Estate.ipOf?, hip, Slot.of?_unissued]
      show (Slot.of? other (Function.update e.ips ip.id _ ip.id)) = none
      rw [Function.update_self, Slot.of?_held_ne hne]
    · exact congrArg (Slot.of? other) (Estate.ips_setIp_ne _ hid _)

/-- The copy of a Service with the record of a tunnel on it, and nothing else. -/
def Kube.Service.ghost (service : Service) (tunnel : Tunnel) : Service :=
  service.withAnnotations (TunnelRecord.ofTunnel tunnel).toAnnotations

namespace Kube.Service

variable {service : Service} {tunnel : Tunnel}

/-- The record of the tunnel is read back, whatever the Service was annotated with. -/
theorem record_ghost (service : Service) (tunnel : Tunnel) :
    TunnelRecord.ofService (service.ghost tunnel) = (TunnelRecord.ofTunnel tunnel).nonEmpty := by
  rw [← TunnelRecord.ofAnnotations_merge ∅ tunnel, Dict.empty_merge]
  rfl

theorem filter_ofService {kind : Name.Kind} (hkind : kind ≠ .label) (service : Service) :
    (some (Name.ofService kind service)).filter (· != "") = some (Name.ofService kind service) := by
  rw [Option.filter_some, if_pos (bne_iff_ne.mpr (Name.ofService_ne_empty hkind service))]

/-- A tunnel under the names derived for a Service is taken down under these names. -/
theorem appName_ghost (h : tunnel.appName = Name.ofService .app service) :
    (service.ghost tunnel).appName = Name.ofService .app service := by
  have hkind : Name.Kind.app ≠ .label := nofun
  rw [appName, record_ghost, TunnelRecord.nonEmpty, TunnelRecord.ofTunnel, h,
    filter_ofService hkind, Option.getD_some]

theorem deploymentName_ghost (h : tunnel.deploymentName = Name.ofService .deployment service) :
    (service.ghost tunnel).deploymentName = Name.ofService .deployment service := by
  have hkind : Name.Kind.deployment ≠ .label := nofun
  rw [deploymentName, record_ghost, TunnelRecord.nonEmpty, TunnelRecord.ofTunnel, h,
    filter_ofService hkind, Option.getD_some]

end Kube.Service

/-- What the record of a tunnel names is the machine and the address of the tunnel. -/
theorem TunnelRecord.titles_nonEmpty {tunnel : Tunnel} {t : Title}
    (h : t ∈ (ofTunnel tunnel).nonEmpty.titles) :
    t = .machine tunnel.machineId ∨ t = .ip tunnel.ipId := by
  cases t with
  | machine id =>
      change (some tunnel.machineId).filter (· != "") = some id at h
      obtain ⟨hid, -⟩ := Option.filter_eq_some_iff.mp h
      exact Or.inl (congrArg Title.machine (Option.some.inj hid).symm)
  | ip id =>
      change (some tunnel.ipId).filter (· != "") = some id at h
      obtain ⟨hid, -⟩ := Option.filter_eq_some_iff.mp h
      exact Or.inr (congrArg Title.ip (Option.some.inj hid).symm)

namespace Lifecycle

variable {config : TunnelConfig} {service : Service} {tunnel : Tunnel} {w w' : Realm}
  {events : List Call.interface.Event}

/-- What there is once a tunnel is set up: the application, the machine and the address have been
added, and the client is stored. -/
theorem realm_of_provision
    (h : (provision config service).Runs Realm.Answers w events (.ok tunnel) w') :
    ∃ requirements machine ip,
      tunnel = tunnelOf (Name.ofService .app service) (Name.ofService .deployment service) machine
        ip ∧
      w.estate.machines machine.id = .unissued ∧ w.estate.ips ip.id = .unissued ∧
      w'.estate = w.estate.raised (Name.ofService .app service) startedState machine ip ∧
      let load := workload config service (Name.ofService .deployment service) ip.address
        requirements
      w'.cluster = { w.cluster with
        configMaps := w.cluster.configMaps.insert load.configMap.metadata.key load.configMap
        deployments :=
          w.cluster.deployments.insert load.deployment.metadata.key load.deployment } := by
  obtain ⟨requirements, machine, ip, w₁, w₂, w₃, w₄, w₅, -, rfl, -, hensure, hcreate, hwait,
    hallocate, hmap, hdeployment⟩ := runs_provision_ok h
  have hensured : w.estate.Carries (.ensureApp (Name.ofService .app service) config.flyOrg) ()
      w₁.estate := hensure.1
  have hcreated : w₁.estate.Carries (.createMachine (Name.ofService .app service)
      (.ofService service config)) machine w₂.estate := hcreate.1
  have hstarted : w₂.estate.Carries (.waitForMachine (Name.ofService .app service) machine.id
      machine.instanceId startedState startSeconds) () w₃.estate := hwait.1
  have hallocated : w₃.estate.Carries (.allocateIp (Name.ofService .app service)) ip w₄.estate :=
    hallocate.1
  obtain ⟨hraised, -, hnewMachine, hnewIp⟩ :=
    Estate.eq_raised hensured hcreated hstarted hallocated
  obtain ⟨hsame, happlied⟩ := realm_of_applied hmap hdeployment
  have hcluster : w₄.cluster = w.cluster :=
    hallocate.2.trans (hwait.2.trans (hcreate.2.trans hensure.2))
  rw [hcluster] at happlied
  exact ⟨requirements, machine, ip, rfl, hnewMachine, hnewIp, hsame.trans hraised, happlied⟩

end Lifecycle

namespace Demolition

variable {config : TunnelConfig} {service : Service} {w w' : Realm}
  {events : List Call.interface.Event}

/-- Taking down tries every step, whatever the answers are. -/
theorem attempts_of_runs {answers : Realm → (c : Call) → c.Reply → Realm → Prop}
    (h : (Lifecycle.teardown config service).Runs answers w events () w') :
    Attempts config.operatorNamespace service.appName service.deploymentName
      (TunnelRecord.ofService service) events := by
  obtain ⟨rd, rc, ra, _, _, _, _, releases, machine, rfl, -, -, hreleases, hmachine, -⟩ :=
    runs_teardown h
  exact .mk rd rc releases machine ra (releases_of_runs hreleases) (calls_deleteMachine hmachine)

/-- Taking down deletes the objects of the client and all of the application, and nothing else, if
the three deletions succeed and the record names nothing of other applications. -/
theorem realm_of_teardown {e : Estate}
    (hbounded : w.Bounded service.appName e (TunnelRecord.ofService service).titles)
    (hrun : (Lifecycle.teardown config service).Runs Realm.Answers w events () w')
    (hsucceeds : ∀ event ∈ events, refused event = false) :
    ¬ w'.estate.Bears service.appName ∧ e.Beside service.appName w'.estate ∧
      w'.cluster = (w.cluster.performWorkload
        (.deleteDeployment config.operatorNamespace service.deploymentName)).performWorkload
        (.deleteConfigMap config.operatorNamespace
          (Workload.configMapName service.deploymentName)) := by
  obtain ⟨rd, rc, ra, w₁, w₂, w₃, w₄, releases, machine, rfl, hdeployment, hmap, hreleases,
    hmachine, hdelete⟩ := runs_teardown hrun
  simp only [List.forall_mem_append, List.forall_mem_cons] at hsucceeds
  obtain ⟨⟨⟨⟨hrd, hrc, -⟩, -⟩, -⟩, hra, -⟩ := hsucceeds
  obtain rfl : rd = .ok () := eq_ok hrd
  obtain rfl : rc = .ok () := eq_ok hrc
  obtain rfl : ra = .ok () := eq_ok hra
  have hclient := (hbounded.answers hdeployment nofun).answers hmap nofun
  have hreleased := hreleases.keeps_self (stable_releaseAddresses (fun _ hid => hid) w₂
    ⟨hclient, rfl⟩) fun _ _ _ _ _ => id
  have hremoved := hmachine.keeps_self (stable_deleteMachine (fun _ hid => hid) w₃
    hreleased) fun _ _ _ _ _ => id
  obtain ⟨hgone, hbeside⟩ := hremoved.1.deleted hdelete
  refine ⟨hgone, hbeside, ?_⟩
  rw [hdelete.2, hremoved.2, hmap.cluster_of_ok, hdeployment.cluster_of_ok]

/-- **Setting up and taking down cancel out.** A tunnel that has been set up is taken down by its
record. If the deletions of the Deployment, the ConfigMap and the application succeed, then nothing
is left under the names derived for the Service, and everything else is as it was before. -/
theorem razed_of_provision {tunnel : Tunnel} {w₀ : Realm} {made : List Call.interface.Event}
    (hprovision : (Lifecycle.provision config service).Runs Realm.Answers w₀ made (.ok tunnel) w)
    (hteardown : (Lifecycle.teardown config (service.ghost tunnel)).Runs Realm.Answers w events ()
      w') (hsucceeds : ∀ event ∈ events, refused event = false) :
    Razed config.operatorNamespace (Name.ofService .app service)
      (Name.ofService .deployment service) w₀ w' := by
  obtain ⟨requirements, machine, ip, htunnel, hnewMachine, hnewIp, hestate, hcluster⟩ :=
    Lifecycle.realm_of_provision hprovision
  obtain ⟨happ, hname, hmachineId, hipId⟩ : tunnel.appName = Name.ofService .app service ∧
      tunnel.deploymentName = Name.ofService .deployment service ∧ tunnel.machineId = machine.id ∧
      tunnel.ipId = ip.id := by
    rw [htunnel]
    exact ⟨rfl, rfl, rfl, rfl⟩
  have hbounded : w.Bounded (service.ghost tunnel).appName w₀.estate
      (TunnelRecord.ofService (service.ghost tunnel)).titles := by
    rw [Service.appName_ghost happ, Service.record_ghost]
    refine ⟨?_, fun t ht => ?_⟩ <;> rw [hestate]
    · exact Estate.beside_raised hnewMachine hnewIp _ _
    · obtain rfl | rfl := TunnelRecord.titles_nonEmpty ht
      · rw [hmachineId]
        show (Function.update w₀.estate.machines machine.id _ machine.id).Within _
        rw [Function.update_self]
        exact rfl
      · rw [hipId]
        show (Function.update w₀.estate.ips ip.id _ ip.id).Within _
        rw [Function.update_self]
        exact rfl
  obtain ⟨hgone, hbeside, hleft⟩ := realm_of_teardown hbounded hteardown hsucceeds
  rw [Service.appName_ghost happ] at hgone hbeside
  rw [Service.deploymentName_ghost hname, hcluster] at hleft
  exact {
    deployment := by rw [hleft]; exact Dict.get?_erase_self _ _
    configMap := by rw [hleft]; exact Dict.get?_erase_self _ _
    nothing := hgone
    deployments := fun key hkey => by
      rw [hleft]
      exact (Dict.get?_erase_ne _ hkey).trans (Dict.get?_insert_ne _ hkey _)
    configMaps := fun key hkey => by
      rw [hleft]
      exact (Dict.get?_erase_ne _ hkey).trans (Dict.get?_insert_ne _ hkey _)
    services := by rw [hleft]; rfl
    beside := hbeside }

end Demolition

/-! ### Passes that set a tunnel up -/

/-- A call asks the provider to make something. -/
def Call.Makes (c : Call) : Prop := ∃ pc, c.provider? = some pc ∧ pc.Makes

namespace Call

theorem makes_provider {c : ProviderCall} : (Call.provider c).Makes ↔ c.Makes := by
  constructor
  · rintro ⟨pc, hpc, hmakes⟩
    exact Option.some.inj hpc ▸ hmakes
  · exact fun hmakes => ⟨c, rfl, hmakes⟩

theorem not_makes_workload (c : WorkloadCall) : ¬ (Call.workload c).Makes := by
  rintro ⟨pc, hpc, -⟩
  cases hpc

theorem not_makes_service (c : ServiceCall) : ¬ (Call.service c).Makes := by
  rintro ⟨pc, hpc, -⟩
  cases hpc

end Call

namespace Lifecycle

variable {σ : Type} {answers : σ → (c : Call) → c.Reply → σ → Prop} {s t : σ}
  {events : List Call.interface.Event} {config : TunnelConfig} {service : Service}

/-- Setting up makes no calls about Services. -/
theorem no_service_provision {r : Except OperatorError Tunnel}
    (h : (provision config service).Runs answers s events r t) :
    ∀ event ∈ events, ∀ sc, event.call ≠ .service sc := by
  have hstable : (provision config service).Stable
      (only fun c : Call => ∀ sc, c ≠ .service sc) fun _ => True :=
    stable_provision_of_calls rfl (allows_only nofun) (allows_only nofun)
      (fun _ => allows_only nofun) (allows_only nofun) (fun _ => allows_only nofun)
      (fun _ => allows_only nofun) (fun _ => allows_only nofun) (allows_only nofun)
  exact h.only (hstable () trivial)

/-- Taking down makes no calls about Services. -/
theorem no_service_teardown (h : (teardown config service).Runs answers s events () t) :
    ∀ event ∈ events, ∀ sc, event.call ≠ .service sc := by
  have hstable : (teardown config service).Stable
      (only fun c : Call => ∀ sc, c ≠ .service sc) fun _ => True :=
    stable_teardown (fun _ => allows_only nofun) fun _ _ => allows_only nofun
  exact h.only (hstable () trivial)

end Lifecycle

namespace Reconcile

section

variable {σ : Type} {answers : σ → (c : Call) → c.Reply → σ → Prop} {s t : σ}
  {events : List Call.interface.Event} {config : TunnelConfig} {service : Service}
  {ns name : String} {r : Except OperatorError Unit}

theorem not_makes_finalize (h : (finalize config service ns name).Runs answers s events r t) :
    ∀ event ∈ events, ¬ event.call.Makes := by
  have hstable : (finalize config service ns name).Stable (only fun c : Call => ¬ c.Makes)
      fun _ => True := by
    refine (Lifecycle.stable_teardown (fun c => allows_only (Call.not_makes_workload c))
      fun c hc => allows_only (mt Call.makes_provider.mp hc)).bind fun _ => ?_
    split
    · exact Operation.stable_service (allows_only (Call.not_makes_service _))
    · exact stable_done _ _
  exact h.only (hstable () trivial)

theorem not_makes_maintain (h : (maintain config service ns name).Runs answers s events r t) :
    ∀ event ∈ events, ¬ event.call.Makes := by
  have hupdate : (Lifecycle.update config service).Stable (only fun c : Call => ¬ c.Makes)
      fun _ => True :=
    Lifecycle.stable_update
      (fun _ _ _ _ _ _ => Lifecycle.stable_applyWorkload (allows_only (Call.not_makes_workload _))
        (allows_only (Call.not_makes_workload _)))
      fun _ _ _ _ => Lifecycle.stable_updateMachine (allows_only (mt Call.makes_provider.mp id))
        (allows_only (mt Call.makes_provider.mp id))
  exact h.only (stable_maintain (fun _ _ _ => allows_only (Call.not_makes_service _)) hupdate ()
    trivial)

/-- What is made is made behind a call about a Service. -/
theorem makes_behind {sc : ServiceCall} {reply : (Call.service sc).Reply}
    {rest : List Call.interface.Event}
    (h : ∃ event ∈ ⟨.service sc, reply⟩ :: rest, event.call.Makes) :
    ∃ event ∈ rest, event.call.Makes := by
  obtain ⟨event, hmem, hmakes⟩ := h
  obtain rfl | hlater := List.mem_cons.mp hmem
  · exact absurd hmakes (Call.not_makes_service _)
  · exact ⟨event, hlater, hmakes⟩

/-- Where something is made for a Service with the finalizer, a tunnel is set up. -/
theorem runs_serve_makes (h : (serve config service ns name).Runs answers s events r t)
    (hmakes : ∃ event ∈ events, event.call.Makes) :
    (establish config service ns name).Runs answers s events r t := by
  unfold serve at h
  split at h
  · obtain ⟨event, hmem, hevent⟩ := hmakes
    exact absurd hevent (not_makes_maintain h event hmem)
  · exact h

/-- If the Service is found gone on the way, a tunnel has been set up before, and is taken down
behind. -/
theorem runs_establish_gone {during since : List Call.interface.Event}
    (h : (establish config service ns name).Runs answers s
      (during ++ ⟨.service (.get ns name), .ok none⟩ :: since) r t) :
    ∃ tunnel m n, (Lifecycle.provision config service).Runs answers s during (.ok tunnel) m ∧
      answers m (.service (.get ns name)) (.ok none) n ∧
      (Lifecycle.teardown config (service.ghost tunnel)).Runs answers n since () t ∧
      r = .ok () := by
  have hsilent : ∀ {made outcome m},
      (Lifecycle.provision config service).Runs answers s made outcome m →
      ⟨.service (.get ns name), .ok none⟩ ∉ made := fun hprovision hmem =>
    Lifecycle.no_service_provision hprovision _ hmem _ rfl
  obtain ⟨e, -, hprovision⟩ | ⟨made, rest, tunnel, m, hsplit, hprovision, hrest⟩ :=
    runs_andThen.mp h
  · exact absurd List.mem_append_cons_self (hsilent hprovision)
  obtain ⟨e, -, hget⟩ | ⟨_, later, found, n, rfl, hget, hlater⟩ := runs_andThen.mp hrest
  · obtain ⟨rfl, -⟩ := Operation.runs_service.mp hget
    obtain ⟨-, hevent, -⟩ := (List.append_cons_inj_of_notMem (hsilent hprovision)
      List.not_mem_nil).mp hsplit.symm
    cases hevent
  obtain ⟨rfl, hanswers⟩ := Operation.runs_service.mp hget
  -- behind this look-up there is no other
  have hlast : ∀ event ∈ later, event.call ≠ .service (.get ns name) := by
    cases found with
    | none =>
        obtain ⟨removed, last, _, k, rfl, hteardown, hdone⟩ := runs_bind.mp hlater
        obtain ⟨rfl, -, -⟩ := runs_done.mp hdone
        rw [List.append_nil]
        exact fun event hmem => Lifecycle.no_service_teardown hteardown event hmem _
    | some current =>
        have hstable : (andThen (Operation.service (.patchAnnotations ns name
              current.metadata.resourceVersion (TunnelRecord.ofTunnel tunnel).toAnnotations))
            fun () => Operation.service (.patchIngress ns name tunnel.publicIp)).Stable
            (only fun c : Call => c ≠ .service (.get ns name)) fun _ => True :=
          stable_andThen (Operation.stable_service (allows_only nofun)) fun _ =>
            Operation.stable_service (allows_only nofun)
        exact hlater.only (hstable () trivial)
  obtain ⟨rfl, hevent, rfl⟩ := (List.append_cons_inj_of_notMem (hsilent hprovision)
    fun hmem => hlast _ hmem rfl).mp hsplit.symm
  cases hevent
  obtain ⟨removed, last, _, k, rfl, hteardown, hdone⟩ := runs_bind.mp hlater
  obtain ⟨rfl, rfl, rfl⟩ := runs_done.mp hdone
  exact ⟨tunnel, m, n, hprovision, hanswers, by rwa [List.append_nil], rfl⟩

end

section

variable {config : TunnelConfig} {cls : String} {key : ObjectKey} {theirs : Set ObjectKey}
  {w w' : Realm} {events : List Call.interface.Event} {r : Except OperatorError Unit}

/-- Where something is made behind a look-up, the Service was found. -/
theorem runs_lookUp_makes {f : Option Service → Operation (Except OperatorError Unit)}
    (hgone : f none = .done (.ok ()))
    (h : (andThen (Operation.service (.get key.ns key.name)) f).Runs (Realm.Amid theirs) w events r
      w') (hmakes : ∃ event ∈ events, event.call.Makes) :
    ∃ copy rest m, events = ⟨.service (.get key.ns key.name), .ok (some copy)⟩ :: rest ∧
      w.Meddled (insert key theirs) m ∧ (f (some copy)).Runs (Realm.Amid theirs) m rest r w' ∧
      ∃ event ∈ rest, event.call.Makes := by
  obtain ⟨e, -, hget⟩ | ⟨_, rest, found, m, rfl, hget, hrest⟩ := runs_andThen.mp h
  · obtain ⟨rfl, -⟩ := Operation.runs_service.mp hget
    obtain ⟨_, hmem, -⟩ := makes_behind hmakes
    cases hmem
  obtain ⟨rfl, hanswers⟩ := Operation.runs_service.mp hget
  have hlater := makes_behind hmakes
  cases found with
  | none =>
      rw [hgone] at hrest
      obtain ⟨rfl, -, -⟩ := runs_done.mp hrest
      obtain ⟨_, hmem, -⟩ := hlater
      cases hmem
  | some copy =>
      exact ⟨copy, rest, m, rfl,
        Realm.Amid.of_service hanswers (Set.mem_insert _ _) (Set.subset_insert _ _), hrest, hlater⟩

/-- A pass that makes something sets a tunnel up, for the copy of the Service that it has found
last, and has done nothing before but put the finalizer on. -/
theorem runs_pass_makes
    (h : (pass config cls key.ns key.name).Runs (Realm.Amid theirs) w events r w')
    (hmakes : ∃ event ∈ events, event.call.Makes) :
    ∃ head copy rest m,
      events = head ++ ⟨.service (.get key.ns key.name), .ok (some copy)⟩ :: rest ∧
      (∀ event ∈ head, ¬ event.call.Makes) ∧ w.Meddled (insert key theirs) m ∧
      (establish config copy key.ns key.name).Runs (Realm.Amid theirs) m rest r w' := by
  obtain ⟨first, rest, m, rfl, hmeddled, hrest, hmakes⟩ := runs_lookUp_makes rfl h hmakes
  dsimp only at hrest
  split at hrest
  · obtain ⟨rfl, -, -⟩ := runs_done.mp hrest
    obtain ⟨_, hmem, -⟩ := hmakes
    cases hmem
  split at hrest
  · obtain ⟨event, hmem, hevent⟩ := hmakes
    exact absurd hevent (not_makes_finalize hrest event hmem)
  split at hrest
  · exact ⟨[], first, rest, m, rfl, List.forall_mem_nil _, hmeddled,
      runs_serve_makes hrest hmakes⟩
  obtain ⟨e, -, hput⟩ | ⟨_, rest, _, n, rfl, hput, hagain⟩ := runs_andThen.mp hrest
  · obtain ⟨rfl, -⟩ := Operation.runs_service.mp hput
    obtain ⟨_, hmem, -⟩ := makes_behind hmakes
    cases hmem
  obtain ⟨rfl, hanswers⟩ := Operation.runs_service.mp hput
  obtain ⟨copy, rest, k, rfl, hmeddled', hrest, hmakes⟩ :=
    runs_lookUp_makes rfl hagain (makes_behind hmakes)
  refine ⟨[_, _], copy, rest, k, rfl, ?_, ?_, runs_serve_makes hrest hmakes⟩
  · exact List.forall_mem_cons.mpr ⟨Call.not_makes_service _,
      List.forall_mem_singleton.mpr (Call.not_makes_service _)⟩
  · exact (hmeddled.trans (Realm.Amid.of_service hanswers (Set.mem_insert _ _)
      (Set.subset_insert _ _))).trans hmeddled'

end

end Reconcile

/-! ### What is left -/

/-- Whoever writes Services, what is torn down is torn down. -/
theorem Demolition.Razed.meddled {ns app name : String} {theirs : Set ObjectKey}
    {w w' w'' : Realm} (h : Razed ns app name w w') (hmeddled : w'.Meddled theirs w'') :
    ∃ u, w.Meddled theirs u ∧ Razed ns app name u w'' := by
  refine ⟨⟨w.estate, { w.cluster with services := w''.cluster.services }⟩, ⟨rfl, rfl, rfl, ?_⟩, ?_⟩
  · intro key hkey
    show w''.cluster.services.get? key = _
    rw [hmeddled.services key hkey, h.services]
  · exact {
      deployment := by rw [hmeddled.deployments]; exact h.deployment
      configMap := by rw [hmeddled.configMaps]; exact h.configMap
      nothing := by rw [hmeddled.estate]; exact h.nothing
      deployments := by rw [hmeddled.deployments]; exact h.deployments
      configMaps := by rw [hmeddled.configMaps]; exact h.configMaps
      services := rfl
      beside := by rw [hmeddled.estate]; exact h.beside }

/-- **A tunnel whose Service vanished is taken down whole.** While a pass is under way, others may
write the Services `theirs` as they like, and any call may fail. If the pass has made something at
the provider, and finds its Service gone at a look-up behind that, then it has succeeded in setting
a tunnel up for the copy that it had found before. It makes no more calls about Services, tries to
take down every part of that tunnel, and ends well. If the deletions of the Deployment, the
ConfigMap and the application succeed, whatever else fails, then nothing is left under the names
derived for the Service, and all else is as it was before the pass, but for the Services that others
wrote and the one that the pass was about. -/
theorem vanished_reclaimed {config : TunnelConfig} {cls : String} {key : ObjectKey}
    {theirs : Set ObjectKey} {w w' : Realm} {before since : List Call.interface.Event}
    {r : Except OperatorError Unit}
    (hrun : (Reconcile.pass config cls key.ns key.name).Runs (Realm.Amid theirs) w
      (before ++ ⟨.service (.get key.ns key.name), .ok none⟩ :: since) r w')
    (hmade : ∃ event ∈ before, event.call.Makes) :
    r = .ok () ∧ (∀ event ∈ since, ∀ sc, event.call ≠ .service sc) ∧
      ∃ earlier copy during tunnel,
        before = earlier ++ ⟨.service (.get key.ns key.name), .ok (some copy)⟩ :: during ∧
        (∃ v v', (Lifecycle.provision config copy).Runs (Realm.Amid theirs) v during (.ok tunnel)
          v') ∧
        Demolition.Attempts config.operatorNamespace (Name.ofService .app copy)
          (Name.ofService .deployment copy) (TunnelRecord.ofTunnel tunnel).nonEmpty since ∧
        ((∀ event ∈ since, Demolition.refused event = false) →
          ∃ u, w.Meddled (insert key theirs) u ∧
            Demolition.Razed config.operatorNamespace (Name.ofService .app copy)
              (Name.ofService .deployment copy) u w') := by
  obtain ⟨head, copy, rest, m, hsplit, hsilent, hmeddled, hestablish⟩ :=
    Reconcile.runs_pass_makes hrun (hmade.imp fun _ h => ⟨List.mem_append_left _ h.1, h.2⟩)
  -- what was made was made behind the look-up of the copy, and so was the look-up that failed
  obtain ⟨during, rfl, rfl⟩ : ∃ during,
      before = head ++ ⟨.service (.get key.ns key.name), .ok (some copy)⟩ :: during ∧
        rest = during ++ ⟨.service (.get key.ns key.name), .ok none⟩ :: since := by
    rw [List.append_cons head] at hsplit
    obtain ⟨during, rfl, rfl⟩ | ⟨between, hhead, -⟩ := List.append_eq_append_iff.mp hsplit.symm
    · exact ⟨during, (List.append_cons _ _ _).symm, rfl⟩
    · obtain ⟨event, hmem, hevent⟩ := hmade
      have hearly := List.mem_append_left between hmem
      rw [← hhead, List.mem_append, List.mem_singleton] at hearly
      obtain hearly | rfl := hearly
      · exact absurd hevent (hsilent event hearly)
      · exact absurd hevent (Call.not_makes_service _)
  obtain ⟨tunnel, m', q, hprovision, hget, hteardown, rfl⟩ :=
    Reconcile.runs_establish_gone hestablish
  obtain ⟨happ, hname⟩ : tunnel.appName = Name.ofService .app copy ∧
      tunnel.deploymentName = Name.ofService .deployment copy := by
    obtain ⟨_, _, _, _, _, _, _, _, -, rfl, -⟩ := Lifecycle.runs_provision_ok hprovision
    exact ⟨rfl, rfl⟩
  have hattempts := Demolition.attempts_of_runs hteardown
  rw [Service.appName_ghost happ, Service.deploymentName_ghost hname, Service.record_ghost]
    at hattempts
  refine ⟨rfl, Lifecycle.no_service_teardown hteardown, head, copy, during, tunnel, rfl,
    ⟨m, m', hprovision⟩, hattempts, fun hsucceeds => ?_⟩
  -- apart from Services, the pass does what it would have done alone
  have hkept : theirs ⊆ insert key theirs := Set.subset_insert key theirs
  obtain ⟨v, hprovision, hmeddled⟩ :=
    hmeddled.runs hprovision (Lifecycle.no_service_provision hprovision) hkept
  obtain ⟨v', hteardown, hmeddled⟩ :=
    (hmeddled.trans (Realm.Amid.of_service hget (Set.mem_insert key theirs) hkept)).runs hteardown
      (Lifecycle.no_service_teardown hteardown) hkept
  exact (Demolition.razed_of_provision hprovision hteardown hsucceeds).meddled hmeddled

/-! ### A Service that vanishes -/

/-- Answers a call on a site where others remove a Service just before the call number `n`. -/
def Site.performRemoving (key : ObjectKey) (n : Nat) (c : Call) (x : Site × Nat) :
    c.Reply × Site × Nat :=
  let others : Cluster := { x.1.cluster with services := x.1.cluster.services.erase key }
  let site := if x.2 = n then { x.1 with cluster := others } else x.1
  ((Site.perform c site).1, (Site.perform c site).2, x.2 + 1)

/-- Every answer on such a site is one that may be expected among others. -/
theorem Site.amid_performRemoving {key : ObjectKey} {n : Nat} (c : Call) {x : Site × Nat}
    {w : Realm} (h : x.1.Depicts w) :
    ∃ w', w.Amid {key} c (Site.performRemoving key n c x).1 w' ∧
      (Site.performRemoving key n c x).2.1.Depicts w' := by
  obtain ⟨⟨cloud, _⟩, count⟩ := x
  obtain ⟨estate, cluster⟩ := w
  obtain ⟨hcloud, rfl⟩ := h
  unfold Site.performRemoving
  dsimp only
  split
  · let u : Realm := ⟨estate, { cluster with services := cluster.services.erase key }⟩
    have hmeddled : Realm.Meddled {key} ⟨estate, cluster⟩ u :=
      ⟨rfl, rfl, rfl, fun _ hkey => Dict.get?_erase_ne _ hkey⟩
    have hdepicts : Site.Depicts ⟨cloud, u.cluster⟩ u := ⟨hcloud, rfl⟩
    obtain ⟨w', hhonest, hdepicts'⟩ := hdepicts.perform c
    exact ⟨w', ⟨u, hmeddled, hhonest.answers⟩, hdepicts'⟩
  · have hdepicts : Site.Depicts ⟨cloud, cluster⟩ ⟨estate, cluster⟩ := ⟨hcloud, rfl⟩
    obtain ⟨w', hhonest, hdepicts'⟩ := hdepicts.perform c
    exact ⟨w', ⟨_, .refl _ _, hhonest.answers⟩, hdepicts'⟩

/-- A look-up finds a Service gone. -/
def isGone (key : ObjectKey) : Call.interface.Event → Bool
  | ⟨.service (.get ns name), .ok none⟩ => decide (⟨ns, name⟩ = key)
  | _ => false

theorem eq_of_isGone {key : ObjectKey} {event : Call.interface.Event}
    (h : isGone key event = true) :
    event = ⟨.service (.get key.ns key.name), .ok none⟩ := by
  unfold isGone at h
  split at h
  · obtain rfl := of_decide_eq_true h
    rfl
  · cases h

/-- If a look-up finds a copy, the names derived for it are these. -/
def isNamed (app name : String) : Call.interface.Event → Bool
  | ⟨.service (.get _ _), .ok (some copy)⟩ =>
    Name.ofService .app copy == app && Name.ofService .deployment copy == name
  | _ => true

/-- A pass sets a tunnel up for a Service that others remove meanwhile. Nothing is left of it. -/
theorem vanished_reclaimed_web :
    let key : ObjectKey := ⟨"default", "web"⟩
    let w := (Scene.untouched (.sample ["web"])).realm
    ∃ before since w' u,
      (Reconcile.pass sampleConfig "fly" "default" "web").Runs (Realm.Amid {key}) w
        (before ++ ⟨.service (.get "default" "web"), .ok none⟩ :: since) (.ok ()) w' ∧
      (∃ event ∈ before, event.call.Makes) ∧ w.Meddled {key} u ∧
      Demolition.Razed "tunnels" "fly-tunnel-default-web" "frpc-default-web" u w' := by
  intro key w
  let pass := Reconcile.pass sampleConfig "fly" key.ns key.name
  let site : Site := ⟨{}, .sample ["web"]⟩
  let events := pass.events (Site.performRemoving key 9) (site, 0)
  have hmakes : (events[3]?.map fun event => (event.call : Call)) =
      some (.provider (.ensureApp "fly-tunnel-default-web" "personal")) := by decide +kernel
  have hgone : events[9]?.map (isGone key) = some true := by decide +kernel
  have hnamed : ∀ event ∈ events,
      isNamed "fly-tunnel-default-web" "frpc-default-web" event = true := by decide +kernel
  have hsucceeds : ∀ event ∈ events, Demolition.refused event = false := by decide +kernel
  have hresult : (pass.run (Site.performRemoving key 9) (site, 0)).1 = .ok () := by decide +kernel
  have hhandle : ∀ (c : Call) (x : Site × Nat) (w : Realm), x.1.Depicts w →
      ∃ w', w.Amid {key} c (Site.performRemoving key 9 c x).1 w' ∧
        (Site.performRemoving key 9 c x).2.1.Depicts w' := fun c _ _ => Site.amid_performRemoving c
  have hdepicts : site.Depicts w := Scene.depicts_untouched _
  obtain ⟨w', hrun, -⟩ := exists_runs hhandle pass (x := (site, 0)) hdepicts
  rw [hresult] at hrun
  obtain ⟨made, hmade, hmakes⟩ := Option.map_eq_some_iff.mp hmakes
  obtain ⟨event, hat, hgone⟩ := Option.map_eq_some_iff.mp hgone
  obtain rfl := eq_of_isGone hgone
  obtain ⟨hlength, hat⟩ := List.getElem?_eq_some_iff.mp hat
  have hsplit : events = events.take 9 ++
      ⟨.service (.get key.ns key.name), .ok none⟩ :: events.drop 10 := by
    rw [← hat, ← List.drop_eq_getElem_cons hlength, List.take_append_drop]
  have hbefore : ∃ event ∈ events.take 9, event.call.Makes := by
    refine ⟨made, List.mem_of_getElem? (i := 3) ?_, _, congrArg Call.provider? hmakes, trivial⟩
    rw [List.getElem?_take_of_lt (by decide), hmade]
  have hruns := hrun
  rw [show pass.events _ _ = events from rfl, hsplit] at hruns
  obtain ⟨-, -, earlier, copy, during, tunnel, hfound, -, -, hrazed⟩ :=
    vanished_reclaimed hruns hbefore
  obtain ⟨u, hmeddled, hrazed⟩ :=
    hrazed fun event hmem => hsucceeds event (List.mem_of_mem_drop hmem)
  have hcopy := hnamed ⟨.service (.get key.ns key.name), .ok (some copy)⟩
    (List.mem_of_mem_take (hfound ▸ List.mem_append_cons_self))
  simp only [isNamed, Bool.and_eq_true, beq_iff_eq] at hcopy
  rw [hcopy.1, hcopy.2] at hrazed
  rw [Set.insert_eq_of_mem (Set.mem_singleton key)] at hmeddled
  exact ⟨_, _, w', u, hruns, hbefore, hmeddled, hrazed⟩

end ServiceTunnel
