import ServiceTunnel.Proofs.Passes
import ServiceTunnel.Proofs.Registry
import ServiceTunnel.Proofs.Scene
import ServiceTunnel.Proofs.Simulated

/-!
# ServiceTunnel.Proofs.Isolation

**Tunnels do not interfere.** A pass acts on identifiers that it reads from annotations, and the
provider deletes what an identifier stands for, whoever asks. What keeps passes of different
Services apart is where identifiers come from: every one that is recorded on a Service was given out
for the Service's own application (`Registered`), and no identifier ever passes to another one.
-/

namespace ServiceTunnel

open Kube Simulation

/-! ### The contract of a pass -/

/-- A call about a client is about the client `name` in the namespace `ns`. -/
def WorkloadCall.Within (ns name : String) : WorkloadCall → Prop
  | .applyConfigMap m => m.metadata.key = ⟨ns, Workload.configMapName name⟩
  | .applyDeployment d => d.metadata.key = ⟨ns, name⟩
  | .deleteDeployment ns' name' => ns' = ns ∧ name' = name
  | .deleteConfigMap ns' name' => ns' = ns ∧ name' = Workload.configMapName name

namespace Isolation

/-- The titles that an answer tells of are among the titles. -/
def Learns (key : ObjectKey) (titles : Set Title) : (c : Call) → c.Reply → Prop
  | .provider (.createMachine _ _), .ok machine => .machine machine.id ∈ titles
  | .provider (.allocateIp _), .ok ip => .ip ip.id ∈ titles
  | .provider (.listIps _), .ok ips => ∀ ip ∈ ips, .ip ip.id ∈ titles
  | .service (.get _ _), .ok (some s) => Registered key titles s
  | _, _ => True

/-- A pass calls only about its own Service, application and client, and acts only on titles that
it knows. It gets to know titles from the provider and from the record. -/
def contract (config : TunnelConfig) (key : ObjectKey) : Contract Call.interface (Set Title) where
  permits titles c :=
    match c with
    | .provider c | .providerWithin _ c => c.app = appOf key ∧ c.uses ⊆ titles
    | .workload c => c.Within config.operatorNamespace (deploymentOf key)
    | .service c => c.key = key ∧ c.RecordsProper key titles
  yields titles c r more := titles ⊆ more ∧ Learns key more c r

variable {config : TunnelConfig} {key : ObjectKey} {titles : Set Title}

theorem allows_provider {c : ProviderCall} (happ : c.app = appOf key) (huses : c.uses ⊆ titles) :
    (contract config key).Allows (titles ⊆ ·) (.provider c) :=
  fun _ hknown => ⟨⟨happ, huses.trans hknown⟩, fun _ _ h => hknown.trans h.1⟩

theorem allows_providerWithin {limit : Nat} {c : ProviderCall} (happ : c.app = appOf key)
    (huses : c.uses ⊆ titles) :
    (contract config key).Allows (titles ⊆ ·) (.providerWithin limit c) :=
  fun _ hknown => ⟨⟨happ, huses.trans hknown⟩, fun _ _ h => hknown.trans h.1⟩

theorem allows_workload {c : WorkloadCall}
    (hc : c.Within config.operatorNamespace (deploymentOf key)) :
    (contract config key).Allows (titles ⊆ ·) (.workload c) :=
  fun _ hknown => ⟨hc, fun _ _ h => hknown.trans h.1⟩

theorem allows_service {c : ServiceCall} (hkey : c.key = key)
    (hrecords : ∀ more, titles ⊆ more → c.RecordsProper key more) :
    (contract config key).Allows (titles ⊆ ·) (.service c) :=
  fun more hknown => ⟨⟨hkey, hrecords more hknown⟩, fun _ _ h => hknown.trans h.1⟩

/-! ### Every pass keeps the contract -/

theorem stable_applyWorkload (service : Service) (address : String)
    (requirements : Requirements) :
    (Lifecycle.applyWorkload (Lifecycle.workload config service (deploymentOf key) address
      requirements)).Stable (contract config key) (titles ⊆ ·) :=
  Lifecycle.stable_applyWorkload (allows_workload rfl) (allows_workload rfl)

theorem stable_update {service : Service} (h : Registered key titles service) :
    (Lifecycle.update config service).Stable (contract config key) (titles ⊆ ·) := by
  refine Lifecycle.stable_update (fun name address requirements hname _ _ => ?_)
    (fun app id happ _ => ?_)
  · rw [h.record.frpcDeployment name hname]
    exact stable_applyWorkload service address requirements
  · have happ := h.record.flyApp app happ
    exact Lifecycle.stable_updateMachine (allows_provider happ (Set.empty_subset _))
      (allows_provider happ (Set.empty_subset _))

theorem stable_releaseAddresses {ipId : Option String}
    (h : ∀ id, ipId = some id → .ip id ∈ titles) :
    (Lifecycle.releaseAddresses (appOf key) ipId).Stable (contract config key) (titles ⊆ ·) := by
  cases ipId with
  | some id =>
      have huses : (ProviderCall.releaseIp (appOf key) id).uses ⊆ titles :=
        Set.singleton_subset_iff.mpr (h id rfl)
      exact Lifecycle.stable_attempt (Operation.stable_provider (allows_provider rfl huses))
  | none =>
      intro known hknown
      refine ⟨⟨rfl, Set.empty_subset _⟩, fun (r : Except ProviderError _) more hmore => ?_⟩
      have hknown := hknown.trans hmore.1
      cases r with
      | error e => exact hknown
      | ok ips =>
          -- what is listed belongs to the application
          have hips : ∀ ip ∈ ips, (ProviderCall.releaseIp (appOf key) ip.id).uses ⊆ more :=
            fun ip hip => Set.singleton_subset_iff.mpr (hmore.2 ip hip)
          have hall : (Lifecycle.releaseAll (appOf key) ips).Stable (contract config key)
              (more ⊆ ·) :=
            Lifecycle.stable_releaseAll fun ip hip => allows_provider rfl (hips ip hip)
          exact (hall more subset_rfl).imp fun _ _ hgrown => hknown.trans hgrown

theorem stable_teardown {service : Service} (h : Registered key titles service) :
    (Lifecycle.teardown config service).Stable (contract config key) (titles ⊆ ·) := by
  intro known hknown
  refine Lifecycle.keeps_teardown h.app_eq h.deployment_eq (allows_workload ⟨rfl, rfl⟩)
    (allows_workload ⟨rfl, rfl⟩) (stable_releaseAddresses h.record.ipId)
    (Lifecycle.stable_deleteMachine fun id hid => ?_) (fun known hknown => ?_) hknown
  · have huses : (ProviderCall.deleteMachine (appOf key) id).uses ⊆ titles :=
      Set.singleton_subset_iff.mpr (h.record.machineId id hid)
    exact allows_provider rfl huses
  · have hlast : (contract config key).Allows (titles ⊆ ·) (.provider (.deleteApp (appOf key))) :=
      allows_provider rfl (Set.empty_subset _)
    exact Lifecycle.stable_attempt (Operation.stable_provider hlast) known hknown

/-- Setting up: what has been made so far is among the titles that are known. -/
def progress (config : TunnelConfig) (key : ObjectKey) (service : Service) (titles : Set Title) :
    Lifecycle.Progress (contract config key) config service (appOf key) (deploymentOf key) where
  before := (titles ⊆ ·)
  founded := (titles ⊆ ·)
  made machine := (titles ∪ {.machine machine.id} ⊆ ·)
  allocated machine ip := (titles ∪ {.machine machine.id, .ip ip.id} ⊆ ·)
  ready machine ip := (titles ∪ {.machine machine.id, .ip ip.id} ⊆ ·)
  failed made := (titles ∪ made ⊆ ·)
  founds known hknown := by
    refine ⟨⟨rfl, Set.empty_subset _⟩, fun r more hmore => ?_⟩
    have hgrown := hknown.trans hmore.1
    cases r with
    | ok => exact hgrown
    | error e => exact Set.union_subset hgrown (Set.empty_subset _)
  creates known hknown := by
    refine ⟨⟨rfl, Set.empty_subset _⟩, fun r more hmore => ?_⟩
    have hgrown := hknown.trans hmore.1
    cases r with
    | ok machine => exact Set.union_subset hgrown (Set.singleton_subset_iff.mpr hmore.2)
    | error e => exact Set.union_subset hgrown (Set.empty_subset _)
  waits machine known hknown := by
    have hwaits : (contract config key).Allows (titles ∪ {.machine machine.id} ⊆ ·)
        (.providerWithin Lifecycle.startLimit (.waitForMachine (appOf key) machine.id
          machine.instanceId Lifecycle.startedState Lifecycle.startSeconds)) :=
      allows_providerWithin rfl Set.subset_union_right
    exact (Lifecycle.stable_waitStarted hwaits).outcome hknown fun _ h => h
  allocates machine known hknown := by
    refine ⟨⟨rfl, Set.empty_subset _⟩, fun r more hmore => ?_⟩
    have hgrown := hknown.trans hmore.1
    cases r with
    | ok ip =>
        intro t ht
        rcases ht with ht | rfl | rfl
        · exact hgrown (Or.inl ht)
        · exact hgrown (Or.inr rfl)
        · exact hmore.2
    | error e => exact hgrown
  applies machine ip requirements known _ hknown :=
    (stable_applyWorkload service ip.address requirements).outcome hknown fun _ h => h
  deletesApp made := allows_provider rfl (Set.empty_subset _)
  deletesMachine made id hid := by
    have huses : (ProviderCall.deleteMachine (appOf key) id).uses ⊆ titles ∪ made :=
      Set.singleton_subset_iff.mpr (Or.inr hid)
    exact allows_provider rfl huses
  releasesIp made id hid := by
    have huses : (ProviderCall.releaseIp (appOf key) id).uses ⊆ titles ∪ made :=
      Set.singleton_subset_iff.mpr (Or.inr hid)
    exact allows_provider rfl huses

/-- A look-up tells what is registered, and the rest may rely on it. -/
theorem keeps_get {next : Option Service → Operation (Except OperatorError Unit)}
    (hnone : (next none).Stable (contract config key) (titles ⊆ ·))
    (hsome : ∀ service more, titles ⊆ more → Registered key more service →
      (next (some service)).Stable (contract config key) (more ⊆ ·)) :
    (Reconcile.andThen (Operation.service (.get key.ns key.name)) next).Stable
      (contract config key) (titles ⊆ ·) := by
  intro known hknown
  refine (Reconcile.keeps_andThen _ _ _ _).mpr ⟨⟨rfl, trivial⟩, fun r more hmore => ?_⟩
  have hknown := hknown.trans hmore.1
  match r with
  | .error e => exact hknown
  | .ok none => exact hnone more hknown
  | .ok (some service) =>
      refine (hsome service more hknown hmore.2 more subset_rfl).imp fun _ after hafter => ?_
      exact hknown.trans hafter

/-- A proper tunnel may be recorded. -/
theorem stable_recordTunnel {tunnel : Tunnel} (h : (TunnelRecord.ofTunnel tunnel).Proper key titles)
    (version : Option String) :
    (Reconcile.andThen (Operation.service (.patchAnnotations key.ns key.name version
        (TunnelRecord.ofTunnel tunnel).toAnnotations)) fun () =>
      Operation.service (.patchIngress key.ns key.name tunnel.publicIp)).Stable
        (contract config key) (titles ⊆ ·) := by
  refine Reconcile.stable_andThen (Operation.stable_service (allows_service rfl ?_)) fun _ =>
    Operation.stable_service (allows_service rfl fun _ _ => trivial)
  exact fun more hmore => ⟨tunnel, rfl, h.mono hmore⟩

theorem stable_establish {service : Service} (hns : service.ns = key.ns)
    (hname : service.name = key.name) :
    (Reconcile.establish config service key.ns key.name).Stable (contract config key)
      (titles ⊆ ·) := by
  intro known hknown
  refine (Reconcile.keeps_andThen _ _ _ _).mpr ?_
  refine ((progress config key service titles).keeps_provision (s := known)
    (ofService_app hns hname) (ofService_deployment hns hname) hknown).imp ?_
  intro r known hended
  cases r with
  | error e =>
      obtain ⟨-, hbefore⟩ | ⟨made, hfailed⟩ := hended
      · exact hbefore
      · exact (Set.union_subset_iff.mp hfailed).1
  | ok tunnel =>
      obtain ⟨machine, ip, rfl, hready⟩ := hended
      have hproper := proper_tunnelOf key hready
      refine Program.Keeps.imp (keeps_get ?_ (fun current more hmore _ => ?_) known subset_rfl)
        fun _ after hafter => (Set.union_subset_iff.mp hready).1.trans hafter
      · -- the Service is gone: the copy that bears nothing but the new record is proper, too
        exact (stable_teardown (registered_withAnnotations hns hname hproper)).bind
          fun _ => Program.stable_done _ _
      · exact stable_recordTunnel (hproper.mono hmore) current.metadata.resourceVersion

theorem stable_setFinalizers (version : Option String) (finalizers : List String) :
    (Operation.service (.setFinalizers key.ns key.name version finalizers)).Stable
      (contract config key) (titles ⊆ ·) :=
  Operation.stable_service (allows_service rfl fun _ _ => trivial)

theorem stable_finalize {service : Service} (h : Registered key titles service) :
    (Reconcile.finalize config service key.ns key.name).Stable (contract config key)
      (titles ⊆ ·) := by
  refine (stable_teardown h).bind fun _ => ?_
  split
  · exact stable_setFinalizers _ _
  · exact Program.stable_done _ _

theorem stable_serve {service : Service} (h : Registered key titles service) :
    (Reconcile.serve config service key.ns key.name).Stable (contract config key)
      (titles ⊆ ·) := by
  unfold Reconcile.serve
  split
  · refine Reconcile.stable_maintain (fun ip _ _ => ?_) (stable_update h)
    exact allows_service rfl fun _ _ => trivial
  · exact stable_establish h.ns h.name

theorem keeps_pass (cls : String) :
    (Reconcile.pass config cls key.ns key.name).Keeps (contract config key) (fun _ _ => True)
      titles := by
  refine Reconcile.keeps_pass ⟨rfl, trivial⟩ ?_ ?_ ?_
  · intro service known hfound _
    obtain ⟨-, hregistered⟩ := hfound
    exact (stable_finalize hregistered known subset_rfl).imp fun _ _ _ => trivial
  · intro service known hfound _ _
    obtain ⟨-, hregistered⟩ := hfound
    exact (stable_serve hregistered known subset_rfl).imp fun _ _ _ => trivial
  · intro service known hfound _ _
    obtain ⟨-, hregistered⟩ := hfound
    refine ⟨⟨rfl, trivial⟩, ?_⟩
    intro r more _
    cases r with
    | error e => exact trivial
    | ok =>
        refine ⟨⟨rfl, trivial⟩, ?_⟩
        intro service known hfound
        obtain ⟨-, hregistered⟩ := hfound
        exact (stable_serve hregistered known subset_rfl).imp fun _ _ _ => trivial

/-! ### What every run keeps -/

/-- The titles that belong to the application of a Service. -/
def owned (w : Realm) (key : ObjectKey) : Set Title := {t | w.estate.Owns (appOf key) t}

/-- What passes know belongs to their applications, and so does what is recorded. -/
structure Consistent (titles : ObjectKey → Set Title) (w : Realm) : Prop where
  known : ∀ key, titles key ⊆ owned w key
  registered : ∀ key service, w.cluster.services.get? key = some service →
    Registered key (owned w key) service

/-- What belongs to an application once belongs to it for good. -/
theorem owned_subset {w w' : Realm} {c : Call} {r : c.Reply} (h : w.Answers c r w')
    (key : ObjectKey) : owned w key ⊆ owned w' key := fun _ => h.owns

/-- A call of a pass leaves every record proper. -/
theorem registered_after {w w' : Realm} {c : Call} {r : c.Reply} (hanswers : w.Answers c r w')
    (hpermits : (contract config key).permits titles c) (htitles : titles ⊆ owned w key)
    (h : ∀ other service, w.cluster.services.get? other = some service →
      Registered other (owned w other) service) :
    ∀ other service, w'.cluster.services.get? other = some service →
      Registered other (owned w' other) service := by
  intro other service hservice
  refine (registered_call hanswers (fun sc hsc => ?_) h other service hservice).mono
    (owned_subset hanswers other)
  subst hsc
  obtain ⟨rfl, hrecords⟩ := hpermits
  exact hrecords.mono htitles

/-- What an answer tells of belongs to the application that the call is about. -/
theorem learns_owned {w w' : Realm} {c : Call} {r : c.Reply} (hanswers : w.Answers c r w')
    (hpermits : (contract config key).permits titles c)
    (h : ∀ service, w'.cluster.services.get? key = some service →
      Registered key (owned w' key) service) :
    Learns key (owned w' key) c r := by
  unfold Learns
  split
  · rename_i app input machine
    obtain ⟨rfl, -⟩ := hpermits
    exact Estate.Carries.owns_machine hanswers.1
  · rename_i app ip
    obtain ⟨rfl, -⟩ := hpermits
    exact Estate.Carries.owns_ip hanswers.1
  · rename_i app ips
    obtain ⟨⟨-, hips, hsame⟩, -⟩ := hanswers
    obtain ⟨rfl, -⟩ := hpermits
    intro ip hip
    show (w'.estate.ips ip.id).BelongsTo _
    rw [hsame, Slot.of?_eq_some.mp ((hips ip).mp hip)]
    exact rfl
  · rename_i ns name service
    obtain ⟨hfound, hsame⟩ := hanswers.found
    obtain ⟨rfl, -⟩ := hpermits
    exact h service (by rw [hsame]; exact hfound)
  · trivial

/-- The rules under which tunnels do not interfere. -/
def rules (config : TunnelConfig) (cls : String) (R : Scene.Regime) :
    Scene.Rules config cls R (Set Title) where
  contract := contract config
  idle := ∅
  inv titles s := Consistent titles s.realm
  pass_keeps key := keeps_pass cls
  begin_inv h hstep _ _ := by
    cases hstep
    exact h
  call_inv {titles s s' key c r} h hstep _ hpermits := by
    cases hstep with
    | call key seen c next r realm hflight hanswers =>
        have hregistered := registered_after hanswers hpermits (h.known key) h.registered
        -- after each answer the pass is taken to know all that its application ever owned
        refine ⟨owned realm key, ⟨?_, ?_⟩, ?_, hregistered⟩
        · exact (h.known key).trans (owned_subset hanswers key)
        · exact learns_owned hanswers hpermits (hregistered key)
        · refine (Function.forall_update_iff titles
            fun other known => known ⊆ owned realm other).mpr ⟨subset_rfl, fun other _ => ?_⟩
          exact (h.known other).trans (owned_subset hanswers other)
  finish_inv {titles s s' key} h hstep _ _ := by
    cases hstep
    refine ⟨?_, h.registered⟩
    exact (Function.forall_update_iff titles fun other known => known ⊆ owned s.realm other).mpr
      ⟨Set.empty_subset _, fun other _ => h.known other⟩
  change_inv {titles s s' key} h hstep _ := by
    cases hstep with
    | change key cluster hchanges =>
        refine ⟨h.known, fun other service hservice => ?_⟩
        by_cases hother : other = key
        · subst hother
          exact registered_change hchanges (h.registered other) service hservice
        · rw [hchanges.elsewhere hother] at hservice
          exact h.registered other service hservice

theorem consistent_of_fresh {s : Scene} (h : s.Fresh) : Consistent (fun _ => ∅) s.realm := by
  refine ⟨fun _ => Set.empty_subset _, fun key service hservice => ?_⟩
  obtain ⟨hns, hname⟩ := h.named key service hservice
  refine ⟨hns, hname, ?_⟩
  rw [h.unrecorded key service hservice]
  exact TunnelRecord.proper_empty

end Isolation

/-! ### Slices -/

/-- What there is of a Service and its tunnel. -/
structure Slice where
  service : Option Service
  hasApp : Prop
  machine : String → Option Machine
  ip : String → Option IpAddress
  deployment : Option Deployment
  configMap : Option ConfigMap

/-- The Service `key` as it is stored, its application with the machines and addresses in it, and
the objects of its client. -/
def Realm.slice (w : Realm) (config : TunnelConfig) (key : ObjectKey) : Slice where
  service := w.cluster.services.get? key
  hasApp := appOf key ∈ w.estate.apps
  machine := w.estate.machineOf? (appOf key)
  ip := w.estate.ipOf? (appOf key)
  deployment := w.cluster.deployments.get? ⟨config.operatorNamespace, deploymentOf key⟩
  configMap := w.cluster.configMaps.get?
    ⟨config.operatorNamespace, Workload.configMapName (deploymentOf key)⟩

namespace Isolation

variable {config : TunnelConfig} {titles : Set Title}

theorem configMapName_ne {name other : String} (h : name ≠ other) :
    Workload.configMapName name ≠ Workload.configMapName other := by
  intro heq
  exact h ((String.append_left_inj _).mp heq)

/-- A call about one client leaves the objects of another alone. -/
theorem performWorkload_elsewhere (c : Cluster) {call : WorkloadCall} {ns name other : String}
    (hcall : call.Within ns name) (hne : name ≠ other) :
    (c.performWorkload call).deployments.get? ⟨ns, other⟩ = c.deployments.get? ⟨ns, other⟩ ∧
      (c.performWorkload call).configMaps.get? ⟨ns, Workload.configMapName other⟩ =
        c.configMaps.get? ⟨ns, Workload.configMapName other⟩ := by
  have hdeployment : (⟨ns, other⟩ : ObjectKey) ≠ ⟨ns, name⟩ := by
    intro heq
    exact hne (congrArg ObjectKey.name heq).symm
  have hmap : (⟨ns, Workload.configMapName other⟩ : ObjectKey) ≠
      ⟨ns, Workload.configMapName name⟩ := by
    intro heq
    exact configMapName_ne hne (congrArg ObjectKey.name heq).symm
  cases call with
  | applyConfigMap m =>
      refine ⟨rfl, Dict.get?_insert_ne _ ?_ _⟩
      rwa [show m.metadata.key = _ from hcall]
  | applyDeployment d =>
      refine ⟨Dict.get?_insert_ne _ ?_ _, rfl⟩
      rwa [show d.metadata.key = _ from hcall]
  | deleteDeployment ns' name' =>
      obtain ⟨rfl, rfl⟩ := hcall
      exact ⟨Dict.get?_erase_ne _ hdeployment, rfl⟩
  | deleteConfigMap ns' name' =>
      obtain ⟨rfl, rfl⟩ := hcall
      exact ⟨rfl, Dict.get?_erase_ne _ hmap⟩

section Frame

variable {a b : ObjectKey} {w w' : Realm} {c : Call} {r : c.Reply}

/-- At the provider, a call that keeps the contract of one Service changes nothing of another. -/
theorem estate_elsewhere (happ : appOf a ≠ appOf b) (htitles : titles ⊆ owned w a)
    (hpermits : (contract config a).permits titles c) (hanswers : w.Answers c r w') :
    (appOf b ∈ w'.estate.apps ↔ appOf b ∈ w.estate.apps) ∧
      w'.estate.machineOf? (appOf b) = w.estate.machineOf? (appOf b) ∧
      w'.estate.ipOf? (appOf b) = w.estate.ipOf? (appOf b) := by
  have hprovider : ∀ pc, c.provider? = some pc → pc.app = appOf a ∧ pc.uses ⊆ titles := by
    intro pc hpc
    cases c with
    | provider pc' => cases hpc; exact hpermits
    | providerWithin limit pc' => cases hpc; exact hpermits
    | workload wc => cases hpc
    | service sc => cases hpc
  have hbeside := hanswers.beside fun pc hpc =>
    ⟨(hprovider pc hpc).1, fun t ht => Estate.Owns.within (htitles ((hprovider pc hpc).2 ht))⟩
  exact ⟨hbeside.apps _ happ, hbeside.machines _ happ, hbeside.ips _ happ⟩

/-- In the cluster, a call that keeps the contract of one Service changes nothing of another. -/
theorem cluster_elsewhere (happ : appOf a ≠ appOf b) (hdeployment : deploymentOf a ≠ deploymentOf b)
    (hpermits : (contract config a).permits titles c) (hanswers : w.Answers c r w') :
    w'.cluster.services.get? b = w.cluster.services.get? b ∧
      w'.cluster.deployments.get? ⟨config.operatorNamespace, deploymentOf b⟩ =
        w.cluster.deployments.get? ⟨config.operatorNamespace, deploymentOf b⟩ ∧
      w'.cluster.configMaps.get?
          ⟨config.operatorNamespace, Workload.configMapName (deploymentOf b)⟩ =
        w.cluster.configMaps.get?
          ⟨config.operatorNamespace, Workload.configMapName (deploymentOf b)⟩ := by
  obtain hsame | ⟨wc, rfl, hdone⟩ | ⟨sc, rfl, hdone⟩ := hanswers.cluster
  · rw [hsame]
    exact ⟨rfl, rfl, rfl⟩
  · rw [hdone, Cluster.services_performWorkload]
    exact ⟨rfl, performWorkload_elsewhere w.cluster hpermits hdeployment⟩
  · have hkey : b ≠ sc.key := by
      rw [hpermits.1]
      intro heq
      exact happ (by rw [heq])
    obtain ⟨hservices, hmaps, hdeployments⟩ := w.cluster.performService_elsewhere sc
    rw [hdone, hservices b hkey, hmaps, hdeployments]
    exact ⟨rfl, rfl, rfl⟩

/-- A call that keeps the contract of one Service leaves the slice of another alone. -/
theorem slice_of_permits (happ : appOf a ≠ appOf b) (hdeployment : deploymentOf a ≠ deploymentOf b)
    (htitles : titles ⊆ owned w a) (hpermits : (contract config a).permits titles c)
    (hanswers : w.Answers c r w') : w'.slice config b = w.slice config b := by
  obtain ⟨happs, hmachine, hip⟩ := estate_elsewhere happ htitles hpermits hanswers
  obtain ⟨hservice, hdeploy, hmap⟩ := cluster_elsewhere happ hdeployment hpermits hanswers
  simp only [Realm.slice, happs, hmachine, hip, hservice, hdeploy, hmap]

end Frame

end Isolation

/-- **Isolation.** Begin with nothing at the provider and nothing recorded, and let passes over any
Services interleave call by call, with failures anywhere and with changes by users in between. A
call of a pass over one Service changes nothing of another whose derived names differ. -/
theorem call_leaves_slice {config : TunnelConfig} {cls : String} {R : Scene.Regime}
    {s₀ s s' : Scene} {a b : ObjectKey} {c : Call} {r : c.Reply} (hfresh : s₀.Fresh)
    (hreach : Scene.Reach config cls R s₀ s) (hstep : Scene.Step config cls s (.call a c r) s')
    (happ : appOf a ≠ appOf b) (hdeployment : deploymentOf a ≠ deploymentOf b) :
    s'.realm.slice config b = s.realm.slice config b := by
  obtain ⟨titles, hholds⟩ := (Isolation.rules config cls R).sound hfresh.idle
    (Isolation.consistent_of_fresh hfresh) hreach
  cases hstep with
  | call key seen c next r realm hflight hanswers =>
      have hpermits := (hholds.keeps a _ hflight).1
      exact Isolation.slice_of_permits happ hdeployment (hholds.inv.known a) hpermits hanswers

/-- While a pass makes a machine for one Service, the tunnel of another stands as it is. -/
theorem call_leaves_slice_web :
    ∃ (s s' : Scene) (c : Call) (r : c.Reply),
      Scene.Reach sampleConfig "fly" (fun _ _ _ => True)
        (Scene.untouched (.sample ["api", "web"])) s ∧
      Scene.Step sampleConfig "fly" s (.call ⟨"default", "api"⟩ c r) s' ∧
      c.provider?.map ProviderCall.name = some "create_machine" ∧
      s.realm.estate.Bears (appOf ⟨"default", "web"⟩) ∧
      s'.realm.slice sampleConfig ⟨"default", "web"⟩ =
        s.realm.slice sampleConfig ⟨"default", "web"⟩ := by
  have hstart : Scene.Reach sampleConfig "fly" (fun _ _ _ => True)
      (Scene.untouched (.sample ["api", "web"]))
      (Scene.untouched (.sample ["api", "web"])) := .refl
  obtain ⟨w₁, seen₁, hdepicts₁, hreach₁⟩ := Scene.Reach.pass ⟨"default", "web"⟩
    (fun _ _ => trivial) (fun _ _ _ _ => trivial) hstart (Scene.depicts_untouched _) rfl 20
  obtain ⟨w₂, seen₂, hdepicts₂, hreach₂⟩ := Scene.Reach.pass ⟨"default", "api"⟩
    (fun _ _ => trivial) (fun _ _ _ _ => trivial) hreach₁ hdepicts₁
    (Function.update_of_ne (by decide) _ _) 4
  have hnext : ((((Reconcile.pass sampleConfig "fly" "default" "api").advance Site.perform 4
      ((Reconcile.pass sampleConfig "fly" "default" "web").advance Site.perform 20
        ⟨{}, .sample ["api", "web"]⟩).2).1.next?).map fun c : Call =>
          c.provider?.map ProviderCall.name) = some (some "create_machine") := by
    decide +kernel
  obtain ⟨c, hc, hname⟩ := Option.map_eq_some_iff.mp hnext
  obtain ⟨s', hstep⟩ := Scene.exists_call hdepicts₂ (Function.update_self _ _ _) hc
  have happ : appOf ⟨"default", "web"⟩ ∈ w₂.estate.apps :=
    (hdepicts₂.1.apps _).mpr (by decide +kernel)
  exact ⟨_, s', c, _, hreach₂, hstep, hname, Or.inl happ,
    call_leaves_slice (Scene.fresh_sample ["api", "web"]) hreach₂ hstep (by decide +kernel)
      (by decide +kernel)⟩

end ServiceTunnel
