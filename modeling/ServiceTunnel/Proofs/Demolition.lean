import ServiceTunnel.Proofs.Bounds
import ServiceTunnel.Proofs.Runs
import ServiceTunnel.Proofs.Standing

/-!
# ServiceTunnel.Proofs.Demolition

**Taking down tries everything, and leaves nothing else changed.** Whatever fails, every step is
tried, in one order (`Demolition.Attempts`). The addresses and the machine need not be removed one
by one: once the application is deleted, nothing of it is left, recorded or not. Since each step is
about one application, one Deployment and one ConfigMap, whatever has another name is as it was
(`teardown_complete`).
-/

namespace ServiceTunnel

open Kube Realm Simulation

/-! ### What is tried -/

namespace Demolition

/-- The release of addresses: of the recorded one, or of all that are listed. -/
inductive Releases (app : String) : Option String → List Call.interface.Event → Prop where
  | recorded (id : String) (r : Except ProviderError Unit) :
    Releases app (some id) [⟨.provider (.releaseIp app id), r⟩]
  | listed (ips : List IpAddress) (rest : List Call.interface.Event)
    (hrest : rest.map (·.call) = ips.map fun ip => Call.provider (.releaseIp app ip.id)) :
    Releases app none (⟨.provider (.listIps app), .ok ips⟩ :: rest)
  | unlisted (e : ProviderError) : Releases app none [⟨.provider (.listIps app), .error e⟩]

/-- All that taking down tries, in order. -/
inductive Attempts (ns app name : String) (record : TunnelRecord) :
    List Call.interface.Event → Prop where
  | mk (rd rc : Except OperatorError Unit) (releases machine : List Call.interface.Event)
    (ra : Except ProviderError Unit) (hreleases : Releases app record.ipId releases)
    (hmachine : machine.map (·.call) =
      (record.machineId.map fun id => Call.provider (.deleteMachine app id)).toList) :
    Attempts ns app name record
      ([⟨.workload (.deleteDeployment ns name), rd⟩,
        ⟨.workload (.deleteConfigMap ns (Workload.configMapName name)), rc⟩] ++
      releases ++ machine ++ [⟨.provider (.deleteApp app), ra⟩])

/-- The deletion of a Deployment, a ConfigMap or an application fails. -/
def refused : Call.interface.Event → Bool
  | ⟨.workload (.deleteDeployment _ _), r⟩ | ⟨.workload (.deleteConfigMap _ _), r⟩ =>
    !(r : Except OperatorError Unit).isOk
  | ⟨.provider (.deleteApp _), r⟩ => !(r : Except ProviderError Unit).isOk
  | _ => false

section Order

open Program Lifecycle

variable {answers : Realm → (c : Call) → c.Reply → Realm → Prop} {w w' : Realm} {app : String}
  {events : List Call.interface.Event}

theorem runs_attempt {p : Operation (Except OperatorError Unit)} :
    (attempt p).Runs answers w events () w' ↔ ∃ r, p.Runs answers w events r w' := by
  constructor
  · intro h
    obtain ⟨first, rest, r, m, rfl, hfirst, hrest⟩ := runs_bind.mp h
    obtain ⟨rfl, -, rfl⟩ := runs_done.mp hrest
    exact ⟨r, by rw [List.append_nil]; exact hfirst⟩
  · rintro ⟨r, h⟩
    exact runs_bind.mpr ⟨events, [], r, w', (List.append_nil _).symm, h, .done _ _⟩

/-- An attempt makes its call, and what follows is done whatever the answer is. -/
theorem runs_attempt_workload {α : Type} {c : WorkloadCall} {f : Unit → Operation α} {a : α} :
    ((attempt (Operation.workload c)).bind f).Runs answers w events a w' ↔
      ∃ r rest m, events = ⟨.workload c, r⟩ :: rest ∧ answers w (.workload c) r m ∧
        (f ()).Runs answers m rest a w' := by
  constructor
  · intro h
    obtain ⟨first, rest, _, m, rfl, hfirst, hrest⟩ := runs_bind.mp h
    obtain ⟨r, hfirst⟩ := runs_attempt.mp hfirst
    obtain ⟨rfl, hanswers⟩ := Operation.runs_workload.mp hfirst
    exact ⟨r, rest, m, rfl, hanswers, hrest⟩
  · rintro ⟨r, rest, m, rfl, hanswers, hrest⟩
    exact .call hanswers hrest

theorem calls_releaseAll {ips : List IpAddress}
    (h : (releaseAll app ips).Runs answers w events () w') :
    events.map (·.call) = ips.map fun ip => Call.provider (.releaseIp app ip.id) := by
  induction ips generalizing w events with
  | nil =>
      obtain ⟨rfl, -, -⟩ := runs_done.mp h
      rfl
  | cons ip rest ih =>
      obtain ⟨first, later, _, m, rfl, hfirst, hlater⟩ := runs_bind.mp h
      obtain ⟨a, hfirst⟩ := runs_attempt.mp hfirst
      obtain ⟨r, rfl, -, -⟩ := Operation.runs_provider.mp hfirst
      exact congrArg _ (ih hlater)

theorem releases_of_runs {recorded : Option String}
    (h : (releaseAddresses app recorded).Runs answers w events () w') :
    Releases app recorded events := by
  cases recorded with
  | some id =>
      obtain ⟨a, h⟩ := runs_attempt.mp h
      obtain ⟨r, rfl, -, -⟩ := Operation.runs_provider.mp h
      exact .recorded id r
  | none =>
      obtain ⟨first, rest, a, m, rfl, hfirst, hrest⟩ := runs_bind.mp h
      obtain ⟨r, rfl, rfl, -⟩ := Operation.runs_provider.mp hfirst
      cases r with
      | ok ips => exact .listed ips rest (calls_releaseAll hrest)
      | error e =>
          obtain ⟨rfl, -, -⟩ := runs_done.mp hrest
          exact .unlisted e

theorem calls_deleteMachine {recorded : Option String}
    (h : (deleteMachine app recorded).Runs answers w events () w') :
    events.map (·.call) =
      (recorded.map fun id => Call.provider (.deleteMachine app id)).toList := by
  cases recorded with
  | some id =>
      obtain ⟨a, h⟩ := runs_attempt.mp h
      obtain ⟨r, rfl, -, -⟩ := Operation.runs_provider.mp h
      rfl
  | none =>
      obtain ⟨rfl, -, -⟩ := runs_done.mp h
      rfl

/-- Taking down makes its calls in their order, whatever becomes of them. -/
theorem runs_teardown {config : TunnelConfig} {service : Service}
    (h : (teardown config service).Runs answers w events () w') :
    ∃ rd rc ra w₁ w₂ w₃ w₄ releases machine,
      events = [⟨.workload (.deleteDeployment config.operatorNamespace service.deploymentName), rd⟩,
          ⟨.workload (.deleteConfigMap config.operatorNamespace
            (Workload.configMapName service.deploymentName)), rc⟩] ++
        releases ++ machine ++ [⟨.provider (.deleteApp service.appName), ra⟩] ∧
      answers w (.workload (.deleteDeployment config.operatorNamespace service.deploymentName)) rd
        w₁ ∧
      answers w₁ (.workload (.deleteConfigMap config.operatorNamespace
        (Workload.configMapName service.deploymentName))) rc w₂ ∧
      (releaseAddresses service.appName (TunnelRecord.ofService service).ipId).Runs answers w₂
        releases () w₃ ∧
      (deleteMachine service.appName (TunnelRecord.ofService service).machineId).Runs answers w₃
        machine () w₄ ∧
      answers w₄ (.provider (.deleteApp service.appName)) ra w' := by
  obtain ⟨rd, rest₁, w₁, rfl, hdeployment, h₁⟩ := runs_attempt_workload.mp h
  obtain ⟨rc, rest₂, w₂, rfl, hmap, h₂⟩ := runs_attempt_workload.mp h₁
  obtain ⟨releases, rest₃, _, w₃, rfl, hreleases, h₃⟩ := runs_bind.mp h₂
  obtain ⟨machine, last, _, w₄, rfl, hmachine, h₄⟩ := runs_bind.mp h₃
  obtain ⟨a, hlast⟩ := runs_attempt.mp h₄
  obtain ⟨ra, rfl, -, hdelete⟩ := Operation.runs_provider.mp hlast
  refine ⟨rd, rc, ra, w₁, w₂, w₃, w₄, releases, machine, ?_, hdeployment, hmap, hreleases, hmachine,
    hdelete⟩
  simp only [List.cons_append, List.nil_append, List.append_assoc]
  rfl

end Order

/-! ### What is left, and what is left alone -/

/-- Every call is permitted, and answered as the realm may answer it. -/
def contract : Contract Call.interface Realm := ⟨fun _ _ => True, Realm.Answers⟩

theorem realistic : contract.Realistic := ⟨fun _ _ => trivial, fun _ _ _ _ => id⟩

/-- The provider differs in one application at most, and the cluster is as it was. -/
def Kept (app : String) (e : Estate) (titles : Set Title) (cluster : Cluster) (w : Realm) : Prop :=
  w.Bounded app e titles ∧ w.cluster = cluster

section Frame

variable {app : String} {e : Estate} {titles : Set Title} {cluster : Cluster} {w : Realm}

theorem allows_kept {pc : ProviderCall} (happ : pc.app = app) (huses : pc.uses ⊆ titles) :
    contract.Allows (Kept app e titles cluster) (.provider pc) :=
  fun w hw => ⟨trivial, fun r w' hr =>
    ⟨(realistic.allows_provider happ huses w hw.1).2 r w' hr, hr.2.trans hw.2⟩⟩

/-- Addresses that are listed are those of the application, so releasing them goes no further. -/
theorem stable_releaseAddresses {recorded : Option String}
    (hrecorded : ∀ id, recorded = some id → Title.ip id ∈ titles) :
    (Lifecycle.releaseAddresses app recorded).Stable contract (Kept app e titles cluster) := by
  cases recorded with
  | some id =>
      exact Lifecycle.stable_attempt (Operation.stable_provider
        (allows_kept rfl (Set.singleton_subset_iff.mpr (hrecorded id rfl))))
  | none =>
      refine fun w hw => ⟨trivial, fun (r : Except ProviderError (List IpAddress)) w' hr => ?_⟩
      have hlist : contract.Allows (Kept app e titles cluster) (.provider (.listIps app)) :=
        allows_kept rfl (Set.empty_subset _)
      have hkept := (hlist w hw).2 r w' hr
      cases r with
      | error x => exact hkept
      | ok ips =>
          obtain ⟨⟨-, hlisted, hsame⟩, -⟩ := hr
          have hwithin : ∀ t ∈ {t | ∃ ip ∈ ips, t = Title.ip ip.id}, w'.estate.Within app t := by
            rintro t ⟨ip, hip, rfl⟩
            show (w'.estate.ips ip.id).Within app
            rw [hsame, Slot.of?_eq_some.mp ((hlisted ip).mp hip)]
            exact rfl
          have hreleases : (Lifecycle.releaseAll app ips).Stable contract
              (Kept app e (titles ∪ {t | ∃ ip ∈ ips, t = Title.ip ip.id}) cluster) :=
            Lifecycle.stable_releaseAll fun ip hip => allows_kept rfl
              (Set.singleton_subset_iff.mpr (Or.inr ⟨ip, hip, rfl⟩))
          refine (hreleases w' ⟨hkept.1.union hwithin, hkept.2⟩).imp fun _ w'' hkept' => ?_
          exact ⟨hkept'.1.mono Set.subset_union_left, hkept'.2⟩

theorem stable_deleteMachine {recorded : Option String}
    (hrecorded : ∀ id, recorded = some id → Title.machine id ∈ titles) :
    (Lifecycle.deleteMachine app recorded).Stable contract (Kept app e titles cluster) :=
  Lifecycle.stable_deleteMachine fun id hid =>
    allows_kept rfl (Set.singleton_subset_iff.mpr (hrecorded id hid))

end Frame

/-- No Deployment, ConfigMap, application, machine or address is left under the names, and nothing
else has changed. -/
structure Razed (ns app name : String) (w w' : Realm) : Prop where
  deployment : w'.cluster.deployments.get? ⟨ns, name⟩ = none
  configMap : w'.cluster.configMaps.get? ⟨ns, Workload.configMapName name⟩ = none
  nothing : ¬ w'.estate.Bears app
  deployments : ∀ key, key ≠ ⟨ns, name⟩ →
    w'.cluster.deployments.get? key = w.cluster.deployments.get? key
  configMaps : ∀ key, key ≠ ⟨ns, Workload.configMapName name⟩ →
    w'.cluster.configMaps.get? key = w.cluster.configMaps.get? key
  services : w'.cluster.services = w.cluster.services
  beside : w.estate.Beside app w'.estate

theorem eq_ok {ε : Type} {r : Except ε Unit} (h : (!r.isOk) = false) : r = .ok () := by
  cases r with
  | ok => rfl
  | error e => cases h

end Demolition

/-- The identifiers in a record. -/
def TunnelRecord.titles (r : TunnelRecord) : Set Title := fun
  | .machine id => r.machineId = some id
  | .ip id => r.ipId = some id

/-- **Taking down is complete, best effort and local.** Taking down tries every step in order,
whatever fails. If the recorded identifiers stand for nothing outside the Service's application, and
the deletions of the Deployment, the ConfigMap and the application succeed, then nothing is left
under these names, whether it was recorded or not and whatever else failed, and everything under
other names is as it was. -/
theorem teardown_complete {config : TunnelConfig} {service : Service} {w w' : Realm}
    {events : List Call.interface.Event}
    (hrecorded : ∀ t ∈ (TunnelRecord.ofService service).titles,
      w.estate.Within service.appName t)
    (hrun : (Lifecycle.teardown config service).Runs Realm.Answers w events () w') :
    Demolition.Attempts config.operatorNamespace service.appName service.deploymentName
        (TunnelRecord.ofService service) events ∧
      ((∀ event ∈ events, Demolition.refused event = false) →
        Demolition.Razed config.operatorNamespace service.appName service.deploymentName w w') := by
  obtain ⟨rd, rc, ra, w₁, w₂, w₃, w₄, releases, machine, rfl, hdeployment, hmap, hreleases,
    hmachine, hdelete⟩ := Demolition.runs_teardown hrun
  refine ⟨.mk rd rc releases machine ra (Demolition.releases_of_runs hreleases)
    (Demolition.calls_deleteMachine hmachine), fun hsucceeds => ?_⟩
  -- the three deletions have succeeded
  simp only [List.forall_mem_append, List.forall_mem_cons] at hsucceeds
  obtain ⟨⟨⟨⟨hrd, hrc, -⟩, -⟩, -⟩, hra, -⟩ := hsucceeds
  obtain rfl : rd = .ok () := Demolition.eq_ok hrd
  obtain rfl : rc = .ok () := Demolition.eq_ok hrc
  obtain rfl : ra = .ok () := Demolition.eq_ok hra
  have hclient : w₂.Bounded service.appName w.estate (TunnelRecord.ofService service).titles :=
    ((bounded_refl hrecorded).answers hdeployment nofun).answers hmap nofun
  have hreleased := hreleases.keeps_self (Demolition.stable_releaseAddresses (fun _ hid => hid) w₂
    ⟨hclient, rfl⟩) fun _ _ _ _ _ => id
  have hremoved := hmachine.keeps_self (Demolition.stable_deleteMachine (fun _ hid => hid) w₃
    hreleased) fun _ _ _ _ _ => id
  obtain ⟨hgone, hbeside⟩ := hremoved.1.deleted hdelete
  have hcluster : w'.cluster = (w.cluster.performWorkload
      (.deleteDeployment config.operatorNamespace service.deploymentName)).performWorkload
      (.deleteConfigMap config.operatorNamespace
        (Workload.configMapName service.deploymentName)) := by
    rw [hdelete.2, hremoved.2, hmap.cluster_of_ok, hdeployment.cluster_of_ok]
  refine ⟨?_, ?_, hgone, ?_, ?_, ?_, hbeside⟩ <;> rw [hcluster]
  · exact Dict.get?_erase_self _ _
  · exact Dict.get?_erase_self _ _
  · exact fun key hkey => Dict.get?_erase_ne _ hkey
  · exact fun key hkey => Dict.get?_erase_ne _ hkey
  · rfl

/-- A pass has set a tunnel up that it could not record. Its address is not listed, and yet all of
it is taken down. -/
theorem teardown_complete_web :
    let v := { World.sample ["web"] with
      providerRules := [⟨"list_ips", 0, none, .api 500 "internal error"⟩]
      clusterRules := [⟨"patch_annotations", 0, none, .kubeApi "etcdserver: request timed out"⟩] }
    let left := (v.run (Reconcile.pass sampleConfig "fly" "default" "web")).2
    let takeDown := Lifecycle.teardown sampleConfig (sampleService "web")
    ∃ w w', left.site.Depicts w ∧ w.estate.Bears (sampleService "web").appName ∧
      takeDown.Runs Realm.Answers w (left.events takeDown) () w' ∧
      Demolition.Razed "tunnels" (sampleService "web").appName
        (sampleService "web").deploymentName w w' := by
  intro v left takeDown
  have hsucceeds : ∀ event ∈ left.events takeDown, Demolition.refused event = false := by
    decide +kernel
  have hleft : (left.cloud.machineOf? (sampleService "web").appName "m1").isSome = true := by
    decide +kernel
  obtain ⟨w, hdepicts, hhooks⟩ : ∃ w, left.site.Depicts w ∧ left.hooks = [] := by
    obtain ⟨w, -, hleft⟩ := World.runs (v := v) (Scene.depicts_untouched _) rfl
      (Reconcile.pass sampleConfig "fly" "default" "web")
    exact ⟨w, hleft⟩
  clear_value left
  obtain ⟨w', hruns, -, -⟩ := World.runs hdepicts hhooks takeDown
  have hanswers := hruns.mono fun _ _ _ _ => Realm.Honest.answers
  obtain ⟨m, hm⟩ := Option.isSome_iff_exists.mp hleft
  have hmachine := (hdepicts.1.machineOf? _ _).trans hm
  have hrecorded : ∀ t ∈ (TunnelRecord.ofService (sampleService "web")).titles,
      w.estate.Within (sampleService "web").appName t := by
    intro t ht
    cases t <;> cases ht
  exact ⟨w, w', hdepicts, Or.inr (Or.inl ⟨"m1", m, hmachine⟩), hanswers,
    (teardown_complete hrecorded hanswers).2 hsucceeds⟩

end ServiceTunnel
