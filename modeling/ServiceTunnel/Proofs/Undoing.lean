import ServiceTunnel.Proofs.Bounds
import ServiceTunnel.Proofs.Runs

/-!
# ServiceTunnel.Proofs.Undoing

**What setting up that fails leaves behind.** An application that is there already is as good as one
that is made, so undoing deletes it too. Everything that existed before is left as it was, unless
the application is deleted: then it goes with all that it had, and nothing else goes
(`provision_spares`). In the cluster nothing is undone. A client is written in two steps, and if the
second one fails, the first one stays: the ConfigMap is the one thing that a failed attempt may
leave (`provision_leaves`).
-/

namespace ServiceTunnel

open Kube Simulation

/-! ### What was there before -/

namespace ProviderCall

/-- A call that changes and deletes only what it acts on by its identifier. -/
def Spares : ProviderCall → Prop
  | .deleteApp _ | .updateMachine .. => False
  | _ => True

end ProviderCall

namespace Estate

/-- Everything that exists in `e` exists unchanged in `e'`. -/
structure Remains (e e' : Estate) : Prop where
  apps : e.apps ⊆ e'.apps
  machines : ∀ app id m, e.machineOf? app id = some m → e'.machineOf? app id = some m
  ips : ∀ app id ip, e.ipOf? app id = some ip → e'.ipOf? app id = some ip

/-- An identifier stands for nothing. -/
def Vacant (e : Estate) : Title → Prop
  | .machine id => ∀ app, e.machineOf? app id = none
  | .ip id => ∀ app, e.ipOf? app id = none

namespace Remains

variable {e₀ e e' : Estate}

theorem refl (e : Estate) : e.Remains e :=
  ⟨subset_rfl, fun _ _ _ => id, fun _ _ _ => id⟩

/-- What is given out later did not stand for anything at first. -/
theorem vacant_machine (h : e₀.Remains e) {id : String} (hnew : e.machines id = .unissued) :
    e₀.Vacant (.machine id) := by
  refine fun app => Option.eq_none_iff_forall_ne_some.mpr fun m hm => ?_
  have hheld := Slot.of?_eq_some.mp (h.machines app id m hm)
  rw [hnew] at hheld
  cases hheld

theorem vacant_ip (h : e₀.Remains e) {id : String} (hnew : e.ips id = .unissued) :
    e₀.Vacant (.ip id) := by
  refine fun app => Option.eq_none_iff_forall_ne_some.mpr fun ip hip => ?_
  have hheld := Slot.of?_eq_some.mp (h.ips app id ip hip)
  rw [hnew] at hheld
  cases hheld

theorem setMachine (h : e₀.Remains e) {id : String} (hid : e₀.Vacant (.machine id))
    (s : Slot Machine) : e₀.Remains (e.setMachine id s) := by
  refine ⟨h.apps, fun app other m hm => ?_, h.ips⟩
  have hne : other ≠ id := by
    rintro rfl
    rw [hid app] at hm
    cases hm
  rw [machineOf?, machines_setMachine_ne e hne]
  exact h.machines app other m hm

theorem setIp (h : e₀.Remains e) {id : String} (hid : e₀.Vacant (.ip id)) (s : Slot IpAddress) :
    e₀.Remains (e.setIp id s) := by
  refine ⟨h.apps, h.machines, fun app other ip hip => ?_⟩
  have hne : other ≠ id := by
    rintro rfl
    rw [hid app] at hip
    cases hip
  rw [ipOf?, ips_setIp_ne e hne]
  exact h.ips app other ip hip

/-- A call that acts on nothing of what was there leaves all of it. -/
theorem carries (h : e₀.Remains e) {c : ProviderCall} {r : c.Result}
    (hcarries : e.Carries c r e') (hspares : c.Spares) (huses : ∀ t ∈ c.uses, e₀.Vacant t) :
    e₀.Remains e' := by
  cases c with
  | ensureApp app org =>
      cases hcarries
      exact ⟨h.apps.trans (Set.subset_insert _ _), h.machines, h.ips⟩
  | deleteApp | updateMachine => exact hspares.elim
  | createMachine app input =>
      obtain ⟨-, hnew, -, rfl⟩ := hcarries
      exact h.setMachine (h.vacant_machine hnew) _
  | getMachine app id => obtain ⟨-, rfl⟩ := hcarries; exact h
  | deleteMachine app id => cases hcarries; exact h.setMachine (huses _ rfl) _
  | waitForMachine app id inst state seconds =>
      obtain ⟨owner, m, -, rfl⟩ := hcarries
      exact h.setMachine (huses _ rfl) _
  | allocateIp app =>
      obtain ⟨-, hnew, rfl⟩ := hcarries
      exact h.setIp (h.vacant_ip hnew) _
  | releaseIp app id => cases hcarries; exact h.setIp (huses _ rfl) _
  | listIps app => obtain ⟨-, -, rfl⟩ := hcarries; exact h

end Remains

end Estate

/-! ### At the provider -/

namespace Undoing

/-- What existed at first is as it was, the provider differs in one application at most, and titles
stand for things that were made since. -/
structure Kept (app : String) (e : Estate) (titles : Set Title) (w : Realm) : Prop where
  bounded : w.Bounded app e titles
  remains : e.Remains w.estate
  vacant : ∀ t ∈ titles, e.Vacant t

section Provider

variable {config : TunnelConfig} {service : Service} {app name : String} {e : Estate}
  {titles : Set Title} {w w' : Realm} {c : Call} {r : c.Reply}

theorem kept_refl (app : String) (w : Realm) : Kept app w.estate ∅ w :=
  ⟨Realm.bounded_refl fun _ ht => ht.elim, .refl _, fun _ ht => ht.elim⟩

theorem Kept.answers (h : Kept app e titles w) (hanswers : w.Answers c r w')
    (hc : ∀ pc, c.provider? = some pc → pc.app = app ∧ pc.uses ⊆ titles ∧ pc.Spares) :
    Kept app e titles w' := by
  refine ⟨h.bounded.answers hanswers fun pc hpc => ?_, ?_, h.vacant⟩
  · obtain ⟨happ, huses, -⟩ := hc pc hpc
    exact ⟨happ, huses⟩
  · obtain hsame | ⟨pc, a, hpc, hcarries⟩ := hanswers.estate
    · rw [hsame]
      exact h.remains
    · obtain ⟨-, huses, hspares⟩ := hc pc hpc
      exact h.remains.carries hcarries hspares fun t ht => h.vacant t (huses ht)

/-- What undoing comes to: all is as it was, or the application has been deleted, and its deletion
is the only loss. -/
def Undone (app : String) (e : Estate) (events : List Call.interface.Event) (w : Realm) : Prop :=
  e.Beside app w.estate ∧ (e.Remains w.estate ∨
    (∃ r, ⟨.provider (.deleteApp app), r⟩ ∈ events) ∧ ¬ w.estate.Bears app)

theorem Kept.undone (h : Kept app e titles w) (events : List Call.interface.Event) :
    Undone app e events w :=
  ⟨h.bounded.beside, Or.inl h.remains⟩

theorem allows_kept (hc : ∀ pc, c.provider? = some pc →
      pc.app = app ∧ pc.uses ⊆ titles ∧ pc.Spares) :
    (Program.logging Realm.Answers).Allows (fun x => Kept app e titles x.1) c :=
  fun _ hx => ⟨trivial, fun _ _ hr => hx.answers hr.1 hc⟩

theorem allows_provider {pc : ProviderCall} (happ : pc.app = app) (huses : pc.uses ⊆ titles)
    (hspares : pc.Spares) :
    (Program.logging Realm.Answers).Allows (fun x => Kept app e titles x.1) (.provider pc) :=
  allows_kept fun _ hpc => by
    cases hpc
    exact ⟨happ, huses, hspares⟩

theorem allows_wait {limit : Nat} {id instanceId state : String} {seconds : Nat}
    (hid : .machine id ∈ titles) :
    (Program.logging Realm.Answers).Allows (fun x => Kept app e titles x.1)
      (.providerWithin limit (.waitForMachine app id instanceId state seconds)) :=
  allows_kept fun _ hpc => by
    cases hpc
    exact ⟨rfl, Set.singleton_subset_iff.mpr hid, trivial⟩

theorem allows_workload (wc : WorkloadCall) :
    (Program.logging Realm.Answers).Allows (fun x => Kept app e titles x.1) (.workload wc) :=
  allows_kept nofun

/-- A call that makes something adds it to what is to be undone. -/
theorem asks_kept {pc : ProviderCall} {more : pc.Result → Title} {gained : pc.Result → Set Title}
    (happ : pc.app = app) (huses : pc.uses ⊆ titles) (hspares : pc.Spares)
    (hmore : ∀ {e₀ e e' : Estate} {a : pc.Result}, e₀.Remains e → e.Carries pc a e' →
      e'.Owns app (more a) ∧ e₀.Vacant (more a))
    (hgained : ∀ a, gained a = titles ∪ {more a}) :
    (Program.logging Realm.Answers).Asks (fun x => Kept app e titles x.1) pc
      (fun a x => Kept app e (gained a) x.1) fun x => Kept app e titles x.1 := by
  refine fun x hx => ⟨trivial, fun r x' hr => ?_⟩
  have hkept := (allows_provider happ huses hspares x hx).2 r x' hr
  cases r with
  | ok a =>
      obtain ⟨howns, hvacant⟩ := hmore hx.remains hr.1.1
      show Kept app e (gained a) x'.1
      rw [hgained]
      refine ⟨hkept.bounded.union fun t ht => ?_, hkept.remains, fun t ht => ?_⟩
      · obtain rfl : t = more a := ht
        exact howns.within
      · obtain ht | rfl : t ∈ titles ∨ t = more a := ht
        · exact hkept.vacant t ht
        · exact hvacant
  | error e => exact hkept

/-- An application that is deleted goes with all that it had, if the deletion has come through. -/
theorem asks_deleteApp : (Program.logging Realm.Answers).Asks
    (fun x => Kept app e titles x.1) (.deleteApp app) (fun _ x => Undone app e x.2 x.1)
      fun x => Undone app e x.2 x.1 := by
  refine fun x hx => ⟨trivial, fun r x' hr => ?_⟩
  have hundone : Undone app e x'.2 x'.1 := by
    have htried : ⟨.provider (.deleteApp app), r⟩ ∈ x'.2 := by
      rw [hr.2]
      exact List.mem_append_right _ (List.mem_singleton_self _)
    obtain hsame | ⟨pc, a, hpc, hcarries⟩ := hr.1.estate
    · rw [Undone, hsame]
      exact hx.undone _
    · cases hpc
      have hdeleted : x'.1.estate = x.1.estate.withoutApp app := hcarries
      rw [Undone, hdeleted]
      exact ⟨hx.bounded.beside.withoutApp,
        Or.inr ⟨⟨r, htried⟩, x.1.estate.not_bears_withoutApp app⟩⟩
  cases r <;> exact hundone

/-- Setting up within one application, whatever exists of it. -/
def rollback (config : TunnelConfig) (service : Service) (app name : String) (e : Estate) :
    Lifecycle.Rollback (Program.logging Realm.Answers) config service app name where
  before x := x.1.estate = e
  founded x := Kept app e ∅ x.1
  made machine x := Kept app e {Title.machine machine.id} x.1
  allocated machine ip x := Kept app e {Title.machine machine.id, Title.ip ip.id} x.1
  ready machine ip x := Kept app e {Title.machine machine.id, Title.ip ip.id} x.1
  failed titles x := Kept app e titles x.1
  undone x := Undone app e x.2 x.1
  founds x hx := by
    subst hx
    have hensures : (Program.logging Realm.Answers).Allows
        (fun x' => Kept app x.1.estate ∅ x'.1) (.provider (.ensureApp app config.flyOrg)) :=
      allows_provider rfl subset_rfl trivial
    refine ⟨trivial, fun (r : Except ProviderError Unit) x' hr => ?_⟩
    have hkept := (hensures x (kept_refl app x.1)).2 r x' hr
    cases r with
    | ok => exact hkept
    | error e => exact hkept.undone _
  creates := asks_kept rfl subset_rfl trivial
    (fun hremains hcarries => ⟨hcarries.owns_machine, hremains.vacant_machine hcarries.2.1⟩)
    fun _ => (Set.empty_union _).symm
  waits _ _ hx := (Lifecycle.stable_waitStarted
    (allows_wait (Set.mem_singleton _))).outcome hx fun _ h => h
  allocates _ := asks_kept rfl (Set.empty_subset _) trivial
    (fun hremains hcarries => ⟨hcarries.owns_ip, hremains.vacant_ip hcarries.2.1⟩) fun _ => rfl
  applies _ _ _ _ _ hx := (Lifecycle.stable_applyWorkload (allows_workload _)
    (allows_workload _)).outcome hx fun _ h => h
  deletesMachine _ _ hid := allows_provider rfl (Set.singleton_subset_iff.mpr hid) trivial
  releasesIp _ _ hid := allows_provider rfl (Set.singleton_subset_iff.mpr hid) trivial
  deletesApp _ := asks_deleteApp

end Provider

end Undoing

/-- **Undoing spares what was there before, or deletes the application with all of it.** Setting up
ends with an error, whatever exists at the provider and whatever fails, carried out or not. Then
nothing of any other application has changed. Of the Service's application, everything that existed
before exists unchanged, unless the application was to be deleted: then it may be gone with
everything in it, but never in part. -/
theorem provision_spares {config : TunnelConfig} {service : Service} {w w' : Realm}
    {events : List Call.interface.Event} {e : OperatorError}
    (hrun : (Lifecycle.provision config service).Runs Realm.Answers w events (.error e) w') :
    w.estate.Beside (Name.ofService .app service) w'.estate ∧
      (w.estate.Remains w'.estate ∨
        (∃ r, ⟨.provider (.deleteApp (Name.ofService .app service)), r⟩ ∈ events) ∧
          ¬ w'.estate.Bears (Name.ofService .app service)) := by
  have hkeeps := (Undoing.rollback config service _ _ w.estate).keeps_provision rfl rfl
    (s := (w, [])) rfl
  obtain ⟨-, hsame⟩ | hundone := hrun.keeps_logging hkeeps
  · have hsame : w'.estate = w.estate := hsame
    rw [hsame]
    exact ⟨.refl _ _, Or.inl (.refl _)⟩
  · exact hundone

theorem exists_error {ε α : Type} {r : Except ε α} (h : r.isOk = false) : ∃ e, r = .error e := by
  cases r with
  | ok a => cases h
  | error e => exact ⟨e, rfl⟩

/-- A tunnel stands that was never recorded. Another attempt fails, and its undoing fails too: the
tunnel is left as it was. -/
theorem provision_spares_web :
    let setUp := Lifecycle.provision sampleConfig (sampleService "web")
    let v := { World.sample ["web"] with providerRules := [
      ⟨"create_machine", 1, none, .api 500 "internal error"⟩,
      ⟨"delete_app", 0, none, .api 500 "internal error"⟩] }
    let left := (v.run setUp).2
    ∃ e w w', w.estate.Bears (Name.ofService .app (sampleService "web")) ∧
      setUp.Runs Realm.Answers w (left.events setUp) (.error e) w' ∧
      w.estate.Remains w'.estate := by
  intro setUp v left
  have happ : Name.ofService .app (sampleService "web") = "fly-tunnel-default-web" := by
    decide +kernel
  have hattempts : left.cloud.apps.contains "fly-tunnel-default-web" = true ∧
      (left.run setUp).1.isOk = false ∧
      (left.run setUp).2.cloud.apps.contains "fly-tunnel-default-web" = true := by decide +kernel
  obtain ⟨hstands, hfails, hstill⟩ := hattempts
  obtain ⟨w, w', hdepicts, hruns, hends⟩ : ∃ w w', left.site.Depicts w ∧
      setUp.Runs Realm.Honest w (left.events setUp) (left.run setUp).1 w' ∧
      (left.run setUp).2.site.Depicts w' :=
    World.runs_after (v := v) (Scene.depicts_untouched _) rfl setUp setUp
  clear_value left
  obtain ⟨e, hresult⟩ := exists_error hfails
  rw [hresult] at hruns
  have hanswers := hruns.mono fun _ _ _ _ => Realm.Honest.answers
  refine ⟨e, w, w', Or.inl ?_, hanswers, ?_⟩
  · rw [happ]
    exact (hdepicts.1.apps _).mpr hstands
  · refine (provision_spares hanswers).2.resolve_right fun hdeleted => hdeleted.2 (Or.inl ?_)
    rw [happ]
    exact (hends.1.apps _).mpr hstill

/-- A tunnel stands that was never recorded. Another attempt fails before it has made anything, and
its undoing deletes the tunnel with its application. -/
theorem found_application_deleted :
    ¬ ∀ (config : TunnelConfig) (service : Service) (w w' : Realm)
      (events : List Call.interface.Event) (e : OperatorError),
      (Lifecycle.provision config service).Runs Realm.Honest w events (.error e) w' →
        w.estate.Remains w'.estate := by
  intro hspares
  let setUp := Lifecycle.provision sampleConfig (sampleService "web")
  let v := { World.sample ["web"] with
    providerRules := [⟨"create_machine", 1, none, .api 500 "internal error"⟩] }
  let left := (v.run setUp).2
  have hattempts : left.cloud.apps.contains "fly-tunnel-default-web" = true ∧
      (left.run setUp).1.isOk = false ∧
      (left.run setUp).2.cloud.apps.contains "fly-tunnel-default-web" = false := by decide +kernel
  obtain ⟨hstands, hfails, hgone⟩ := hattempts
  obtain ⟨w, w', hdepicts, hruns, hends⟩ : ∃ w w', left.site.Depicts w ∧
      setUp.Runs Realm.Honest w (left.events setUp) (left.run setUp).1 w' ∧
      (left.run setUp).2.site.Depicts w' :=
    World.runs_after (v := v) (Scene.depicts_untouched _) rfl setUp setUp
  clear_value left
  obtain ⟨e, hresult⟩ := exists_error hfails
  rw [hresult] at hruns
  have hremains := hspares _ _ w w' _ e hruns
  have hkept := (hends.1.apps _).mp (hremains.apps ((hdepicts.1.apps _).mpr hstands))
  exact Bool.false_ne_true (hgone.symm.trans hkept)

/-! ### In the cluster -/

/-- A call is answered, and one to the provider or about a client has no effect if it fails. -/
structure Realm.Clean (w : Realm) (c : Call) (r : c.Reply) (w' : Realm) : Prop where
  honest : w.Honest c r w'
  unwritten : ∀ wc, c = .workload wc → c.Fails r → w'.cluster = w.cluster

namespace Undoing

/-- The ConfigMap that is stored. -/
def stored? : Call.interface.Event → Option ConfigMap
  | ⟨.workload (.applyConfigMap m), r⟩ =>
    if (r : Except OperatorError Unit).isOk then some m else none
  | _ => none

/-- The objects of clients are as they were, or there is a ConfigMap `key` more. -/
inductive Leaves (key : ObjectKey) (before after : Cluster) : List ConfigMap → Prop where
  | nothing (hdeployments : after.deployments = before.deployments)
    (hconfigMaps : after.configMaps = before.configMaps) : Leaves key before after []
  | configMap (m : ConfigMap) (hkey : m.metadata.key = key)
    (hdeployments : after.deployments = before.deployments)
    (hconfigMaps : after.configMaps = before.configMaps.insert key m) :
    Leaves key before after [m]

section Cluster

variable {config : TunnelConfig} {service : Service} {app name : String} {key : ObjectKey}
  {before : Cluster}

/-- A condition on the cluster and on what has been stored in it. -/
def Seen (P : Cluster → List ConfigMap → Prop) (x : Realm × List Call.interface.Event) : Prop :=
  P x.1.cluster (x.2.filterMap stored?)

/-- A call to the provider stores nothing in the cluster. -/
theorem allows_seen {P : Cluster → List ConfigMap → Prop} {c : Call} {pc : ProviderCall}
    (hc : c.provider? = some pc) : (Program.logging Realm.Clean).Allows (Seen P) c := by
  refine fun x hx => ⟨trivial, fun r x' hr => ?_⟩
  have hcluster : x'.1.cluster = x.1.cluster := by
    obtain hsame | ⟨wc, rfl, -⟩ | ⟨sc, rfl, -⟩ := hr.1.honest.answers.cluster
    · exact hsame
    · cases hc
    · cases hc
  have hstored : stored? ⟨c, r⟩ = none := by
    cases c with
    | provider | providerWithin | service => rfl
    | workload wc => cases hc
  rw [Seen, hcluster, hr.2, List.filterMap_append, List.filterMap_cons_none hstored,
    List.filterMap_nil, List.append_nil]
  exact hx

/-- Nothing is stored yet. -/
def Untouched (before after : Cluster) (ms : List ConfigMap) : Prop :=
  ms = [] ∧ after.deployments = before.deployments ∧ after.configMaps = before.configMaps

theorem Untouched.leaves {after : Cluster} {ms : List ConfigMap}
    (h : Untouched before after ms) (key : ObjectKey) : Leaves key before after ms := by
  obtain ⟨rfl, hdeployments, hconfigMaps⟩ := h
  exact .nothing hdeployments hconfigMaps

theorem asks_seen {pc : ProviderCall} {failed : Cluster → List ConfigMap → Prop}
    (hfailed : ∀ after ms, Untouched before after ms → failed after ms) :
    (Program.logging Realm.Clean).Asks (Seen (Untouched before)) pc
      (fun _ => Seen (Untouched before)) (Seen failed) := by
  refine fun x hx => ⟨trivial, fun r x' hr => ?_⟩
  have huntouched : Seen (Untouched before) x' :=
    (allows_seen (c := .provider pc) rfl x hx).2 r x' hr
  cases r with
  | ok a => exact huntouched
  | error e => exact hfailed _ _ huntouched

/-- A client is written in two steps. If the second one fails, what the first has stored stays. -/
theorem keeps_applyWorkload {w : Workload} {x : Realm × List Call.interface.Event}
    (hx : Seen (Untouched before) x) :
    (Lifecycle.applyWorkload w).Keeps (Program.logging Realm.Clean)
      (Program.Outcome (fun _ _ => True) (Seen (Leaves w.configMap.metadata.key before))) x := by
  obtain ⟨hnone, hdeployments, hconfigMaps⟩ := hx
  refine ⟨trivial, fun (r : Except OperatorError Unit) x₁ hr₁ => ?_⟩
  cases r with
  | error e =>
      have hcluster := hr₁.1.unwritten _ rfl ⟨e, rfl⟩
      show Leaves _ before x₁.1.cluster (x₁.2.filterMap stored?)
      rw [hcluster, hr₁.2, List.filterMap_append, hnone]
      exact .nothing hdeployments hconfigMaps
  | ok =>
      have hcluster : x.1.cluster.performWorkload (.applyConfigMap w.configMap) = x₁.1.cluster :=
        congrArg Prod.snd hr₁.1.honest.answers.2.of_ok
      refine ⟨trivial, fun (r : Except OperatorError Unit) x₂ hr₂ => ?_⟩
      cases r with
      | ok => exact trivial
      | error e =>
          have hsame := hr₂.1.unwritten _ rfl ⟨e, rfl⟩
          show Leaves _ before x₂.1.cluster (x₂.2.filterMap stored?)
          rw [hsame, hr₂.2, hr₁.2, List.filterMap_append, List.filterMap_append, hnone, ← hcluster]
          exact .configMap w.configMap rfl hdeployments
            (congrArg (Dict.insert · w.configMap.metadata.key w.configMap) hconfigMaps)

/-- Setting up, as far as the cluster is concerned. -/
def writing (config : TunnelConfig) (service : Service) (app name : String) (before : Cluster) :
    Lifecycle.Rollback (Program.logging Realm.Clean) config service app name where
  before := Seen (Untouched before)
  founded := Seen (Untouched before)
  made _ := Seen (Untouched before)
  allocated _ _ := Seen (Untouched before)
  ready _ _ _ := True
  failed _ := Seen (Leaves ⟨config.operatorNamespace, Workload.configMapName name⟩ before)
  undone := Seen (Leaves ⟨config.operatorNamespace, Workload.configMapName name⟩ before)
  founds := asks_seen fun _ _ h => h.leaves _
  creates := asks_seen fun _ _ h => h.leaves _
  waits _ _ hx := (Lifecycle.stable_waitStarted (allows_seen rfl)).outcome hx
    fun _ h => Untouched.leaves h _
  allocates _ := asks_seen fun _ _ h => h.leaves _
  applies _ _ _ _ _ hx := keeps_applyWorkload hx
  deletesMachine _ _ _ := allows_seen rfl
  releasesIp _ _ _ := allows_seen rfl
  deletesApp _ x hx := by
    refine ⟨trivial, fun r x' hr => ?_⟩
    have hleft := (allows_seen (c := .provider (.deleteApp app)) rfl x hx).2 r x' hr
    cases r <;> exact hleft

end Cluster

end Undoing

/-- **A failed attempt leaves at most a ConfigMap.** Setting up ends with an error, whatever fails
on the way and in undoing, where a call to the cluster that fails has no effect. Then the
Deployments are as before, and so are the ConfigMaps if none was stored on the way. If one was, it
is left under the name of the Service's ConfigMap, and it is all that is left. -/
theorem provision_leaves {config : TunnelConfig} {service : Service} {w w' : Realm}
    {events : List Call.interface.Event} {e : OperatorError}
    (hrun : (Lifecycle.provision config service).Runs Realm.Clean w events (.error e) w') :
    Undoing.Leaves
      ⟨config.operatorNamespace, Workload.configMapName (Name.ofService .deployment service)⟩
      w.cluster w'.cluster (events.filterMap Undoing.stored?) := by
  have hkeeps := (Undoing.writing config service _ _ w.cluster).keeps_provision rfl rfl
    (s := (w, [])) ⟨rfl, rfl, rfl⟩
  obtain ⟨-, huntouched⟩ | hleft := hrun.keeps_logging hkeeps
  · exact Undoing.Untouched.leaves huntouched _
  · exact hleft

/-- Every answer in a world is one that may be expected where calls about clients that fail have no
effect. -/
theorem Simulation.World.perform_clean {v : World} {w : Realm} (h : v.site.Depicts w)
    (hhooks : v.hooks = []) (c : Call) :
    ∃ w', w.Clean c (World.perform c v).1 w' ∧ (World.perform c v).2.site.Depicts w' ∧
      (World.perform c v).2.hooks = [] := by
  obtain ⟨w', hhonest, hdepicts, hfree⟩ := World.perform_honest h hhooks c
  refine ⟨w', ⟨hhonest, ?_⟩, hdepicts, hfree⟩
  rintro wc rfl ⟨e, he⟩
  have hcluster : (World.perform (.workload wc) v).2.cluster = v.cluster := by
    revert he
    simp only [World.perform, World.performWorkload, World.consultCluster, World.note]
    cases Rule.consult wc.name v.clusterRules with
    | mk fault rules =>
        cases fault with
        | none =>
            intro he
            cases he
        | some e => exact fun _ => rfl
  exact (hdepicts.2.trans hcluster).trans h.2.symm

theorem Simulation.World.runs_clean {α : Type} {v : World} {w : Realm} (h : v.site.Depicts w)
    (hhooks : v.hooks = []) (p : Operation α) :
    ∃ w', p.Runs Realm.Clean w (v.events p) (v.run p).1 w' ∧ (v.run p).2.site.Depicts w' := by
  have hhandle : ∀ c (v : World) (w : Realm), v.site.Depicts w ∧ v.hooks = [] →
      ∃ w', w.Clean c (World.perform c v).1 w' ∧
        (World.perform c v).2.site.Depicts w' ∧ (World.perform c v).2.hooks = [] :=
    fun c _ _ h => World.perform_clean h.1 h.2 c
  obtain ⟨w', hruns, hends, -⟩ := Program.exists_runs hhandle p ⟨h, hhooks⟩
  exact ⟨w', hruns, hends⟩

/-- The address cannot be allocated: the cluster is as it was. -/
theorem provision_leaves_web :
    let setUp := Lifecycle.provision sampleConfig (sampleService "web")
    let v := { World.sample ["web"] with
      providerRules := [⟨"allocate_ipv4", 0, none, .graphQl "no addresses left"⟩] }
    let w := (Scene.untouched (.sample ["web"])).realm
    ∃ e w', setUp.Runs Realm.Clean w (v.events setUp) (.error e) w' ∧
      Undoing.Leaves ⟨"tunnels", "frpc-default-web-config"⟩ w.cluster w'.cluster [] := by
  intro setUp v w
  have hname : Workload.configMapName (Name.ofService .deployment (sampleService "web")) =
      "frpc-default-web-config" := by decide +kernel
  have hattempt : (v.run setUp).1.isOk = false ∧
      (v.events setUp).filterMap Undoing.stored? = [] := by decide +kernel
  obtain ⟨hfails, hstored⟩ := hattempt
  obtain ⟨w', hruns, -⟩ :=
    World.runs_clean (v := v) (w := w) (Scene.depicts_untouched _) rfl setUp
  obtain ⟨e, hresult⟩ := exists_error hfails
  rw [hresult] at hruns
  have hleaves := provision_leaves hruns
  rw [hname, hstored] at hleaves
  exact ⟨e, w', hruns, hleaves⟩

/-- A call that undoes something fails. -/
def Undoing.refused : Call.interface.Event → Bool
  | ⟨.provider (.deleteApp _), r⟩ | ⟨.provider (.deleteMachine _ _), r⟩
  | ⟨.provider (.releaseIp _ _), r⟩ => !(r : Except ProviderError Unit).isOk
  | _ => false

/-- The Deployment of a client cannot be stored. Everything that is undone is undone, and the
ConfigMap is left. -/
theorem configMap_left :
    ¬ ∀ (config : TunnelConfig) (service : Service) (w w' : Realm)
      (events : List Call.interface.Event) (e : OperatorError),
      let name := Name.ofService .deployment service
      w.cluster.configMaps.get? ⟨config.operatorNamespace, Workload.configMapName name⟩ = none →
      w.cluster.deployments.get? ⟨config.operatorNamespace, name⟩ = none →
      (Lifecycle.provision config service).Runs Realm.Clean w events (.error e) w' →
      (∀ event ∈ events, Undoing.refused event = false) →
        w'.cluster.configMaps = w.cluster.configMaps ∧
          w'.cluster.deployments = w.cluster.deployments := by
  intro hrestores
  let setUp := Lifecycle.provision sampleConfig (sampleService "web")
  let v := { World.sample ["web"] with
    clusterRules := [⟨"apply_deployment", 0, none, .kubeApi "etcdserver: request timed out"⟩] }
  have hname : Name.ofService .deployment (sampleService "web") = "frpc-default-web" := by
    decide +kernel
  have hattempt : (v.run setUp).1.isOk = false ∧
      (∀ event ∈ v.events setUp, Undoing.refused event = false) ∧
      ((v.run setUp).2.cluster.configMaps.get?
        ⟨"tunnels", "frpc-default-web-config"⟩).isSome = true := by decide +kernel
  obtain ⟨hfails, hundone, hleft⟩ := hattempt
  let w := (Scene.untouched (.sample ["web"])).realm
  have hclear : w.cluster.configMaps.get? ⟨"tunnels", "frpc-default-web-config"⟩ = none ∧
      w.cluster.deployments.get? ⟨"tunnels", "frpc-default-web"⟩ = none := ⟨rfl, rfl⟩
  obtain ⟨w', hruns, hends⟩ :=
    World.runs_clean (v := v) (w := w) (Scene.depicts_untouched _) rfl setUp
  clear_value v w
  obtain ⟨e, hresult⟩ := exists_error hfails
  rw [hresult] at hruns
  have hrestored := hrestores sampleConfig (sampleService "web") w w' (v.events setUp) e
  rw [hname] at hrestored
  obtain ⟨hmaps, -⟩ := hrestored hclear.1 hclear.2 hruns hundone
  have hnone : w'.cluster.configMaps.get? ⟨"tunnels", "frpc-default-web-config"⟩ = none := by
    rw [hmaps]
    exact hclear.1
  rw [hends.2] at hnone
  exact Option.isSome_iff_ne_none.mp hleft hnone

end ServiceTunnel
