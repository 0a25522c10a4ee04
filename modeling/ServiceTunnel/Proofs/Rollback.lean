import ServiceTunnel.Proofs.Bounds
import ServiceTunnel.Proofs.Runs

/-!
# ServiceTunnel.Proofs.Rollback

**Setting up that fails leaves the provider as it was.** Everything that setting up makes belongs to
one application, and what undoing comes to in the end is the deletion of that application, which
takes along whatever an earlier undoing has failed to remove. While steps are made and undone the
provider differs from the beginning in that application only (`Realm.Bounded`); if nothing of it
existed and it is deleted, there is no difference left (`provision_restores`).
-/

namespace ServiceTunnel

open Kube Realm Simulation

namespace Rollback

/-- The deletion of an application fails. -/
def refused : Call.interface.Event → Bool
  | ⟨.provider (.deleteApp _), r⟩ => !(r : Except ProviderError Unit).isOk
  | _ => false

/-- Calls that fail have no effect at the provider, and no deletion of an application fails. -/
def contract : Contract Call.interface Realm where
  permits _ _ := True
  yields w c r w' := w.Honest c r w' ∧ refused ⟨c, r⟩ = false

theorem realistic : contract.Realistic :=
  ⟨fun _ _ => trivial, fun _ _ _ _ hr => hr.1.answers⟩

variable {config : TunnelConfig} {service : Service} {app name : String} {e : Estate}
  {titles : Set Title}

/-- A call that gives a title out adds it to what is to be undone. -/
theorem asks_bounded {pc : ProviderCall} {more : pc.Result → Title}
    {gained : pc.Result → Set Title} (happ : pc.app = app) (huses : pc.uses ⊆ titles)
    (hmore : ∀ {e e' : Estate} {a : pc.Result}, e.Carries pc a e' → e'.Owns app (more a))
    (hgained : ∀ a, gained a = titles ∪ {more a}) :
    contract.Asks (Bounded app e titles) pc (fun a => Bounded app e (gained a))
      (Bounded app e titles) := by
  refine fun w hw => ⟨trivial, fun r w' hr => ?_⟩
  have hbounded := (realistic.allows_provider happ huses w hw).2 r w' hr
  cases r with
  | ok a =>
      show Bounded app e (gained a) w'
      rw [hgained]
      refine hbounded.union fun t ht => ?_
      obtain rfl : t = more a := ht
      exact (hmore hr.1.answers.1).within
  | error x => exact hbounded

/-- An application that is not made is not there. -/
theorem asks_ensureApp (app org : String) (e : Estate) :
    contract.Asks (fun w => w.estate = e) (.ensureApp app org) (fun _ => Bounded app e ∅)
      fun w => e.Same w.estate := by
  refine fun w hw => ⟨trivial, fun r w' hr => ?_⟩
  subst hw
  cases r with
  | ok =>
      exact (bounded_refl fun _ ht => ht.elim).answers hr.1.answers fun pc hpc => by
        cases hpc
        exact ⟨rfl, subset_rfl⟩
  | error x =>
      show w.estate.Same w'.estate
      rw [hr.1.unharmed ⟨x, rfl⟩]
      exact ⟨rfl, rfl, rfl⟩

/-- An application that is deleted leaves nothing, whatever was undone before. -/
theorem asks_deleteApp (hnone : ¬ e.Bears app) :
    contract.Asks (Bounded app e titles) (.deleteApp app) (fun _ w => e.Same w.estate)
      fun w => e.Same w.estate := by
  refine fun w hw => ⟨trivial, fun r w' hr => ?_⟩
  cases r with
  | ok =>
      obtain ⟨hgone, hbeside⟩ := hw.deleted hr.1.answers
      exact hbeside.same hnone hgone
  | error x => cases hr.2

/-- Setting up within one application, of which nothing existed. -/
def rollback (config : TunnelConfig) (service : Service) (name : String)
    (hnone : ¬ e.Bears app) : Lifecycle.Rollback contract config service app name where
  before w := w.estate = e
  founded := Bounded app e ∅
  made machine := Bounded app e {Title.machine machine.id}
  allocated machine ip := Bounded app e {Title.machine machine.id, Title.ip ip.id}
  ready machine ip := Bounded app e {Title.machine machine.id, Title.ip ip.id}
  failed := Bounded app e
  undone w := e.Same w.estate
  founds := asks_ensureApp app config.flyOrg e
  creates := asks_bounded rfl subset_rfl Estate.Carries.owns_machine
    fun _ => (Set.empty_union _).symm
  waits _ _ hw := (Lifecycle.stable_waitStarted
    (realistic.allows_providerWithin rfl subset_rfl)).outcome hw fun _ h => h
  allocates _ := asks_bounded rfl (Set.empty_subset _) Estate.Carries.owns_ip fun _ => rfl
  applies _ _ _ _ _ hw := (Lifecycle.stable_applyWorkload (realistic.allows_workload _)
    (realistic.allows_workload _)).outcome hw fun _ h => h
  deletesMachine _ _ hid := realistic.allows_provider rfl (Set.singleton_subset_iff.mpr hid)
  releasesIp _ _ hid := realistic.allows_provider rfl (Set.singleton_subset_iff.mpr hid)
  deletesApp _ := asks_deleteApp hnone

end Rollback

/-- **Setting up that fails restores the provider.** Nothing exists in the name of the Service's
application, and setting up ends with an error, wherever it came from: a step that fails, a machine
that does not start in time, with failures in undoing on top. Then the same applications, machines
and addresses exist as before, if calls that fail have no effect and no deletion of an application
fails. -/
theorem provision_restores {config : TunnelConfig} {service : Service} {w w' : Realm}
    {events : List Call.interface.Event} {e : OperatorError}
    (hnone : ¬ w.estate.Bears (Name.ofService .app service))
    (hrun : (Lifecycle.provision config service).Runs Realm.Honest w events (.error e) w')
    (hdeletes : ∀ event ∈ events, Rollback.refused event = false) : w.estate.Same w'.estate := by
  have hkeeps := (Rollback.rollback config service _ hnone).keeps_provision rfl rfl (s := w) rfl
  obtain ⟨-, hsame⟩ | hsame :=
    (hrun.restrict hdeletes).keeps_self hkeeps fun _ _ _ _ _ hanswers => hanswers
  · have hsame : w'.estate = w.estate := hsame
    rw [hsame]
    exact ⟨rfl, rfl, rfl⟩
  · exact hsame

/-- The client cannot be stored, and the address that was allocated cannot be released: what is left
of the application goes with it. -/
theorem provision_restores_web :
    let v := { World.sample ["web"] with
      providerRules := [⟨"release_ip", 0, none, .api 500 "internal error"⟩]
      clusterRules := [⟨"apply_deployment", 0, none, .kubeApi "etcdserver: request timed out"⟩] }
    let w := (Scene.untouched (.sample ["web"])).realm
    let setUp := Lifecycle.provision sampleConfig (sampleService "web")
    ∃ e w', setUp.Runs Realm.Honest w (v.events setUp) (.error e) w' ∧
      (v.run setUp).2.site.Depicts w' ∧ w.estate.Same w'.estate := by
  intro v w setUp
  have hfails : (v.run setUp).1.isOk = false := by decide +kernel
  have hdeletes : ∀ event ∈ v.events setUp, Rollback.refused event = false := by decide +kernel
  obtain ⟨w', hruns, hdepicts, -⟩ := World.runs (v := v) (Scene.depicts_untouched _) rfl setUp
  cases hresult : (v.run setUp).1 with
  | ok tunnel => rw [hresult] at hfails; cases hfails
  | error e =>
      rw [hresult] at hruns
      exact ⟨e, w', hruns, hdepicts,
        provision_restores (Scene.not_bears_untouched _ _) hruns hdeletes⟩

end ServiceTunnel
