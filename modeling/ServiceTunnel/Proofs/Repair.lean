import ServiceTunnel.Proofs.Dropped

/-!
# ServiceTunnel.Proofs.Repair

**The filter calls for a pass exactly if the pass will repair the status.** The filter and the pass
read the address in the status each in its own way, but both compare it with the recorded one, which
is not empty (`shouldReconcile_iff_hidden`, `Reconcile.keeps_pass_iff`). Where nothing else is
different, the one admits a change if and only if the other writes the status. What the pass leaves
is then passed over, so a repair calls for no other.
-/

namespace ServiceTunnel

open Kube Simulation Program Operation

/-- A managed Service that stays, with an application and the address `ip` on record. -/
structure Kube.Service.Tunnelled (cls ip : String) (service : Service) : Prop where
  managed : isManaged service cls = true
  live : service.isDeleting = false
  recorded : (Annotations.nonEmpty? service.annotations Annotations.flyApp).isSome = true
  address : Annotations.nonEmpty? service.annotations Annotations.publicIp = some ip

variable {cls ip : String} {service : Service}

/-! ### What the filter sees -/

/-- Annotations are there if something can be read from them. -/
theorem Kube.Service.annotations_eq_some {key value : String}
    (h : Annotations.nonEmpty? service.annotations key = some value) :
    service.metadata.annotations = some service.annotations := by
  unfold Service.annotations at h ⊢
  cases hannotations : service.metadata.annotations with
  | some annotations => rfl
  | none =>
      rw [hannotations] at h
      cases h

/-- A change that leaves ports and annotations as they are is admitted if the recorded address is
not shown. -/
theorem shouldReconcile_iff_hidden {old new : Service} (h : new.Tunnelled cls ip)
    (hports : old.spec.bind (·.ports) = new.spec.bind (·.ports))
    (hannotations : old.annotations = new.annotations) :
    shouldReconcile (some old) new cls = true ↔ Reconcile.ingressIp? new ≠ some ip := by
  have hsame : old.metadata.annotations = new.metadata.annotations := by
    rw [Service.annotations_eq_some h.address, ← hannotations]
    exact Service.annotations_eq_some (hannotations ▸ h.address)
  obtain ⟨-, hfull⟩ := Annotations.nonEmpty?_eq_some.mp h.address
  simp only [shouldReconcile, h.managed, hports, hsame, h.live, h.address, bne_self_eq_false,
    Bool.true_and, Bool.false_or, Reconcile.ingressIp?]
  cases new.firstIngress? with
  | none => simp
  | some ingress =>
      -- an address that is missing reads as an empty one, which is never recorded
      cases hshown : ingress.ip with
      | none => simp [hshown, hfull]
      | some shown =>
          simp only [Option.bind_some, hshown, Option.getD_some, bne_iff_ne, ne_eq,
            Option.some.injEq]
          exact not_congr eq_comm

/-! ### What a pass writes -/

namespace Call

/-- The call writes the status of a Service. -/
def writesStatus : Call → Bool
  | .service (.patchIngress ..) => true
  | _ => false

theorem Apart.writesStatus {c : Call} (h : c.Apart) : c.writesStatus = false := by
  cases c with
  | service c => exact h.elim
  | provider | providerWithin | workload => rfl

end Call

/-- A version of a Service is stored in which `ip` is shown and nothing else is different that the
filter looks at. -/
def Simulation.Cluster.Shows (c : Cluster) (key : ObjectKey) (service : Service) (ip : String) :
    Prop :=
  ∃ stored, c.services.get? key = some stored ∧ stored.spec = service.spec ∧
    stored.annotations = service.annotations ∧ stored.isDeleting = service.isDeleting ∧
    Reconcile.ingressIp? stored = some ip

namespace Reconcile

variable {config : TunnelConfig} {ns name : String} {s : Site} {permitted : Call → Prop}

/-- The status is written if it does not show the recorded address, and shows it afterwards. -/
theorem keeps_maintain_iff (hfree : ∀ c : Call, c.writesStatus = false → permitted c)
    (hip : (TunnelRecord.ofService service).publicIp = some ip)
    (hget : s.cluster.services.get? ⟨ns, name⟩ = some service) :
    (maintain config service ns name).Keeps (Site.Running permitted)
        (fun _ s' => s'.cluster.Shows ⟨ns, name⟩ service ip) s ↔
      (ingressIp? service ≠ some ip → permitted (.service (.patchIngress ns name ip))) := by
  have hrest : ∀ s₁ : Site, s₁.cluster.Shows ⟨ns, name⟩ service ip →
      ((Lifecycle.update config service).bind fun _ => .done (.ok ())).Keeps
        (Site.Running permitted) (fun (_ : Except OperatorError Unit) s' =>
          s'.cluster.Shows ⟨ns, name⟩ service ip) s₁ := by
    intro s₁ hshows
    refine (update_leaves (fun c hc => hfree c hc.writesStatus) config service s₁).imp ?_
    intro _ s' hsame
    rwa [Cluster.Shows, hsame]
  unfold maintain
  dsimp only
  rw [keeps_andThen, hip]
  dsimp only
  split
  · rename_i hshown
    refine iff_of_true (hrest s ⟨service, hget, rfl, rfl, rfl, hshown⟩) fun hhidden => ?_
    exact absurd hshown hhidden
  · rename_i hhidden
    rw [Site.keeps_service, Cluster.performService, Cluster.write_found _ hget (Or.inl rfl)]
    have hshows : (s.cluster.store ⟨ns, name⟩ (Cluster.putAddress ip service)).Shows ⟨ns, name⟩
        service ip := ⟨_, Cluster.get?_store _ _ _, rfl, rfl, rfl, rfl⟩
    exact ⟨fun h _ => h.1, fun h => ⟨h hhidden, hrest _ hshows⟩⟩

theorem serve_of_recorded (hrecorded : (TunnelRecord.ofService service).isProvisioned = true) :
    serve config service ns name = maintain config service ns name := if_pos hrecorded

/-- A pass over a Service with a tunnel writes the status as its upkeep does, with the operator's
finalizer or without it. -/
theorem keeps_pass_iff (hfree : ∀ c : Call, c.writesStatus = false → permitted c)
    (h : service.Tunnelled cls ip) (hget : s.cluster.services.get? ⟨ns, name⟩ = some service) :
    (pass config cls ns name).Keeps (Site.Running permitted)
        (fun _ s' => s'.cluster.Shows ⟨ns, name⟩ service ip) s ↔
      (ingressIp? service ≠ some ip → permitted (.service (.patchIngress ns name ip))) := by
  unfold pass
  rw [keeps_andThen, Site.keeps_service, Cluster.performService, hget,
    and_iff_right (hfree _ rfl)]
  dsimp only
  rw [h.managed, h.live]
  simp only [Bool.not_true, Bool.false_eq_true, if_false]
  split
  · rw [serve_of_recorded h.recorded]
    exact keeps_maintain_iff hfree h.address hget
  · -- the finalizer is put on first, and what is found then is the same but for it
    rw [keeps_andThen, Site.keeps_service, Cluster.performService,
      Cluster.write_found _ hget (Or.inr rfl), and_iff_right (hfree _ rfl)]
    have hwritten := s.cluster.written_collect ⟨ns, name⟩ service
      (Cluster.putFinalizers (service.finalizers ++ [Annotations.finalizer]))
    dsimp only
    rw [keeps_andThen, Site.keeps_service, Cluster.performService, and_iff_right (hfree _ rfl)]
    cases hentered : ((s.cluster.store ⟨ns, name⟩ (Cluster.putFinalizers
        (service.finalizers ++ [Annotations.finalizer]) service)).collect
          ⟨ns, name⟩).services.get? ⟨ns, name⟩ with
    | none =>
        rw [hentered] at hwritten
        cases hwritten with
        | collected hdeleting => exact absurd (h.live.symm.trans hdeleting) (by decide)
    | some entered =>
        rw [hentered] at hwritten
        obtain ⟨version, rfl⟩ := hwritten.of_some
        dsimp only
        rw [serve_of_recorded]
        · exact keeps_maintain_iff hfree h.address hentered
        · exact h.recorded

/-- All that a pass writes to the status is the recorded address, and it is shown afterwards. -/
theorem pass_shows (h : service.Tunnelled cls ip)
    (hget : s.cluster.services.get? ⟨ns, name⟩ = some service) :
    (pass config cls ns name).Keeps (Site.Running fun c => c.writesStatus = true →
        c = .service (.patchIngress ns name ip))
      (fun _ s' => s'.cluster.Shows ⟨ns, name⟩ service ip) s := by
  refine (keeps_pass_iff (fun c hc hwrites => ?_) h hget).mpr fun _ _ => rfl
  rw [hc] at hwrites
  cases hwrites

/-- A pass writes the status exactly if the recorded address is not shown. -/
theorem exists_repair_iff (h : service.Tunnelled cls ip)
    (hget : s.cluster.services.get? ⟨ns, name⟩ = some service) :
    (∃ event ∈ (pass config cls ns name).events Site.perform s,
        event.call = .service (.patchIngress ns name ip)) ↔
      ingressIp? service ≠ some ip := by
  have hquiet : (pass config cls ns name).Keeps (Site.Running (·.writesStatus = false))
        (fun _ s' => s'.cluster.Shows ⟨ns, name⟩ service ip) s ↔
      (ingressIp? service ≠ some ip →
        Call.writesStatus (.service (.patchIngress ns name ip)) = false) :=
    keeps_pass_iff (fun _ hc => hc) h hget
  obtain ⟨honly, hshows⟩ := keeps_handling.mp (pass_shows h hget)
  constructor
  · rintro ⟨event, hevent, hcall⟩ hshown
    have hspared := (keeps_handling.mp (hquiet.mpr fun hhidden => absurd hshown hhidden)).1
    have hnone := hspared event hevent
    rw [hcall] at hnone
    cases hnone
  · intro hhidden
    by_contra hnone
    have hspared : ∀ event ∈ (pass config cls ns name).events Site.perform s,
        event.call.writesStatus = false := by
      intro event hevent
      by_contra hwrites
      exact hnone ⟨event, hevent, honly event hevent (by simpa using hwrites)⟩
    have hpermitted := hquiet.mp (keeps_handling.mpr ⟨hspared, hshows⟩) hhidden
    cases hpermitted

end Reconcile

/-! ### All together -/

/-- **The filter and the pass agree on when the status is to be repaired.** Where a change leaves
the ports and the annotations as they are, however the status looks, the filter calls for a pass
exactly if a pass that nothing disturbs will write the status. The pass writes no address but the
recorded one, and what it leaves, which is what its own write has made of the Service if there was
one, calls for no other. -/
theorem admitted_iff_repaired (w : World) (config : TunnelConfig) (cls ns name ip : String)
    (old new : Service) (hcalm : w.Calm) (hnew : new.Tunnelled cls ip)
    (hports : old.spec.bind (·.ports) = new.spec.bind (·.ports))
    (hannotations : old.annotations = new.annotations) :
    let pass := Reconcile.pass config cls ns name
    let before := w.storing ⟨ns, name⟩ new
    let after := (before.run pass).2
    (shouldReconcile (some old) new cls = true ↔
        ∃ event ∈ before.events pass, event.call = .service (.patchIngress ns name ip)) ∧
      (∀ event ∈ before.events pass, event.call.writesStatus = true →
        event.call = .service (.patchIngress ns name ip)) ∧
      ∃ stored, after.cluster.services.get? ⟨ns, name⟩ = some stored ∧
        shouldReconcile (some old) stored cls = false := by
  intro pass before after
  have hget : before.site.cluster.services.get? ⟨ns, name⟩ = some new :=
    Dict.get?_insert_self _ _ _
  have hevents : before.events pass = pass.events Site.perform before.site :=
    World.events_calm (hcalm.storing _ _) (Reconcile.pass_settles _)
  have hsite : after.site = (pass.run Site.perform before.site).2 :=
    World.site_run_calm (hcalm.storing _ _) (Reconcile.pass_settles _)
  obtain ⟨honly, hshows⟩ := keeps_handling.mp (Reconcile.pass_shows hnew hget)
  rw [hevents]
  refine ⟨?_, honly, ?_⟩
  · rw [shouldReconcile_iff_hidden hnew hports hannotations]
    exact (Reconcile.exists_repair_iff hnew hget).symm
  · rw [← hsite] at hshows
    obtain ⟨stored, hstored, hspec, hsame, hlive, hshown⟩ := hshows
    have htunnelled : stored.Tunnelled cls ip := {
      managed := by
        rw [isManaged, hspec]
        exact hnew.managed
      live := hlive.trans hnew.live
      recorded := hsame ▸ hnew.recorded
      address := hsame ▸ hnew.address }
    refine ⟨stored, hstored, Bool.eq_false_iff.mpr fun hadmitted => ?_⟩
    refine (shouldReconcile_iff_hidden htunnelled ?_ ?_).mp hadmitted hshown
    · rw [hspec, hports]
    · rw [hsame, hannotations]

/-- The status of `web` comes to name a host instead of the recorded address. The change is
admitted, a pass writes the address, and what it has made of the Service is passed over. -/
theorem admitted_iff_repaired_web :
    let w := World.sample []
    let pass := Reconcile.pass sampleConfig "fly" "default" "web"
    let points : List Ingress := [{ hostname := some "example.com" }, { ip := some "137.66.0.2" }]
    let status : ServiceStatus := { loadBalancer := some { ingress := some points } }
    let new := { settledWeb with status := some status }
    let before := w.storing ⟨"default", "web"⟩ new
    w.Calm ∧ new.Tunnelled "fly" "137.66.0.2" ∧
      shouldReconcile (some settledWeb) new "fly" = true ∧
      (∃ event ∈ before.events pass,
        event.call = .service (.patchIngress "default" "web" "137.66.0.2")) ∧
      ∃ stored, (before.run pass).2.cluster.services.get? ⟨"default", "web"⟩ = some stored ∧
        shouldReconcile (some settledWeb) stored "fly" = false := by
  intro w pass points status new before
  have hcalm : w.Calm := ⟨rfl, rfl, rfl, by decide⟩
  have hnew : new.Tunnelled "fly" "137.66.0.2" :=
    ⟨by decide +kernel, by decide +kernel, by decide +kernel, by decide +kernel⟩
  obtain ⟨hiff, -, hpassed⟩ := admitted_iff_repaired w sampleConfig "fly" "default" "web"
    "137.66.0.2" settledWeb new hcalm hnew rfl rfl
  have hadmitted : shouldReconcile (some settledWeb) new "fly" = true := by decide +kernel
  exact ⟨hcalm, hnew, hadmitted, hiff.mp hadmitted, hpassed⟩

end ServiceTunnel
