import ServiceTunnel.Proofs.Standing

/-!
# ServiceTunnel.Proofs.Settled

**A second pass changes nothing.** A Service is `Settled` on a site if there is nothing left for a
pass to do about it: it is not the operator's, it is being deleted and its tunnel is gone, it asks
for the impossible, or its tunnel stands as it asks. Wherever a pass begins, it ends settled if
nothing disturbs it (`Reconcile.pass_settles`), and a pass that begins settled only looks
(`Reconcile.pass_rests`).
-/

namespace ServiceTunnel

open Kube Simulation Program Operation

/-- Nothing is left to be done about a Service that is stored. -/
inductive Kube.Service.Settled (config : TunnelConfig) (cls : String) (service : Service)
    (s : Site) : Prop where
  /-- The Service is not the operator's. -/
  | foreign (hforeign : isManaged service cls = false)
  /-- The Service is being deleted, and not held back by the operator. -/
  | leaving (hdeleting : service.isDeleting = true)
    (hfree : Reconcile.hasFinalizer service = false) (hcleared : service.Cleared config s)
  /-- The Service asks for the impossible. -/
  | refused (hlive : service.isDeleting = false) (hguarded : Reconcile.hasFinalizer service = true)
    (hbare : (TunnelRecord.ofService service).isProvisioned = false) (e : OperatorError)
    (hrefused : Lifecycle.requirements service = .error e)
  /-- The tunnel stands, and its address is shown. -/
  | standing (hlive : service.isDeleting = false)
    (hguarded : Reconcile.hasFinalizer service = true)
    (hrecorded : (TunnelRecord.ofService service).isProvisioned = true)
    (hshown : ∀ ip, (TunnelRecord.ofService service).publicIp = some ip →
      Reconcile.ingressIp? service = some ip)
    (hstep : service.InStep config s)

/-- Nothing is left to be done about the Service `key`, if it is there. -/
def Simulation.Site.Settled (config : TunnelConfig) (cls : String) (key : ObjectKey)
    (s : Site) : Prop :=
  ∀ service, s.cluster.services.get? key = some service → service.Settled config cls s

namespace Simulation.Cluster

/-- A write that names no version, or the one that is stored, goes through. -/
theorem write_found {c : Cluster} {key : ObjectKey} {s : Service} {version : Option String}
    (f : Service → Service) (hs : c.services.get? key = some s)
    (hversion : version = none ∨ version = s.metadata.resourceVersion) :
    c.write key version f = (.ok (), c.store key (f s)) := by
  have hcurrent : (version.isSome && version != s.metadata.resourceVersion) = false := by
    obtain rfl | rfl := hversion
    · rfl
    · rw [bne_self_eq_false, Bool.and_false]
  simp only [write, hs, hcurrent, Bool.false_eq_true, if_false]

theorem get?_store (c : Cluster) (key : ObjectKey) (s : Service) :
    (c.store key s).services.get? key =
      some (s.stamped (some (toString (c.version + 1)))) :=
  Dict.get?_insert_self _ _ _

end Simulation.Cluster

namespace Reconcile

variable {config : TunnelConfig} {cls ns name : String} {service : Service} {s : Site}

/-! ### A pass settles -/

theorem maintain_settles (hget : s.cluster.services.get? ⟨ns, name⟩ = some service)
    (hlive : service.isDeleting = false) (hguarded : hasFinalizer service = true)
    (hrecorded : (TunnelRecord.ofService service).isProvisioned = true) :
    (maintain config service ns name).Keeps (Site.Running World.Patient)
      (fun _ s' => s'.Settled config cls ⟨ns, name⟩) s := by
  -- however the status is repaired, what is stored then shows the address and asks for the same
  have hrest : ∀ (shown : Service) (s₁ : Site), service.Alike shown →
      TunnelRecord.ofService shown = TunnelRecord.ofService service →
      shown.isDeleting = false → hasFinalizer shown = true →
      (∀ ip, (TunnelRecord.ofService service).publicIp = some ip → ingressIp? shown = some ip) →
      s₁.cluster.services.get? ⟨ns, name⟩ = some shown →
      ((Lifecycle.update config service).bind fun _ => .done (.ok ())).Keeps
        (Site.Running World.Patient) (fun (_ : Except OperatorError Unit) s' =>
          s'.Settled config cls ⟨ns, name⟩) s₁ := by
    intro shown s₁ halike hrecord hlive hguarded hshown hget
    refine (Lifecycle.update_inStep s₁).bind fun _ s₂ h => ?_
    obtain ⟨hservices, hstep⟩ := h
    intro found hfound
    rw [hservices, hget, Option.some.injEq] at hfound
    subst hfound
    refine .standing hlive hguarded (hrecord ▸ hrecorded) (hrecord ▸ hshown) ?_
    exact hstep.congr halike hrecord.symm
  unfold maintain
  dsimp only
  rw [keeps_andThen]
  split
  · rename_i ip hip
    have hthis : ∀ ip', (TunnelRecord.ofService service).publicIp = some ip' → ip' = ip := by
      intro ip' hip'
      rw [hip, Option.some.injEq] at hip'
      exact hip'.symm
    split
    · rename_i hshown
      refine hrest service s ⟨rfl, rfl, rfl, fun _ _ => rfl⟩ rfl hlive hguarded ?_ hget
      exact fun ip' hip' => hthis ip' hip' ▸ hshown
    · rw [Site.keeps_service, Cluster.performService, Cluster.write_found _ hget (Or.inl rfl)]
      have hstored := s.cluster.get?_store ⟨ns, name⟩ (Cluster.putAddress ip service)
      refine ⟨trivial, hrest ((Cluster.putAddress ip service).stamped
        (some (toString (s.cluster.version + 1)))) _ ⟨rfl, rfl, rfl, fun _ _ => rfl⟩ rfl
        hlive hguarded ?_ hstored⟩
      exact fun ip' hip' => hthis ip' hip' ▸ rfl
  · rename_i hnone
    refine hrest service s ⟨rfl, rfl, rfl, fun _ _ => rfl⟩ rfl hlive hguarded ?_ hget
    intro ip hip
    rw [hnone] at hip
    cases hip

/-- A Service on which the tunnel is recorded that was set up for it. What was set up for the bare
Service is what the recorded one asks for. -/
theorem settled_recorded {found : Service} {machine : Machine} {ip : IpAddress}
    (halike : service.Alike found)
    (hrecord : TunnelRecord.ofService found = .ofTunnel (Lifecycle.tunnelOf
      (Name.ofService .app service) (Name.ofService .deployment service) machine ip))
    (hlive : found.isDeleting = false) (hguarded : hasFinalizer found = true)
    (hshown : ingressIp? found = some ip.address)
    (hfits : ∃ m, s.cloud.machineOf? (Name.ofService .app service) machine.id = some m ∧
      (MachineInput.ofService service config).matchesMachine m = true)
    (hruns : ∀ requirements, Lifecycle.requirements service = .ok requirements →
      s.cluster.Runs (Lifecycle.workload config service (Name.ofService .deployment service)
        ip.address requirements)) :
    found.Settled config cls s := by
  refine .standing hlive hguarded ?_ ?_ ?_
  · rw [hrecord]
    rfl
  · intro ip' hip'
    rw [hrecord] at hip'
    rw [hshown]
    exact hip'
  · intro address name app requirements haddress hname happ hok
    rw [hrecord] at haddress hname happ ⊢
    obtain rfl := Option.some.inj haddress
    obtain rfl := Option.some.inj hname
    obtain rfl := Option.some.inj happ
    rw [← halike.workload, ← halike.input]
    refine ⟨hruns requirements (halike.requirements.trans hok), fun id hid m hm => ?_⟩
    obtain rfl := Option.some.inj hid
    obtain ⟨m', hm', hmatches⟩ := hfits
    rw [show s.cloud.machineOf? (Name.ofService .app service) machine.id = some m from hm,
      Option.some.injEq] at hm'
    exact hm' ▸ hmatches

theorem establish_settles (hget : s.cluster.services.get? ⟨ns, name⟩ = some service)
    (hlive : service.isDeleting = false) (hguarded : hasFinalizer service = true)
    (hbare : (TunnelRecord.ofService service).isProvisioned = false) :
    (establish config service ns name).Keeps (Site.Running World.Patient)
      (fun _ s' => s'.Settled config cls ⟨ns, name⟩) s := by
  unfold establish
  rw [keeps_andThen]
  have hprovision :=
    (Lifecycle.undisturbed config service _ _ s.cluster).keeps_provision rfl rfl rfl
  refine hprovision.imp fun r s₁ hr => ?_
  cases r with
  | error e =>
      obtain ⟨hrefused, hcluster⟩ | hfailed := hr
      · intro found hfound
        rw [show s₁.cluster = s.cluster from hcluster, hget, Option.some.injEq] at hfound
        subst hfound
        exact .refused hlive hguarded hbare e hrefused
      · exact hfailed.elim fun _ h => h.elim
  | ok tunnel =>
      obtain ⟨machine, ip, rfl, hservices, hhosts, hid, haddress, hruns⟩ := hr
      -- the Service is looked up, stored with the record, and stored with the address
      have hget₁ : s₁.cluster.services.get? ⟨ns, name⟩ = some service := by rw [hservices, hget]
      dsimp only
      rw [keeps_andThen, Site.keeps_service, Cluster.performService, hget₁]
      refine ⟨trivial, ?_⟩
      dsimp only
      rw [keeps_andThen, Site.keeps_service, Cluster.performService,
        Cluster.write_found _ hget₁ (Or.inr rfl)]
      refine ⟨trivial, ?_⟩
      dsimp only
      rw [Site.keeps_service, Cluster.performService,
        Cluster.write_found _ (Cluster.get?_store _ _ _) (Or.inl rfl)]
      refine ⟨trivial, fun found hfound => ?_⟩
      rw [Cluster.get?_store, Option.some.injEq] at hfound
      subst hfound
      have halike := service.alike_record (Lifecycle.tunnelOf (Name.ofService .app service)
        (Name.ofService .deployment service) machine ip)
      have hread := TunnelRecord.nonEmpty_ofTunnel (t := Lifecycle.tunnelOf
        (Name.ofService .app service) (Name.ofService .deployment service) machine ip)
        (Name.ofService_ne_empty (by decide) service) hhosts.named
        (Name.ofService_ne_empty (by decide) service) hid haddress
      refine settled_recorded (show service.Alike _ from ⟨rfl, rfl, rfl, halike.wishes⟩) ?_ hlive
        hguarded rfl hhosts.fits hruns
      exact (TunnelRecord.ofAnnotations_merge service.annotations _).trans hread

theorem serve_settles (hget : s.cluster.services.get? ⟨ns, name⟩ = some service)
    (hlive : service.isDeleting = false) (hguarded : hasFinalizer service = true) :
    (serve config service ns name).Keeps (Site.Running World.Patient)
      (fun _ s' => s'.Settled config cls ⟨ns, name⟩) s := by
  unfold serve
  split
  · rename_i hrecorded
    exact maintain_settles hget hlive hguarded hrecorded
  · rename_i hbare
    exact establish_settles hget hlive hguarded (Bool.eq_false_iff.mpr hbare)

/-- Without the operator's finalizer the Service goes, or it waits for what others have put on. -/
theorem finalize_settles (hget : s.cluster.services.get? ⟨ns, name⟩ = some service)
    (hdeleting : service.isDeleting = true) :
    (finalize config service ns name).Keeps (Site.Running World.Patient)
      (fun _ s' => s'.Settled config cls ⟨ns, name⟩) s := by
  unfold finalize
  refine (Lifecycle.teardown_clears s).bind fun _ s₁ h => ?_
  obtain ⟨hservices, hcleared⟩ := h
  rw [← hservices] at hget
  split
  · rw [Site.keeps_service, Cluster.performService, Cluster.write_found _ hget (Or.inr rfl)]
    refine ⟨trivial, fun found hfound => ?_⟩
    have hwritten := s₁.cluster.written_collect ⟨ns, name⟩ service
      (Cluster.putFinalizers (service.finalizers.filter (· != Annotations.finalizer)))
    rw [show Dict.get? _ _ = some found from hfound] at hwritten
    obtain ⟨version, rfl⟩ := hwritten.of_some
    refine .leaving hdeleting ?_ (hcleared.congr ⟨rfl, rfl, rfl, fun _ _ => rfl⟩ rfl rfl
      (Cluster.deployments_collect _ _) (Cluster.configMaps_collect _ _))
    have hnotMem : Annotations.finalizer ∉
        service.finalizers.filter (· != Annotations.finalizer) := by
      intro hmem
      exact bne_iff_ne.mp (List.mem_filter.mp hmem).2 rfl
    exact Bool.eq_false_iff.mpr fun hcontains => hnotMem (List.contains_iff_mem.mp hcontains)
  · rename_i hfree
    intro found hfound
    rw [hget, Option.some.injEq] at hfound
    subst hfound
    exact .leaving hdeleting (Bool.eq_false_iff.mpr hfree) hcleared

/-- A pass that nothing disturbs leaves nothing to be done. -/
theorem pass_settles (s : Site) :
    (pass config cls ns name).Keeps (Site.Running World.Patient)
      (fun _ s' => s'.Settled config cls ⟨ns, name⟩) s := by
  unfold pass
  rw [keeps_andThen, Site.keeps_service, Cluster.performService]
  refine ⟨trivial, ?_⟩
  cases hget : s.cluster.services.get? ⟨ns, name⟩ with
  | none =>
      intro found hfound
      rw [show s.cluster.services.get? ⟨ns, name⟩ = some found from hfound] at hget
      cases hget
  | some service =>
      dsimp only
      split
      · rename_i hforeign
        intro found hfound
        rw [show s.cluster.services.get? ⟨ns, name⟩ = some found from hfound,
          Option.some.injEq] at hget
        subst hget
        exact .foreign (by simpa using hforeign)
      split
      · rename_i hdeleting
        exact finalize_settles hget hdeleting
      rename_i hlive
      split
      · rename_i hguarded
        exact serve_settles hget (Bool.eq_false_iff.mpr hlive) hguarded
      · rw [keeps_andThen, Site.keeps_service, Cluster.performService,
          Cluster.write_found _ hget (Or.inr rfl)]
        refine ⟨trivial, ?_⟩
        have hwritten := s.cluster.written_collect ⟨ns, name⟩ service
          (Cluster.putFinalizers (service.finalizers ++ [Annotations.finalizer]))
        dsimp only
        rw [keeps_andThen, Site.keeps_service, Cluster.performService]
        refine ⟨trivial, ?_⟩
        cases hentered : ((s.cluster.store ⟨ns, name⟩ (Cluster.putFinalizers
            (service.finalizers ++ [Annotations.finalizer]) service)).collect
              ⟨ns, name⟩).services.get? ⟨ns, name⟩ with
        | none =>
            -- only what is being deleted is collected
            rw [hentered] at hwritten
            cases hwritten with
            | collected hdeleting => exact absurd hdeleting hlive
        | some entered =>
            rw [hentered] at hwritten
            obtain ⟨version, rfl⟩ := hwritten.of_some
            refine serve_settles hentered (Bool.eq_false_iff.mpr hlive) ?_
            exact List.contains_iff_mem.mpr (List.mem_append_right _ List.mem_cons_self)

/-! ### Where nothing is left to be done -/

theorem maintain_rests (hshown : ∀ ip, (TunnelRecord.ofService service).publicIp = some ip →
      ingressIp? service = some ip) (hstep : service.InStep config s) :
    (maintain config service ns name).Keeps (Site.Running World.Quiet) (fun _ s' => s' = s) s := by
  have hrest : ((Lifecycle.update config service).bind fun _ => .done (.ok ())).Keeps
      (Site.Running World.Quiet) (fun (_ : Except OperatorError Unit) s' => s' = s) s :=
    (Lifecycle.update_rests hstep).bind fun _ s' hs' => hs'
  unfold maintain
  dsimp only
  rw [keeps_andThen]
  split
  · rename_i ip hip
    rw [if_pos (hshown ip hip)]
    exact hrest
  · exact hrest

theorem establish_rests {e : OperatorError} (hrefused : Lifecycle.requirements service = .error e) :
    (establish config service ns name).Keeps (Site.Running World.Quiet) (fun _ s' => s' = s) s := by
  unfold establish
  rw [keeps_andThen, Lifecycle.provision, hrefused]
  exact rfl

theorem finalize_rests (hfree : hasFinalizer service = false)
    (hcleared : service.Cleared config s) :
    (finalize config service ns name).Keeps (Site.Running World.Quiet) (fun _ s' => s' = s) s := by
  unfold finalize
  refine (Lifecycle.teardown_rests hcleared).bind fun _ s' hs' => ?_
  rw [if_neg (Bool.eq_false_iff.mp hfree)]
  exact hs'

/-- Where nothing is left to be done, a pass only looks. -/
theorem pass_rests (h : s.Settled config cls ⟨ns, name⟩) :
    (pass config cls ns name).Keeps (Site.Running World.Quiet) (fun _ s' => s' = s) s := by
  unfold pass
  rw [keeps_andThen, Site.keeps_service, Cluster.performService]
  refine ⟨trivial, ?_⟩
  cases hget : s.cluster.services.get? ⟨ns, name⟩ with
  | none => exact rfl
  | some service =>
      dsimp only
      cases h service hget with
      | foreign hforeign =>
          rw [hforeign]
          exact rfl
      | leaving hdeleting hfree hcleared =>
          rw [if_pos hdeleting]
          split
          · exact rfl
          · exact finalize_rests hfree hcleared
      | refused hlive hguarded hbare e hrefused =>
          rw [if_neg (Bool.eq_false_iff.mp hlive), if_pos hguarded, serve,
            if_neg (Bool.eq_false_iff.mp hbare)]
          split
          · exact rfl
          · exact establish_rests hrefused
      | standing hlive hguarded hrecorded hshown hstep =>
          rw [if_neg (Bool.eq_false_iff.mp hlive), if_pos hguarded, serve, if_pos hrecorded]
          split
          · exact rfl
          · exact maintain_rests hshown hstep

end Reconcile

/-! ### Two passes -/

/-- Whatever a world is like, once a pass over a Service has gone through undisturbed, another one
leaves the world as it is: it writes no Service, and has nothing made or changed at the provider.
Only the calls that it makes are noted. -/
theorem pass_idempotent (w : World) (config : TunnelConfig) (cls ns name : String)
    (hcalm : w.Calm) :
    let pass := Reconcile.pass config cls ns name
    let once := (w.run pass).2
    ∃ calls, (once.run pass).2 = { once with log := once.log ++ calls } ∧
      ∀ c ∈ calls, World.Quiet c := by
  intro pass once
  obtain ⟨s, calls, hrun, -, hsettled⟩ :=
    World.run_calm hcalm (Reconcile.pass_settles w.site) fun _ h => h
  have honce : once = w.moved s calls := hrun
  have hsite : once.site = s := by
    rw [honce]
    rfl
  have hcalm' : once.Calm := by
    rw [honce]
    exact hcalm.moved s calls
  obtain ⟨s', calls', hrun', hquiet, hsame⟩ :=
    World.run_calm hcalm' (Reconcile.pass_rests (hsite ▸ hsettled)) fun _ h => h.patient
  refine ⟨calls', ?_, hquiet⟩
  rw [hrun', hsame]
  rfl

/-- The first pass over a Service makes its machine, and the second leaves the world with it. -/
theorem pass_idempotent_web :
    let w := World.sample ["web"]
    let pass := Reconcile.pass sampleConfig "fly" "default" "web"
    let once := (w.run pass).2
    w.Calm ∧ once.cloud.machines.keys = ["m1"] ∧
      ∃ calls, (once.run pass).2 = { once with log := once.log ++ calls } ∧
        ∀ c ∈ calls, World.Quiet c := by
  refine ⟨⟨rfl, rfl, rfl, by decide⟩, by decide +kernel, ?_⟩
  exact pass_idempotent (World.sample ["web"]) sampleConfig "fly" "default" "web"
    ⟨rfl, rfl, rfl, by decide⟩

end ServiceTunnel
