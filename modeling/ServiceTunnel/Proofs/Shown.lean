import ServiceTunnel.Proofs.Passes
import ServiceTunnel.Proofs.Record
import ServiceTunnel.Proofs.Scene

/-!
# ServiceTunnel.Proofs.Shown

**What a pass that succeeds leaves in the status.** Seen from one Service, most calls do nothing:
only the calls about the Service itself change how it is stored. If nobody else changes it
meanwhile, a pass without error leaves the recorded address in its status, whether the tunnel was
there before or has been made by the pass (`Shown.keeps_pass`).
-/

namespace ServiceTunnel

open Kube Simulation

/-- What is stored is blank, or records a tunnel no part of which is empty. -/
def Intact (entry : Option Service) : Prop :=
  ∀ service, entry = some service → service.Blank ∨ ∃ t : Tunnel, t.Complete ∧ service.Records t

namespace Shown

/-- Calls as they are seen from the Service `key` alone: whatever else exists, a call is answered,
and leaves the Service as it may. -/
def contract (key : ObjectKey) : Contract Call.interface (Option Service) where
  permits _ _ := True
  yields entry c r entry' := Intact entry ∧ ∃ w w' : Realm,
    w.cluster.services.get? key = entry ∧ w'.cluster.services.get? key = entry' ∧
      w.Answers c r w'

/-- The recorded address is the first one in the status. -/
def Visible (service : Service) : Prop :=
  ∃ ip, service.annotations.get? Annotations.publicIp = some ip ∧
    Reconcile.ingressIp? service = some ip

/-- If the Service is stored, the operator is to care for it, and it is not being deleted, then its
address is visible. -/
def Shows (cls : String) (entry : Option Service) : Prop :=
  ∀ service, entry = some service → isManaged service cls = true → service.isDeleting = false →
    Visible service

variable {config : TunnelConfig} {cls : String} {key : ObjectKey} {service : Service}
  {entry entry' : Option Service}

theorem shows_none : Shows cls none := fun _ h => by cases h

theorem shows_of_visible (h : Visible service) : Shows cls (some service) := by
  intro service' hservice' _ _
  rw [← Option.some.inj hservice']
  exact h

/-! ### Calls -/

section Calls

variable {inv : Option Service → Prop}

theorem allows_elsewhere {c : Call} (hc : ∀ sc, c ≠ .service sc) : (contract key).Allows inv c := by
  refine fun entry hentry => ⟨trivial, fun r entry' hyields => ?_⟩
  obtain ⟨-, w, w', hbefore, hafter, hanswers⟩ := hyields
  obtain hsame | ⟨sc, s, hservice, -⟩ := hanswers.entry key
  · rw [← hafter, hsame, hbefore]
    exact hentry
  · exact absurd hservice (hc sc)

theorem allows_provider (c : ProviderCall) : (contract key).Allows inv (.provider c) :=
  allows_elsewhere nofun

theorem allows_workload (c : WorkloadCall) : (contract key).Allows inv (.workload c) :=
  allows_elsewhere nofun

theorem stable_teardown : (Lifecycle.teardown config service).Stable (contract key) inv :=
  Lifecycle.stable_teardown allows_workload fun c _ => allows_provider c

end Calls

/-- A look-up that succeeds tells what is stored. -/
theorem found {stored : Option Service}
    (h : (contract key).yields entry (.service (.get key.ns key.name)) (.ok stored) entry') :
    entry = stored ∧ entry' = stored := by
  obtain ⟨-, w, w', rfl, rfl, hanswers⟩ := h
  obtain ⟨hstored, hsame⟩ := hanswers.found
  exact ⟨hstored, by rw [hsame]; exact hstored⟩

/-- A write that succeeds has written. -/
theorem wrote {c : ServiceCall} {a : c.Result}
    (h : (contract key).yields entry (.service c) (.ok a) entry') (hkey : c.key = key)
    (hwrite : ∀ ns name, c ≠ .get ns name) :
    ∃ s, entry = some s ∧ Cluster.Written c.edit s entry' := by
  subst hkey
  obtain ⟨-, w, w', rfl, rfl, hanswers⟩ := h
  exact hanswers.wrote hwrite

/-- An address that is recorded is visible once it is written to the status. -/
theorem shows_putAddress {s : Service} {ip : String}
    (hrecorded : s.annotations.get? Annotations.publicIp = some ip)
    (h : Cluster.Written (Cluster.putAddress ip) s entry) : Shows cls entry := by
  cases h with
  | stored version => exact shows_of_visible ⟨ip, hrecorded, rfl⟩
  | collected => exact shows_none

/-! ### Passes -/

open Reconcile Program

theorem keeps_maintain {t : Tunnel} (hrecords : service.Records t) (ht : t.Complete) :
    (maintain config service key.ns key.name).Keeps (contract key)
      (Outcome (fun _ => Shows cls) fun _ => True) (some service) := by
  have hip : (TunnelRecord.ofService service).publicIp = some t.publicIp := by
    rw [hrecords.ofService ht]
    rfl
  have hupdate : (Lifecycle.update config service).Stable (contract key) (Shows cls) :=
    Lifecycle.stable_update
      (fun _ _ _ _ _ _ => Lifecycle.stable_applyWorkload (allows_workload _) (allows_workload _))
      fun _ _ _ _ => Lifecycle.stable_updateMachine (allows_provider _) (allows_provider _)
  unfold maintain
  dsimp only
  rw [keeps_andThen, hip]
  dsimp only
  split
  · rename_i hshown
    exact (hupdate _ (shows_of_visible ⟨_, hrecords.publicIp, hshown⟩)).bind fun _ _ h => h
  · refine (Operation.keeps_service _ _ _).mpr ⟨trivial, fun r entry hr => ?_⟩
    cases r with
    | error e => exact trivial
    | ok =>
        obtain ⟨s, hs, hwritten⟩ := wrote hr rfl nofun
        obtain rfl := Option.some.inj hs
        have hshows : Shows cls entry := shows_putAddress hrecords.publicIp hwritten
        exact (hupdate entry hshows).bind fun _ _ h => h

theorem keeps_establish :
    (establish config service key.ns key.name).Keeps (contract key)
      (Outcome (fun _ => Shows cls) fun _ => True) entry := by
  refine (keeps_andThen _ _ _ _).mpr ((keeps_true (fun _ _ => trivial) _ entry).imp ?_)
  intro r entry₁ _
  cases r with
  | error e => exact trivial
  | ok tunnel =>
      refine (keeps_andThen _ _ _ _).mpr ((Operation.keeps_service _ _ _).mpr ⟨trivial, ?_⟩)
      intro r entry₂ hr
      match r with
      | .error e => exact trivial
      | .ok none =>
          have hteardown : ∀ s, (Lifecycle.teardown config s).Stable (contract key) (· = none) :=
            fun _ => stable_teardown
          refine (hteardown _ entry₂ (found hr).2).bind fun _ entry₃ hgone => ?_
          rw [hgone]
          exact shows_none
      | .ok (some current) =>
          refine (keeps_andThen _ _ _ _).mpr ((Operation.keeps_service _ _ _).mpr ⟨trivial, ?_⟩)
          intro r entry₃ hr
          cases r with
          | error e => exact trivial
          | ok =>
              obtain ⟨s, -, hwritten⟩ := wrote hr rfl nofun
              refine (Operation.keeps_service _ _ _).mpr ⟨trivial, fun r entry₄ hr => ?_⟩
              cases r with
              | error e => exact trivial
              | ok =>
                  obtain ⟨s', hs', hwritten'⟩ := wrote hr rfl nofun
                  rw [hs'] at hwritten
                  obtain ⟨version, rfl⟩ := hwritten.of_some
                  refine shows_putAddress ?_ hwritten'
                  exact ((s.records_merge tunnel).spared fun _ _ => rfl).publicIp

theorem keeps_serve (h : service.Blank ∨ ∃ t : Tunnel, t.Complete ∧ service.Records t) :
    (serve config service key.ns key.name).Keeps (contract key)
      (Outcome (fun _ => Shows cls) fun _ => True) (some service) := by
  unfold serve
  split
  · rename_i hprovisioned
    rcases h with hblank | ⟨t, ht, hrecords⟩
    · rw [hblank.not_provisioned] at hprovisioned
      cases hprovisioned
    · exact keeps_maintain hrecords ht
  · exact keeps_establish

theorem keeps_finalize (hdeleting : service.isDeleting = true) :
    (finalize config service key.ns key.name).Keeps (contract key)
      (Outcome (fun _ => Shows cls) fun _ => True) (some service) := by
  have hshows : ∀ s : Service, s.isDeleting = true → Shows cls (some s) := by
    intro s hs s' hs' _ hlive
    rw [← Option.some.inj hs', hs] at hlive
    cases hlive
  have hteardown : (Lifecycle.teardown config service).Stable (contract key) (· = some service) :=
    stable_teardown
  refine (hteardown _ rfl).bind fun _ entry hentry => ?_
  subst hentry
  split
  · refine (Operation.keeps_service _ _ _).mpr ⟨trivial, fun r entry hr => ?_⟩
    cases r with
    | error e => exact trivial
    | ok =>
        obtain ⟨s, hs, hwritten⟩ := wrote hr rfl nofun
        obtain rfl := Option.some.inj hs
        cases hwritten with
        | stored version => exact hshows _ hdeleting
        | collected => exact shows_none
  · exact hshows service hdeleting

/-- A pass that ends without error leaves the recorded address in the status, if all changes of the
Service since it began are its own. -/
theorem keeps_pass :
    (pass config cls key.ns key.name).Keeps (contract key)
      (Outcome (fun _ => Shows cls) fun _ => True) entry := by
  refine keeps_pass_ends trivial (fun _ _ _ => trivial) (fun entry' hr => ?_)
    (fun service entry' hr hforeign => ?_) (fun service entry' hr _ hdeleting => ?_)
    (fun service entry' hr _ _ _ => ?_) fun service entry' hr _ _ _ => ?_
  · rw [(found hr).2]
    exact shows_none
  · rw [(found hr).2]
    intro s hs hmanaged _
    rw [← Option.some.inj hs, hforeign] at hmanaged
    cases hmanaged
  · rw [(found hr).2]
    exact keeps_finalize hdeleting
  · rw [(found hr).2]
    exact keeps_serve (hr.1 service (found hr).1)
  · refine (Operation.keeps_service _ _ _).mpr ⟨trivial, fun r entry₂ _ => ?_⟩
    cases r with
    | error e => exact trivial
    | ok =>
        refine (Operation.keeps_service _ _ _).mpr ⟨trivial, fun r entry₃ hr => ?_⟩
        match r with
        | .error e => exact trivial
        | .ok none =>
            rw [(found hr).2]
            exact shows_none
        | .ok (some service) =>
            rw [(found hr).2]
            exact keeps_serve (hr.1 service (found hr).1)

end Shown

end ServiceTunnel
