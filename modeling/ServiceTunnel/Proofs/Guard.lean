import ServiceTunnel.Proofs.Passes
import ServiceTunnel.Proofs.Registry
import ServiceTunnel.Proofs.Simulated
import ServiceTunnel.Proofs.Scene

/-!
# ServiceTunnel.Proofs.Guard

**The finalizer guards the tunnel.** A pass makes an application only while its finalizer is on the
Service, and takes the finalizer off only once the application is deleted. Whatever users do in
between, and wherever a pass is broken off, every application has a stored Service that its
finalizer holds back (`app_guarded`).

The order is carried by a phase of each pass. What a pass has done tells its phase, so the phase
needs no trace in the program.
-/

namespace ServiceTunnel

open Kube Simulation

/-- The Service `key` is stored with the operator's finalizer on it. -/
def Realm.Guards (w : Realm) (key : ObjectKey) : Prop :=
  ∃ service, w.cluster.services.get? key = some service ∧ Reconcile.hasFinalizer service = true

/-- The pass found its Service being deleted. -/
def Flight.IsDeletion (f : Flight) : Prop :=
  ∃ service, f.seen = some service ∧ service.isDeleting = true

namespace Guard

/-- Nobody but the operator takes its finalizer off, and the call that deletes the application in a
pass over a Service that is being deleted succeeds. -/
def regime : Scene.Regime := fun s a s' =>
  match a with
  | .change key => s.realm.Guards key → s'.realm.Guards key
  | .call key (.provider (.deleteApp _)) r =>
    ∀ f, s.flights key = some f → f.IsDeletion → r = .ok ()
  | _ => True

/-! ### Phases -/

/-- How far a pass has come. -/
inductive Phase where
  /-- It has not seen its Service. -/
  | start
  /-- It has seen it, without the finalizer. -/
  | looked
  /-- The finalizer is on the Service. -/
  | guarded
  /-- The Service is being deleted. -/
  | leaving
  /-- The application is deleted. -/
  | cleared
deriving DecidableEq

/-- The phase after an answer. -/
def Phase.next : Phase → (c : Call) → c.Reply → Phase
  | .start, .service (.get _ _), .ok (some service) =>
    if service.isDeleting then .leaving
    else if Reconcile.hasFinalizer service then .guarded
    else .looked
  | .looked, .service (.setFinalizers _ _ _ _), .ok _ => .guarded
  | .leaving, .provider (.deleteApp _), _ => .cleared
  | phase, _, _ => phase

/-- The call leaves the operator's finalizer on. -/
def KeepsFinalizer : ServiceCall → Prop
  | .setFinalizers _ _ _ finalizers => Annotations.finalizer ∈ finalizers
  | _ => True

/-- A call to the provider that neither makes nor deletes an application. -/
def Minor : ProviderCall → Prop
  | .ensureApp .. | .deleteApp .. => False
  | _ => True

/-- What a look-up finds is registered. -/
def Tells (key : ObjectKey) : (c : Call) → c.Reply → Prop
  | .service (.get _ _), .ok (some service) => Registered key Set.univ service
  | _, _ => True

/-- A pass makes only its own application, and only while it is guarded. It takes the finalizer off
only once the application is deleted. -/
def contract (key : ObjectKey) : Contract Call.interface Phase where
  permits phase c :=
    match c with
    | .provider (.ensureApp app _) => app = appOf key ∧ phase = .guarded
    | .provider (.deleteApp app) => app = appOf key
    | .providerWithin _ c => Minor c
    | .service c => c.key = key ∧ c.RecordsProper key Set.univ ∧
        (KeepsFinalizer c ∨ phase = .cleared)
    | _ => True
  yields phase c r phase' := phase' = phase.next c r ∧ Tells key c r

variable {config : TunnelConfig} {key : ObjectKey} {phase : Phase} {service : Service}

theorem next_found (ns name : String) (service : Service) :
    Phase.start.next (.service (.get ns name)) (.ok (some service)) =
      if service.isDeleting then .leaving
      else if Reconcile.hasFinalizer service then .guarded
      else .looked := rfl

@[simp] theorem next_workload (phase : Phase) (c : WorkloadCall) (r : Except OperatorError Unit) :
    phase.next (.workload c) r = phase := by
  cases phase <;> rfl

theorem next_minor {c : ProviderCall} (hc : Minor c) (phase : Phase)
    (r : Except ProviderError c.Result) : phase.next (.provider c) r = phase := by
  cases c with
  | ensureApp app org => exact hc.elim
  | deleteApp app => exact hc.elim
  | _ => cases phase <;> rfl

theorem allows_of_next {c : Call} (hpermits : (contract key).permits phase c)
    (hnext : ∀ r, phase.next c r = phase) : (contract key).Allows (· = phase) c := by
  intro phase' hphase
  subst hphase
  exact ⟨hpermits, fun r s' h => h.1.trans (hnext r)⟩

theorem allows_workload (c : WorkloadCall) : (contract key).Allows (· = phase) (.workload c) :=
  allows_of_next trivial fun r => next_workload phase c r

theorem allows_minor {c : ProviderCall} (hc : Minor c) :
    (contract key).Allows (· = phase) (.provider c) := by
  refine allows_of_next ?_ (next_minor hc phase)
  cases c with
  | ensureApp app org => exact hc.elim
  | deleteApp app => exact hc.elim
  | _ => exact trivial

theorem allows_guarded {c : Call} (hpermits : (contract key).permits .guarded c) :
    (contract key).Allows (· = .guarded) c :=
  allows_of_next hpermits fun _ => rfl

/-! ### Every pass keeps the contract -/

/-- Taking down ends with the deletion of the Service's application. -/
theorem keeps_teardown (h : Registered key Set.univ service) :
    (Lifecycle.teardown config service).Keeps (contract key)
      (fun _ phase' => ∃ r : Except ProviderError Unit,
        phase' = phase.next (.provider (.deleteApp (appOf key))) r) phase := by
  have hdeployment : (contract key).Allows (· = phase)
      (.workload (.deleteDeployment config.operatorNamespace (deploymentOf key))) :=
    allows_workload _
  refine Lifecycle.keeps_teardown h.app_eq h.deployment_eq hdeployment
    (allows_workload _)
    (Lifecycle.stable_releaseAddresses (fun _ => allows_minor trivial) (allows_minor trivial))
    (Lifecycle.stable_deleteMachine fun id _ => allows_minor trivial) ?_ rfl
  intro phase' hphase
  subst hphase
  rw [Lifecycle.keeps_attempt, Operation.keeps_provider]
  exact ⟨rfl, fun r _ hr => ⟨r, hr.1⟩⟩

theorem stable_teardown (h : Registered key Set.univ service) :
    (Lifecycle.teardown config service).Stable (contract key) (· = .guarded) := by
  intro phase hphase
  subst hphase
  refine (keeps_teardown h).imp fun _ phase' hends => ?_
  obtain ⟨r, rfl⟩ := hends
  rfl

/-- Setting up: the finalizer stays on all the time. -/
def progress (config : TunnelConfig) (key : ObjectKey) (service : Service) :
    Lifecycle.Progress (contract key) config service (appOf key) (deploymentOf key) where
  before := (· = .guarded)
  founded := (· = .guarded)
  made _ := (· = .guarded)
  allocated _ _ := (· = .guarded)
  ready _ _ := (· = .guarded)
  failed _ := (· = .guarded)
  founds phase hphase := by
    refine ⟨⟨rfl, hphase⟩, fun r phase' h => ?_⟩
    subst hphase
    cases r <;> exact h.1
  creates phase hphase := by
    refine ⟨trivial, fun r phase' h => ?_⟩
    subst hphase
    cases r <;> exact h.1
  waits machine phase hphase :=
    (Lifecycle.stable_waitStarted (allows_guarded trivial)).outcome hphase fun _ h => h
  allocates machine phase hphase := by
    refine ⟨trivial, fun r phase' h => ?_⟩
    subst hphase
    cases r <;> exact h.1
  applies machine ip requirements phase _ hphase :=
    (Lifecycle.stable_applyWorkload (allows_workload _) (allows_workload _)).outcome hphase
      fun _ h => h
  deletesApp _ := allows_guarded rfl
  deletesMachine _ _ _ := allows_minor trivial
  releasesIp _ _ _ := allows_minor trivial

theorem stable_service {c : ServiceCall} (hkey : c.key = key) (hkeeps : KeepsFinalizer c)
    (hrecords : c.RecordsProper key Set.univ) :
    (Operation.service c).Stable (contract key) (· = .guarded) :=
  Operation.stable_service (allows_guarded ⟨hkey, hrecords, Or.inl hkeeps⟩)

theorem stable_establish (h : Registered key Set.univ service) :
    (Reconcile.establish config service key.ns key.name).Stable (contract key) (· = .guarded) := by
  intro phase hphase
  subst hphase
  refine (Reconcile.keeps_andThen _ _ _ _).mpr ?_
  refine ((progress config key service).keeps_provision (s := .guarded) (ofService_app h.ns h.name)
    (ofService_deployment h.ns h.name) rfl).imp ?_
  intro r phase hended
  cases r with
  | error e =>
      obtain ⟨-, hbefore⟩ | ⟨made, hfailed⟩ := hended
      · exact hbefore
      · exact hfailed
  | ok tunnel =>
      obtain ⟨machine, ip, rfl, hready⟩ := hended
      have hproper := proper_tunnelOf key (Set.subset_univ
        (Set.univ ∪ {Title.machine machine.id, Title.ip ip.id}))
      refine Reconcile.stable_andThen (stable_service (c := .get _ _) rfl trivial trivial)
        (fun found => ?_) phase hready
      cases found with
      | none =>
          exact (stable_teardown (registered_withAnnotations h.ns h.name hproper)).bind
            fun _ => Program.stable_done _ _
      | some current =>
          exact Reconcile.stable_andThen (stable_service rfl trivial ⟨_, rfl, hproper⟩)
            fun _ => stable_service rfl trivial trivial

theorem stable_serve (h : Registered key Set.univ service) :
    (Reconcile.serve config service key.ns key.name).Stable (contract key) (· = .guarded) := by
  unfold Reconcile.serve
  split
  · refine Reconcile.stable_maintain
      (fun ip _ _ => allows_guarded ⟨rfl, trivial, Or.inl trivial⟩) ?_
    exact Lifecycle.stable_update
      (fun _ _ _ _ _ _ => Lifecycle.stable_applyWorkload (allows_workload _) (allows_workload _))
      fun _ _ _ _ => Lifecycle.stable_updateMachine (allows_minor trivial)
        (allows_minor trivial)
  · exact stable_establish h

/-- In a pass over a Service that is being deleted, the finalizer goes last. -/
theorem keeps_finalize (h : Registered key Set.univ service) :
    (Reconcile.finalize config service key.ns key.name).Keeps (contract key)
      (fun _ _ => True) .leaving := by
  refine (keeps_teardown h).bind fun _ phase hphase => ?_
  obtain ⟨r, rfl⟩ := hphase
  split
  · exact ⟨⟨rfl, trivial, Or.inr rfl⟩, fun _ _ _ => trivial⟩
  · exact trivial

theorem keeps_pass (cls : String) :
    (Reconcile.pass config cls key.ns key.name).Keeps (contract key) (fun _ _ => True) .start := by
  refine Reconcile.keeps_pass ⟨rfl, trivial, Or.inl trivial⟩ ?_ ?_ ?_
  · intro service phase hfound hdeleting
    obtain ⟨rfl, hregistered⟩ := hfound
    rw [next_found, if_pos hdeleting]
    exact keeps_finalize hregistered
  · intro service phase hfound hdeleting hfinalizer
    obtain ⟨rfl, hregistered⟩ := hfound
    rw [next_found, if_neg hdeleting, if_pos hfinalizer]
    exact (stable_serve hregistered _ rfl).imp fun _ _ _ => trivial
  · intro service phase hfound hdeleting hbare
    obtain ⟨rfl, -⟩ := hfound
    rw [next_found, if_neg hdeleting, if_neg hbare]
    -- the finalizer is put on before anything is made
    have hkeeps : Annotations.finalizer ∈ service.finalizers ++ [Annotations.finalizer] :=
      List.mem_append_right _ (List.mem_singleton_self _)
    refine ⟨⟨rfl, trivial, Or.inl hkeeps⟩, ?_⟩
    intro r phase hr
    obtain ⟨rfl, -⟩ := hr
    cases r with
    | error e => exact trivial
    | ok =>
        refine ⟨⟨rfl, trivial, Or.inl trivial⟩, ?_⟩
        intro service phase hfound
        obtain ⟨rfl, hregistered⟩ := hfound
        exact (stable_serve hregistered _ rfl).imp fun _ _ _ => trivial

/-! ### What every run keeps -/

theorem hasFinalizer_edit {c : ServiceCall} (hc : KeepsFinalizer c)
    (h : Reconcile.hasFinalizer service = true) :
    Reconcile.hasFinalizer (c.edit service) = true := by
  cases c with
  | setFinalizers ns name version finalizers => exact List.contains_iff_mem.mpr hc
  | _ => exact h

/-- A Service that is written with the finalizer on it is stored. -/
theorem stored_of_written {f : Service → Service} {entry : Option Service}
    (h : Cluster.Written f service entry) (hf : Reconcile.hasFinalizer (f service) = true) :
    ∃ version, entry = some ((f service).stamped version) := by
  cases h with
  | stored version => exact ⟨version, rfl⟩
  | collected hdeleting hfree =>
      unfold Reconcile.hasFinalizer at hf
      rw [hfree] at hf
      cases hf

theorem exists_of_written {f : Service → Service} {entry : Option Service}
    (h : Cluster.Written f service entry) (hf : Reconcile.hasFinalizer (f service) = true) :
    ∃ s, entry = some s ∧ Reconcile.hasFinalizer s = true := by
  obtain ⟨version, hstored⟩ := stored_of_written h hf
  exact ⟨_, hstored, hf⟩

/-- Unless the application is deleted, a pass leaves the finalizer on; and it leaves that of every
other Service on. -/
theorem guards_call {w w' : Realm} {c : Call} {r : c.Reply} {other : ObjectKey}
    (hanswers : w.Answers c r w') (hpermits : (contract key).permits phase c)
    (hother : other = key → phase ≠ .cleared) (h : w.Guards other) : w'.Guards other := by
  obtain ⟨service, hservice, hfinalizer⟩ := h
  obtain hsame | ⟨sc, old, rfl, rfl, hold, hwritten⟩ := hanswers.entry other
  · exact ⟨service, hsame.trans hservice, hfinalizer⟩
  · obtain ⟨hkey, -, hkeeps⟩ := hpermits
    rw [hservice, Option.some.injEq] at hold
    subst hold
    -- a Service that is written with the finalizer on it is not collected
    refine exists_of_written hwritten ?_
    exact hasFinalizer_edit (hkeeps.resolve_right (hother hkey)) hfinalizer

/-- A pass that has become guarded has its finalizer on the Service. -/
theorem guards_next {w w' : Realm} {c : Call} {r : c.Reply} (hanswers : w.Answers c r w')
    (hpermits : (contract key).permits phase c) (hnext : phase.next c r = .guarded)
    (h : phase = .guarded → w.Guards key) : w'.Guards key := by
  unfold Phase.next at hnext
  split at hnext
  · rename_i ns name service
    obtain ⟨hfound, hsame⟩ := hanswers.found
    obtain ⟨rfl, -⟩ := hpermits
    refine ⟨service, by rw [hsame]; exact hfound, ?_⟩
    by_contra hfinalizer
    rw [if_neg hfinalizer] at hnext
    split at hnext <;> cases hnext
  · rename_i ns name version finalizers answer
    obtain ⟨old, -, hwritten⟩ := hanswers.wrote nofun
    obtain ⟨rfl, -, hkeeps⟩ := hpermits
    exact exists_of_written hwritten (List.contains_iff_mem.mpr (hkeeps.resolve_right nofun))
  · cases hnext
  · exact guards_call hanswers hpermits (fun _ => by rw [hnext]; exact nofun) (h hnext)

/-! ### The invariant -/

/-- Everything at the provider belongs to an application, and every application to a Service that
the finalizer holds back until its pass has deleted the application. -/
structure Guarded (phases : ObjectKey → Phase) (s : Scene) : Prop where
  registered : ∀ key service, s.realm.cluster.services.get? key = some service →
    Registered key Set.univ service
  tidy : s.realm.estate.Tidy
  owner : ∀ app, app ∈ s.realm.estate.apps →
    ∃ key, appOf key = app ∧ s.realm.Guards key ∧ phases key ≠ .cleared
  guarded : ∀ key, phases key = .guarded → s.realm.Guards key
  unseen : ∀ key f, s.flights key = some f → phases key = .start → f.seen = none
  deletion : ∀ key f, s.flights key = some f → phases key = .leaving → f.IsDeletion

theorem next_eq_start {c : Call} {r : c.Reply} (h : phase.next c r = .start) :
    phase = .start := by
  unfold Phase.next at h
  split at h
  · rfl
  · cases h
  · cases h
  · exact h

theorem next_eq_cleared {c : Call} {r : c.Reply} (h : phase.next c r = .cleared) :
    phase = .cleared ∨ phase = .leaving ∧ ∃ app, c = .provider (.deleteApp app) := by
  unfold Phase.next at h
  split at h
  · split at h
    · cases h
    · split at h <;> cases h
  · cases h
  · rename_i app answer
    exact Or.inr ⟨rfl, app, rfl⟩
  · exact Or.inl h

theorem see_some (service : Service) (c : Call) (r : c.Reply) :
    Flight.see (some service) c r = some service := by
  unfold Flight.see
  split <;> rfl

/-- A pass that has still to start has seen nothing. -/
theorem see_of_start {c : Call} {r : c.Reply} (h : Phase.start.next c r = .start) :
    Flight.see none c r = none := by
  unfold Flight.see
  split
  · rename_i found
    cases found with
    | none => rfl
    | some service =>
        rw [next_found] at h
        split at h
        · cases h
        · split at h <;> cases h
  · rfl

/-- A pass that takes a tunnel down has seen its Service being deleted. -/
theorem see_of_leaving {seen : Option Service} {c : Call} {r : c.Reply}
    (hseen : phase = .start → seen = none)
    (hleaving : phase = .leaving → ∃ service, seen = some service ∧ service.isDeleting = true)
    (h : phase.next c r = .leaving) :
    ∃ service, Flight.see seen c r = some service ∧ service.isDeleting = true := by
  unfold Phase.next at h
  split at h
  · rename_i ns name service
    rw [hseen rfl]
    refine ⟨service, rfl, ?_⟩
    by_contra hdeleting
    rw [if_neg hdeleting] at h
    split at h <;> cases h
  · cases h
  · cases h
  · obtain ⟨service, rfl, hdeleting⟩ := hleaving h
    exact ⟨service, see_some service _ _, hdeleting⟩

/-- Every application belongs to a guarded Service after a call, too. -/
theorem owner_call {phases : ObjectKey → Phase} {w w' : Realm} {c : Call} {r : c.Reply}
    (hanswers : w.Answers c r w') (hpermits : (contract key).permits (phases key) c)
    (hdelete : phases key = .leaving → ∀ app, c = .provider (.deleteApp app) →
      app ∉ w'.estate.apps)
    (hguarded : phases key = .guarded → w.Guards key)
    (h : ∀ app, app ∈ w.estate.apps →
      ∃ other, appOf other = app ∧ w.Guards other ∧ phases other ≠ .cleared) :
    ∀ app, app ∈ w'.estate.apps → ∃ other, appOf other = app ∧ w'.Guards other ∧
      Function.update phases key ((phases key).next c r) other ≠ .cleared := by
  intro app happ
  have hmade : app ∈ w.estate.apps ∨ ∃ org, c = .provider (.ensureApp app org) := by
    obtain hsame | ⟨pc, a, hpc, hcarries⟩ := hanswers.estate
    · exact Or.inl (by rw [← hsame]; exact happ)
    · rcases hcarries.mem_apps happ with hold | ⟨org, rfl⟩
      · exact Or.inl hold
      · cases c with
        | provider pc => cases hpc; exact Or.inr ⟨org, rfl⟩
        | providerWithin limit pc => cases hpc; exact hpermits.elim
        | workload wc => cases hpc
        | service sc => cases hpc
  rcases hmade with hold | ⟨org, rfl⟩
  · obtain ⟨other, rfl, hguards, hphase⟩ := h app hold
    refine ⟨other, rfl, guards_call hanswers hpermits (fun hother => ?_) hguards, ?_⟩
    · rw [← hother]
      exact hphase
    · by_cases hother : other = key
      · subst hother
        rw [Function.update_self]
        intro hcleared
        -- a pass is cleared only by a deletion, and then the application is no longer there
        rcases next_eq_cleared hcleared with hcleared | ⟨hleaving, app, rfl⟩
        · exact hphase hcleared
        · obtain rfl : app = appOf other := hpermits
          exact hdelete hleaving _ rfl happ
      · rw [Function.update_of_ne hother]
        exact hphase
  · -- only a guarded pass makes an application, so its own Service is the owner
    obtain ⟨rfl, hphase⟩ := hpermits
    refine ⟨key, rfl, guards_call hanswers ⟨rfl, hphase⟩ (fun _ => ?_) (hguarded hphase), ?_⟩
    · rw [hphase]
      exact nofun
    · rw [Function.update_self, hphase]
      exact nofun

theorem tells_of_registered {w w' : Realm} {c : Call} {r : c.Reply} (hanswers : w.Answers c r w')
    (hpermits : (contract key).permits phase c)
    (h : ∀ service, w.cluster.services.get? key = some service →
      Registered key Set.univ service) : Tells key c r := by
  unfold Tells
  split
  · rename_i ns name service
    obtain ⟨rfl, -⟩ := hpermits
    exact h service hanswers.found.1
  · trivial

/-- A call of a pass leaves everything guarded. -/
theorem guarded_call {phases : ObjectKey → Phase} {cls : String} {s s' : Scene} {c : Call}
    {r : c.Reply} (h : Guarded phases s) (hstep : Scene.Step config cls s (.call key c r) s')
    (hR : regime s (.call key c r) s') (hpermits : (contract key).permits (phases key) c) :
    Guarded (Function.update phases key ((phases key).next c r)) s' := by
  cases hstep with
  | call key seen c next r realm hflight hanswers =>
  have hrecords : ∀ sc, c = .service sc → sc.RecordsProper sc.key Set.univ := by
    intro sc hsc
    subst hsc
    rw [hpermits.1]
    exact hpermits.2.1
  have hdelete : phases key = .leaving → ∀ app, c = .provider (.deleteApp app) →
      app ∉ realm.estate.apps := by
    intro hleaving app hcall
    subst hcall
    -- the pass saw its Service being deleted, and there the regime rules a failure out
    obtain rfl := hR _ hflight (h.deletion key _ hflight hleaving)
    rw [show realm.estate = s.realm.estate.withoutApp app from hanswers.1]
    exact fun happ => happ.2 rfl
  refine ⟨registered_call hanswers hrecords h.registered, ?_,
    owner_call hanswers hpermits hdelete (h.guarded key) h.owner, fun other => ?_,
    fun other f => ?_, fun other f => ?_⟩
  · obtain hsame | ⟨pc, a, -, hcarries⟩ := hanswers.estate
    · rw [hsame]
      exact h.tidy
    · exact hcarries.tidy h.tidy
  · by_cases hother : other = key
    · subst hother
      rw [Function.update_self]
      exact fun hnext => guards_next hanswers hpermits hnext (h.guarded other)
    · rw [Function.update_of_ne hother]
      exact fun hphase =>
        guards_call hanswers hpermits (fun heq => absurd heq hother) (h.guarded other hphase)
  · by_cases hother : other = key
    · subst hother
      simp only [Function.update_self]
      intro hf hnext
      cases hf
      have hstart := next_eq_start hnext
      have hseen : seen = none := h.unseen other _ hflight hstart
      rw [hstart] at hnext
      subst hseen
      exact see_of_start hnext
    · simp only [Function.update_of_ne hother]
      exact h.unseen other f
  · by_cases hother : other = key
    · subst hother
      simp only [Function.update_self]
      intro hf hnext
      cases hf
      exact see_of_leaving (h.unseen other _ hflight) (h.deletion other _ hflight) hnext
    · simp only [Function.update_of_ne hother]
      exact h.deletion other f

/-- The end of a pass, and a change by others, leave everything guarded. -/
theorem guarded_of_guards {phases phases' : ObjectKey → Phase} {s s' : Scene}
    (h : Guarded phases s) (hestate : s'.realm.estate = s.realm.estate)
    (hregistered : ∀ other service, s'.realm.cluster.services.get? other = some service →
      Registered other Set.univ service)
    (hguards : ∀ other, s.realm.Guards other → s'.realm.Guards other)
    (hphases : ∀ other, phases' other = phases other ∨
      phases' other = .start ∧ s'.flights other = none)
    (hflights : ∀ other f, s'.flights other = some f → s.flights other = some f) :
    Guarded phases' s' := by
  refine ⟨hregistered, by rw [hestate]; exact h.tidy, fun app happ => ?_, fun other hphase => ?_,
    fun other f hf hphase => ?_, fun other f hf hphase => ?_⟩
  · rw [hestate] at happ
    obtain ⟨other, rfl, hold, hphase⟩ := h.owner app happ
    refine ⟨other, rfl, hguards other hold, ?_⟩
    rcases hphases other with hsame | ⟨hstart, -⟩
    · rw [hsame]
      exact hphase
    · rw [hstart]
      exact nofun
  · rcases hphases other with hsame | ⟨hstart, -⟩
    · exact hguards other (h.guarded other (by rw [← hsame]; exact hphase))
    · rw [hstart] at hphase
      cases hphase
  · rcases hphases other with hsame | ⟨-, hnone⟩
    · exact h.unseen other f (hflights other f hf) (by rw [← hsame]; exact hphase)
    · rw [hnone] at hf
      cases hf
  · rcases hphases other with hsame | ⟨-, hnone⟩
    · exact h.deletion other f (hflights other f hf) (by rw [← hsame]; exact hphase)
    · rw [hnone] at hf
      cases hf

/-- The rules under which the finalizer guards every tunnel. -/
def rules (config : TunnelConfig) (cls : String) : Scene.Rules config cls regime Phase where
  contract := contract
  idle := .start
  inv := Guarded
  pass_keeps key := keeps_pass cls
  begin_inv {phases s s' key} h hstep _ hidle := by
    cases hstep with
    | begin key hnone =>
        refine ⟨h.registered, h.tidy, h.owner, h.guarded, fun other f hf hphase => ?_,
          fun other f hf hphase => ?_⟩
        · by_cases hother : other = key
          · subst hother
            simp only [Function.update_self, Option.some.injEq] at hf
            rw [← hf]
            rfl
          · simp only [Function.update_of_ne hother] at hf
            exact h.unseen other f hf hphase
        · by_cases hother : other = key
          · rw [hother, hidle] at hphase
            cases hphase
          · simp only [Function.update_of_ne hother] at hf
            exact h.deletion other f hf hphase
  call_inv {phases s s' key c r} h hstep hR hpermits := by
    refine ⟨(phases key).next c r, ⟨rfl, ?_⟩, guarded_call h hstep hR hpermits⟩
    cases hstep with
    | call key seen c next r realm hflight hanswers =>
        exact tells_of_registered hanswers hpermits (h.registered key)
  finish_inv {phases s s' key} h hstep _ _ := by
    cases hstep with
    | finish key flight hflight =>
        refine guarded_of_guards h rfl h.registered (fun _ hguards => hguards) (fun other => ?_)
          fun other f hf => ?_
        · by_cases hother : other = key
          · subst hother
            simp only [Function.update_self, and_self, or_true]
          · exact Or.inl (Function.update_of_ne hother _ _)
        · by_cases hother : other = key
          · subst hother
            simp only [Function.update_self, reduceCtorEq] at hf
          · simpa only [Function.update_of_ne hother] using hf
  change_inv {phases s s' key} h hstep hR := by
    cases hstep with
    | change key cluster hchanges =>
        refine guarded_of_guards h rfl ?_ (fun other hguards => ?_) (fun _ => Or.inl rfl)
          fun _ _ hf => hf
        · intro other service hservice
          by_cases hother : other = key
          · subst hother
            exact registered_change hchanges (h.registered other) service hservice
          · rw [hchanges.elsewhere hother] at hservice
            exact h.registered other service hservice
        · by_cases hother : other = key
          · subst hother
            exact hR hguards
          · obtain ⟨service, hservice, hfinalizer⟩ := hguards
            refine ⟨service, ?_, hfinalizer⟩
            rw [hchanges.elsewhere hother]
            exact hservice

theorem guarded_of_fresh {s : Scene} (h : s.Fresh) : Guarded (fun _ => .start) s where
  registered key service hservice := by
    obtain ⟨hns, hname⟩ := h.named key service hservice
    refine ⟨hns, hname, ?_⟩
    rw [h.unrecorded key service hservice]
    exact TunnelRecord.proper_empty
  tidy := by
    refine ⟨fun id owner m hm => ?_, fun id owner ip hip => ?_⟩
    · have hnone := h.noMachines owner id
      rw [Estate.machineOf?, hm, Slot.of?_held_self] at hnone
      cases hnone
    · have hnone := h.noIps owner id
      rw [Estate.ipOf?, hip, Slot.of?_held_self] at hnone
      cases hnone
  owner app happ := by
    rw [h.noApps] at happ
    exact happ.elim
  guarded _ hphase := by cases hphase
  unseen key f hf := by
    rw [h.idle key] at hf
    cases hf
  deletion key f hf := by
    rw [h.idle key] at hf
    cases hf

end Guard

/-- **The finalizer guards the tunnel.** Begin with nothing at the provider and nothing recorded,
and let passes and users act in any order. Whatever there is at the provider at any time is of the
application of a Service that is still stored with the operator's finalizer on it. -/
theorem app_guarded {config : TunnelConfig} {cls : String} {s₀ s : Scene} {app : String}
    (hfresh : s₀.Fresh) (hreach : Scene.Reach config cls Guard.regime s₀ s)
    (happ : s.realm.estate.Bears app) :
    ∃ key service, s.realm.cluster.services.get? key = some service ∧
      Name.ofService .app service = app ∧ Annotations.finalizer ∈ service.finalizers := by
  obtain ⟨phases, hholds⟩ :=
    (Guard.rules config cls).sound hfresh.idle (Guard.guarded_of_fresh hfresh) hreach
  have hinv : Guard.Guarded phases s := hholds.inv
  have hmem : app ∈ s.realm.estate.apps := by
    rcases happ with happ | ⟨id, m, hm⟩ | ⟨id, ip, hip⟩
    · exact happ
    · exact hinv.tidy.machines id app m (Slot.of?_eq_some.mp hm)
    · exact hinv.tidy.ips id app ip (Slot.of?_eq_some.mp hip)
  obtain ⟨key, rfl, ⟨service, hservice, hfinalizer⟩, -⟩ := hinv.owner app hmem
  have hregistered := hinv.registered key service hservice
  exact ⟨key, service, hservice, ofService_app hregistered.ns hregistered.name,
    List.contains_iff_mem.mp hfinalizer⟩

/-- Once a pass has gone through, the application of the Service is guarded by its finalizer. -/
theorem app_guarded_web :
    ∃ s, Scene.Reach sampleConfig "fly" Guard.regime
        (Scene.untouched (.sample ["web"])) s ∧
      s.realm.estate.Bears "fly-tunnel-default-web" ∧
      ∃ key service, s.realm.cluster.services.get? key = some service ∧
        Name.ofService .app service = "fly-tunnel-default-web" ∧
        Annotations.finalizer ∈ service.finalizers := by
  have hcalls : ∀ s s' c (t : Site),
      Guard.regime s (.call ⟨"default", "web"⟩ c (Site.perform c t).1) s' := by
    intro s s' c t
    cases c with
    | provider pc =>
        cases pc with
        | deleteApp app => exact fun _ _ _ => rfl
        | _ => exact trivial
    | _ => exact trivial
  have hstart : Scene.Reach sampleConfig "fly" Guard.regime
      (Scene.untouched (.sample ["web"]))
      (Scene.untouched (.sample ["web"])) := .refl
  obtain ⟨w, seen, hdepicts, hreach⟩ := Scene.Reach.pass ⟨"default", "web"⟩
    (fun _ _ => trivial) hcalls hstart (Scene.depicts_untouched _) rfl 20
  have happ : "fly-tunnel-default-web" ∈ w.estate.apps :=
    (hdepicts.1.apps _).mpr (by decide +kernel)
  exact ⟨_, hreach, Or.inl happ,
    app_guarded (Scene.fresh_sample ["web"]) hreach (Or.inl happ)⟩

end ServiceTunnel
