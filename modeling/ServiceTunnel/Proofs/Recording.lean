import ServiceTunnel.Proofs.Guard
import ServiceTunnel.Proofs.Registry

/-!
# ServiceTunnel.Proofs.Recording

**What a pass makes, it records or deletes.** A pass has a machine made, then an address allocated,
and writes the record when the client is stored as well. In between nobody but the pass knows of
what it has made. However its calls are answered, it gets out of that in one of three ways
(`Single.keeps_pass`): the record is written, or the deletion of the application is asked for, or
the pass is lost, because the Service could not be looked up again or the record not be written.
What there is at the provider in each case is the subject of `ServiceTunnel.Proofs.Single`.
-/

namespace ServiceTunnel

open Kube

namespace Single

/-! ### Stages -/

/-- How far a pass has come. -/
inductive Stage where
  /-- It makes nothing. -/
  | resting
  /-- It has seen its Service without the finalizer. -/
  | unguarded
  /-- It has put the finalizer on. -/
  | guarded
  /-- It has seen that nothing is recorded, and the finalizer is on. -/
  | making
  /-- It has asked for a machine. -/
  | made
  /-- It has got an address. -/
  | ready
  /-- It has failed, and undoes what it has made. -/
  | undoing
  /-- It takes down the tunnel of a Service that is being deleted, or gone. -/
  | leaving
  /-- It has asked for the deletion of the application. -/
  | cleared
  /-- It has made all of a tunnel, and could not record it. -/
  | lost

/-- The stage of a pass that cares for a Service with the finalizer on it. -/
def Stage.seeing (service : Service) : Stage :=
  if (TunnelRecord.ofService service).isProvisioned then .resting else .making

/-- The stage after an answer. -/
def Stage.next : Stage → (c : Call) → c.Reply → Stage
  | _, .provider (.deleteApp _), _ => .cleared
  | .resting, .service (.get _ _), .ok (some service) =>
    if service.isDeleting then .leaving
    else if Reconcile.hasFinalizer service then .seeing service
    else .unguarded
  | .unguarded, .service (.setFinalizers _ _ _ _), .ok _ => .guarded
  | .guarded, .service (.get _ _), .ok (some service) => .seeing service
  | .making, .provider (.createMachine _ _), _ => .made
  | .made, .provider (.allocateIp _), .ok _ => .ready
  | .made, .provider (.allocateIp _), .error _ => .undoing
  | .ready, .provider _, _ => .undoing
  | .ready, .service (.get _ _), .ok none => .leaving
  | .ready, .service (.get _ _), .error _ => .lost
  | .ready, .service (.patchAnnotations _ _ _ _), .ok _ => .resting
  | .ready, .service (.patchAnnotations _ _ _ _), .error _ => .lost
  | stage, _, _ => stage

/-- Whatever a pass has made is recorded in this stage, or its deletion is asked for, or the pass is
lost. -/
def Stage.Settled : Stage → Prop
  | .made | .ready | .undoing => False
  | _ => True

/-- What a look-up finds has the name that was asked for. -/
def Tells (key : ObjectKey) : (c : Call) → c.Reply → Prop
  | .service (.get _ _), .ok (some service) => service.ns = key.ns ∧ service.name = key.name
  | _, _ => True

/-- A pass makes one machine and one address, both in its own application and only if it saw no
record. It records the tunnel when all is made. It deletes no application but its own, unless the
Service is being deleted or gone, and takes the finalizer off only after that. -/
def contract (key : ObjectKey) : Contract Call.interface Stage where
  permits stage c :=
    match c with
    | .provider (.createMachine _ _) => stage = .making
    | .provider (.allocateIp app) => stage = .made ∧ app = appOf key
    | .provider (.deleteApp app) => app = appOf key ∨ stage = .leaving
    | .providerWithin _ (.waitForMachine _ _ _ _ _) => stage = .made
    | .providerWithin _ _ => False
    | .service (.patchAnnotations ns name _ annotations) => ⟨ns, name⟩ = key ∧ stage = .ready ∧
      ∃ t : Tunnel, t.appName = appOf key ∧ annotations = (TunnelRecord.ofTunnel t).toAnnotations
    | .service c => c.key = key ∧ (Guard.KeepsFinalizer c ∨ stage = .cleared)
    | _ => True
  yields stage c r stage' := stage' = stage.next c r ∧ Tells key c r

variable {config : TunnelConfig} {key : ObjectKey} {stage : Stage} {service : Service}

/-! ### Every pass keeps the contract -/

/-- A call that is permitted at a stage, and leaves the pass there. -/
theorem allows_of_next {c : Call} (hpermits : (contract key).permits stage c)
    (hnext : ∀ r, stage.next c r = stage) : (contract key).Allows (· = stage) c := by
  intro stage' hstage
  subst hstage
  exact ⟨hpermits, fun r s' h => h.1.trans (hnext r)⟩

theorem allows_workload (c : WorkloadCall) : (contract key).Allows (· = stage) (.workload c) :=
  allows_of_next trivial fun r => by cases stage <;> rfl

/-- Whatever tunnel is taken down, the deletion of its application is asked for. -/
theorem keeps_teardown (service : Service) :
    (Lifecycle.teardown config service).Keeps (contract key) (fun _ => (· = .cleared))
      .leaving := by
  have hdeployment : ∀ name, (contract key).Allows (· = .leaving)
      (.workload (.deleteDeployment config.operatorNamespace name)) :=
    fun _ => allows_workload _
  refine Lifecycle.keeps_teardown rfl rfl (hdeployment _) (allows_workload _)
    (Lifecycle.stable_releaseAddresses (fun _ => allows_of_next trivial fun _ => rfl)
      (allows_of_next trivial fun _ => rfl))
    (Lifecycle.stable_deleteMachine fun _ _ => allows_of_next trivial fun _ => rfl) ?_ rfl
  intro stage hstage
  subst hstage
  rw [Lifecycle.keeps_attempt, Operation.keeps_provider]
  exact ⟨Or.inr rfl, fun r _ hr => hr.1⟩

/-- The tunnel of a deleted Service is taken down before the finalizer goes. -/
theorem keeps_finalize (service : Service) :
    (Reconcile.finalize config service key.ns key.name).Keeps (contract key)
      (fun _ => Stage.Settled) .leaving := by
  refine (keeps_teardown service).bind fun _ stage hstage => ?_
  subst hstage
  split
  · exact ⟨⟨rfl, Or.inr rfl⟩, fun r _ hr => by rw [hr.1]; exact trivial⟩
  · exact trivial

theorem stable_maintain (service : Service) :
    (Reconcile.maintain config service key.ns key.name).Stable (contract key) (· = .resting) := by
  refine Reconcile.stable_maintain
    (fun ip _ _ => allows_of_next ⟨rfl, Or.inl trivial⟩ fun _ => rfl) ?_
  exact Lifecycle.stable_update
    (fun _ _ _ _ _ _ => Lifecycle.stable_applyWorkload (allows_workload _) (allows_workload _))
    fun _ _ _ _ => Lifecycle.stable_updateMachine (allows_of_next trivial fun _ => rfl)
      (allows_of_next trivial fun _ => rfl)

/-- While a pass undoes what it has made, it may delete and release. -/
theorem allows_undoing {app id : String} {c : ProviderCall}
    (hc : c = .deleteMachine app id ∨ c = .releaseIp app id) :
    (contract key).Allows (fun stage => ¬ stage.Settled) (.provider c) := by
  intro stage hstage
  rcases hc with rfl | rfl
  all_goals
    refine ⟨trivial, fun r stage' hyields => ?_⟩
    obtain rfl := hyields.1
    cases stage with
    | made | ready | undoing => exact not_false
    | _ => exact absurd trivial hstage

/-- Setting up: one machine is asked for, then one address. If a step fails, undoing ends with the
deletion of the application. -/
def rollback (config : TunnelConfig) (key : ObjectKey) (service : Service) :
    Lifecycle.Rollback (contract key) config service (appOf key) (deploymentOf key) where
  before := (· = .making)
  founded := (· = .making)
  made _ := (· = .made)
  allocated _ _ := (· = .ready)
  ready _ _ := (· = .ready)
  failed _ stage := ¬ stage.Settled
  undone := Stage.Settled
  founds stage hstage := by
    subst hstage
    refine ⟨trivial, fun r stage' hyields => ?_⟩
    obtain rfl : stage' = .making := hyields.1
    cases r with
    | ok => exact rfl
    | error e => exact trivial
  creates stage hstage := by
    subst hstage
    refine ⟨rfl, fun r stage' hyields => ?_⟩
    obtain rfl : stage' = .made := hyields.1
    cases r with
    | ok machine => exact rfl
    | error e => exact not_false
  waits machine stage hstage :=
    (Lifecycle.stable_waitStarted (allows_of_next rfl fun _ => rfl)).outcome hstage
      fun _ hmade => by
        subst hmade
        exact not_false
  allocates machine stage hstage := by
    subst hstage
    refine ⟨⟨rfl, rfl⟩, fun r stage' hyields => ?_⟩
    cases r with
    | ok ip => exact hyields.1
    | error e =>
        obtain rfl : stage' = .undoing := hyields.1
        exact not_false
  applies machine ip requirements stage _ hstage :=
    (Lifecycle.stable_applyWorkload (allows_workload _) (allows_workload _)).outcome hstage
      fun _ hready => by
        subst hready
        exact not_false
  deletesMachine _ _ _ := allows_undoing (Or.inl rfl)
  releasesIp _ _ _ := allows_undoing (Or.inr rfl)
  deletesApp _ stage _ := by
    refine ⟨Or.inl rfl, fun r stage' hyields => ?_⟩
    obtain rfl : stage' = .cleared := hyields.1.trans (by cases stage <;> rfl)
    cases r <;> exact trivial

/-- What is made is recorded, or undone. -/
theorem keeps_establish (hns : service.ns = key.ns) (hname : service.name = key.name) :
    (Reconcile.establish config service key.ns key.name).Keeps (contract key)
      (fun _ => Stage.Settled) .making := by
  refine (Reconcile.keeps_andThen _ _ _ _).mpr ?_
  refine ((rollback config key service).keeps_provision (s := .making) (ofService_app hns hname)
    (ofService_deployment hns hname) rfl).imp ?_
  intro r stage hended
  cases r with
  | error e =>
      obtain ⟨-, hbefore⟩ | hundone := hended
      · obtain rfl : stage = .making := hbefore
        exact trivial
      · exact hundone
  | ok tunnel =>
      obtain ⟨machine, ip, rfl, hready⟩ := hended
      obtain rfl : stage = .ready := hready
      refine (Reconcile.keeps_andThen _ _ _ _).mpr
        ⟨⟨rfl, Or.inl trivial⟩, fun (r : Except OperatorError (Option Service)) stage hyields => ?_⟩
      match r with
      | .error e =>
          obtain rfl : stage = .lost := hyields.1
          exact trivial
      | .ok none =>
          obtain rfl : stage = .leaving := hyields.1
          refine (keeps_teardown _).bind fun _ stage hstage => ?_
          subst hstage
          exact trivial
      | .ok (some current) =>
          obtain rfl : stage = .ready := hyields.1
          refine (Reconcile.keeps_andThen _ _ _ _).mpr
            ⟨⟨rfl, rfl, _, rfl, rfl⟩, fun (r : Except OperatorError Unit) stage hyields => ?_⟩
          cases r with
          | error e =>
              obtain rfl : stage = .lost := hyields.1
              exact trivial
          | ok =>
              -- the record is written, so nothing is left to be settled
              obtain rfl : stage = .resting := hyields.1
              refine ⟨⟨rfl, Or.inl trivial⟩, fun r stage hyields => ?_⟩
              obtain rfl : stage = .resting := hyields.1
              exact trivial

theorem keeps_serve (hns : service.ns = key.ns) (hname : service.name = key.name) :
    (Reconcile.serve config service key.ns key.name).Keeps (contract key)
      (fun _ => Stage.Settled) (.seeing service) := by
  unfold Reconcile.serve Stage.seeing
  split
  · refine (stable_maintain service _ rfl).imp fun _ stage hresting => ?_
    subst hresting
    exact trivial
  · exact keeps_establish hns hname

theorem settled_seeing (service : Service) : (Stage.seeing service).Settled := by
  unfold Stage.seeing
  split <;> exact trivial

/-- **A pass settles what it makes.** When it is over it has recorded the tunnel, or has asked for
the deletion of the application, or is lost. -/
theorem keeps_pass (cls : String) :
    (Reconcile.pass config cls key.ns key.name).Keeps (contract key) (fun _ => Stage.Settled)
      .resting := by
  refine Reconcile.keeps_pass_ends ⟨rfl, Or.inl trivial⟩ ?_ ?_ ?_ ?_ ?_ ?_
  · intro e stage hlost
    obtain rfl : stage = .resting := hlost.1
    exact trivial
  · intro stage hgone
    obtain rfl : stage = .resting := hgone.1
    exact trivial
  · intro service stage hfound _
    rw [hfound.1]
    simp only [Stage.next]
    split
    · exact trivial
    · split
      · exact settled_seeing service
      · exact trivial
  · intro service stage hfound _ hdeleting
    obtain rfl : stage = _ := hfound.1.trans (if_pos hdeleting)
    exact keeps_finalize service
  · intro service stage hfound _ hdeleting hfinalizer
    obtain rfl : stage = _ := hfound.1.trans ((if_neg hdeleting).trans (if_pos hfinalizer))
    exact keeps_serve hfound.2.1 hfound.2.2
  · intro service stage hfound _ hdeleting hbare
    obtain rfl : stage = .unguarded := hfound.1.trans ((if_neg hdeleting).trans (if_neg hbare))
    have hkeeps : Annotations.finalizer ∈ service.finalizers ++ [Annotations.finalizer] :=
      List.mem_append_right _ (List.mem_singleton_self _)
    refine ⟨⟨rfl, Or.inl hkeeps⟩, fun (r : Except OperatorError Unit) stage hyields => ?_⟩
    cases r with
    | error e =>
        obtain rfl : stage = .unguarded := hyields.1
        exact trivial
    | ok =>
        obtain rfl : stage = .guarded := hyields.1
        refine ⟨⟨rfl, Or.inl trivial⟩,
          fun (r : Except OperatorError (Option Service)) stage hyields => ?_⟩
        match r with
        | .error e =>
            obtain rfl : stage = .guarded := hyields.1
            exact trivial
        | .ok none =>
            obtain rfl : stage = .guarded := hyields.1
            exact trivial
        | .ok (some service) =>
            obtain rfl : stage = .seeing service := hyields.1
            exact keeps_serve hyields.2.1 hyields.2.2

end Single

end ServiceTunnel
