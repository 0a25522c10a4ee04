import ServiceTunnel.Proofs.Registry

/-!
# ServiceTunnel.Proofs.Ledger

**What a pass makes, and what it records.** A pass has something made only after it has seen that
nothing is recorded, and it records a machine and an address only after it has had both made, as one
tunnel and once (`Ledger.contract`). Every pass is of this kind (`Ledger.keeps_pass`), and it needs
no more for it than that Services are stored under their names (`Ledger.rules`).
-/

namespace ServiceTunnel

open Kube Simulation

/-- Every Service is stored under its name. -/
def Realm.Named (w : Realm) : Prop :=
  ∀ key service, w.cluster.services.get? key = some service →
    service.ns = key.ns ∧ service.name = key.name

namespace Ledger

/-! ### Stages -/

/-- How far a pass has come with making a tunnel. -/
inductive Stage where
  /-- It makes none. -/
  | idle
  /-- It has seen that nothing is recorded. -/
  | making
  | made (machine : Machine)
  | ready (machine : Machine) (ip : IpAddress)

/-- The stage after a Service has been seen. -/
def Stage.seeing (service : Service) : Stage :=
  if (TunnelRecord.ofService service).isProvisioned then .idle else .making

/-- The stage after an answer. -/
def Stage.next : Stage → (c : Call) → c.Reply → Stage
  | .idle, .service (.get _ _), .ok (some service) => .seeing service
  | .making, .service (.get _ _), .ok (some service) => .seeing service
  | .making, .provider (.createMachine _ _), .ok machine => .made machine
  | .made machine, .provider (.allocateIp _), .ok ip => .ready machine ip
  | .ready _ _, .service (.patchAnnotations _ _ _ _), _ => .idle
  | stage, _, _ => stage

/-- A Service that is found has the name that was asked for. -/
def Tells (key : ObjectKey) : (c : Call) → c.Reply → Prop
  | .service (.get _ _), .ok (some service) => service.ns = key.ns ∧ service.name = key.name
  | _, _ => True

/-- A pass makes something only when it has seen that nothing is recorded, and records what it has
made, once. -/
def contract (key : ObjectKey) : Contract Call.interface Stage where
  permits stage c :=
    match c with
    | .provider (.ensureApp _ _) => stage = .making
    | .provider (.createMachine app _) => stage = .making ∧ app = appOf key
    | .provider (.allocateIp app) => (∃ machine, stage = .made machine) ∧ app = appOf key
    | .providerWithin _ c => ¬ c.Makes
    | .service (.patchAnnotations ns name _ annotations) => ⟨ns, name⟩ = key ∧
      ∃ machine ip, stage = .ready machine ip ∧ annotations = (TunnelRecord.ofTunnel
        (Lifecycle.tunnelOf (appOf key) (deploymentOf key) machine ip)).toAnnotations
    | .service c => c.key = key
    | _ => True
  yields stage c r stage' := stage' = stage.next c r ∧ Tells key c r

variable {config : TunnelConfig} {cls : String} {key : ObjectKey} {stage : Stage}
  {service : Service} {inv : Stage → Prop}

theorem key_of_permits {c : ServiceCall} (h : (contract key).permits stage (.service c)) :
    c.key = key := by
  cases c with
  | patchAnnotations => exact h.1
  | get | setFinalizers | patchIngress => exact h

/-! ### Every pass keeps the contract -/

/-- A call that is always permitted, and after which the stage is the same, keeps anything. -/
theorem allows_still {c : Call} (hpermits : ∀ stage, (contract key).permits stage c)
    (hnext : ∀ stage r, Stage.next stage c r = stage) : (contract key).Allows inv c := by
  intro stage hstage
  refine ⟨hpermits stage, fun r stage' hyields => ?_⟩
  obtain ⟨rfl, -⟩ := hyields
  exact (congrArg inv (hnext stage r)).mpr hstage

theorem allows_workload (c : WorkloadCall) : (contract key).Allows inv (.workload c) :=
  allows_still (fun _ => trivial) fun stage _ => by cases stage <;> rfl

theorem allows_provider {c : ProviderCall} (hc : ¬ c.Makes) :
    (contract key).Allows inv (.provider c) := by
  cases c with
  | ensureApp | createMachine | allocateIp => exact absurd trivial hc
  | _ => exact allows_still (fun _ => trivial) fun stage _ => by cases stage <;> rfl

theorem allows_providerWithin {c : ProviderCall} (limit : Nat) (hc : ¬ c.Makes) :
    (contract key).Allows inv (.providerWithin limit c) :=
  allows_still (fun _ => hc) fun stage _ => by cases stage <;> rfl

theorem allows_setFinalizers (version : Option String) (finalizers : List String) :
    (contract key).Allows inv
      (.service (.setFinalizers key.ns key.name version finalizers)) :=
  allows_still (fun _ => rfl) fun stage _ => by cases stage <;> rfl

theorem allows_patchIngress (ip : String) :
    (contract key).Allows inv (.service (.patchIngress key.ns key.name ip)) :=
  allows_still (fun _ => rfl) fun stage _ => by cases stage <;> rfl

theorem stable_teardown (service : Service) :
    (Lifecycle.teardown config service).Stable (contract key) inv :=
  Lifecycle.stable_teardown allows_workload fun _ => allows_provider

theorem stable_maintain (service : Service) :
    (Reconcile.maintain config service key.ns key.name).Stable (contract key) inv := by
  refine Reconcile.stable_maintain (fun ip _ _ => allows_patchIngress ip) ?_
  exact Lifecycle.stable_update
    (fun _ _ _ _ _ _ => Lifecycle.stable_applyWorkload (allows_workload _) (allows_workload _))
    fun _ _ _ _ => Lifecycle.stable_updateMachine (allows_provider not_false)
      (allows_provider not_false)

theorem stable_finalize (service : Service) :
    (Reconcile.finalize config service key.ns key.name).Stable (contract key) inv := by
  refine (stable_teardown service).bind fun _ => ?_
  split
  · exact Operation.stable_service (allows_setFinalizers _ _)
  · exact Program.stable_done _ _

/-- Wherever it begins, a program that leaves every stage as it is keeps the contract. -/
theorem anywhere {α : Type} {p : Operation α} (h : p.Stable (contract key) fun _ => True) :
    p.Keeps (contract key) (fun _ _ => True) stage :=
  h stage trivial

/-- Setting up: a machine is made, then an address is allocated. -/
def progress (config : TunnelConfig) (key : ObjectKey) (service : Service) :
    Lifecycle.Progress (contract key) config service (appOf key) (deploymentOf key) where
  before := (· = .making)
  founded := (· = .making)
  made machine := (· = .made machine)
  allocated machine ip := (· = .ready machine ip)
  ready machine ip := (· = .ready machine ip)
  failed _ _ := True
  founds stage hstage := by
    subst hstage
    refine ⟨rfl, fun r stage' hyields => ?_⟩
    obtain ⟨rfl, -⟩ := hyields
    cases r with
    | ok => exact rfl
    | error e => exact trivial
  creates stage hstage := by
    subst hstage
    refine ⟨⟨rfl, rfl⟩, fun r stage' hyields => ?_⟩
    obtain ⟨rfl, -⟩ := hyields
    cases r with
    | ok machine => exact rfl
    | error e => exact trivial
  waits machine stage hstage := by
    have hwait : (Lifecycle.waitStarted (appOf key) machine).Stable (contract key)
        (· = .made machine) := Lifecycle.stable_waitStarted (allows_providerWithin _ not_false)
    exact hwait.outcome hstage fun _ _ => trivial
  allocates machine stage hstage := by
    subst hstage
    refine ⟨⟨⟨machine, rfl⟩, rfl⟩, fun r stage' hyields => ?_⟩
    obtain ⟨rfl, -⟩ := hyields
    cases r with
    | ok ip => exact rfl
    | error e => exact trivial
  applies machine ip requirements stage _ hstage := by
    have happly : ∀ w, (Lifecycle.applyWorkload w).Stable (contract key) (· = .ready machine ip) :=
      fun _ => Lifecycle.stable_applyWorkload (allows_workload _) (allows_workload _)
    exact (happly _).outcome hstage fun _ _ => trivial
  deletesApp _ := allows_provider not_false
  deletesMachine _ _ _ := allows_provider not_false
  releasesIp _ _ _ := allows_provider not_false

theorem keeps_establish (hns : service.ns = key.ns) (hname : service.name = key.name) :
    (Reconcile.establish config service key.ns key.name).Keeps (contract key)
      (fun _ _ => True) .making := by
  refine (Reconcile.keeps_andThen _ _ _ _).mpr ?_
  have hbegun : (progress config key service).before .making := rfl
  refine ((progress config key service).keeps_provision (ofService_app hns hname)
    (ofService_deployment hns hname) hbegun).imp ?_
  intro r stage hended
  cases r with
  | error e => exact trivial
  | ok tunnel =>
      obtain ⟨machine, ip, rfl, hready⟩ := hended
      have hstage : stage = .ready machine ip := hready
      subst hstage
      refine (Reconcile.keeps_andThen _ _ _ _).mpr
        ((Operation.keeps_service _ _ _).mpr ⟨rfl, fun r stage hyields => ?_⟩)
      -- what is made is kept in mind until it is recorded
      obtain rfl : stage = .ready machine ip := hyields.1
      match r with
      | .error e => exact trivial
      | .ok none =>
          exact (anywhere (stable_teardown _)).bind fun _ _ _ => trivial
      | .ok (some current) =>
          refine (Reconcile.keeps_andThen _ _ _ _).mpr ((Operation.keeps_service _ _ _).mpr
            ⟨⟨rfl, machine, ip, rfl, rfl⟩, fun r stage _ => ?_⟩)
          cases r with
          | error e => exact trivial
          | ok =>
              exact anywhere (Operation.stable_service (allows_patchIngress _))

theorem keeps_serve (hns : service.ns = key.ns) (hname : service.name = key.name) :
    (Reconcile.serve config service key.ns key.name).Keeps (contract key) (fun _ _ => True)
      (.seeing service) := by
  unfold Reconcile.serve Stage.seeing
  split
  · exact anywhere (stable_maintain service)
  · exact keeps_establish hns hname

theorem keeps_pass (cls : String) :
    (Reconcile.pass config cls key.ns key.name).Keeps (contract key) (fun _ _ => True) .idle := by
  refine Reconcile.keeps_pass rfl ?_ ?_ ?_
  · intro service stage _ _
    exact anywhere (stable_finalize service)
  · intro service stage hfound _ _
    obtain ⟨rfl, hns, hname⟩ := hfound
    exact keeps_serve hns hname
  · intro service stage hfound _ _
    obtain ⟨rfl, -⟩ := hfound
    refine (Operation.stable_service (allows_setFinalizers _ _) _ rfl).imp fun r stage hstage => ?_
    cases r with
    | error e => exact trivial
    | ok =>
        subst hstage
        refine ⟨rfl, fun service' stage' hfound => ?_⟩
        obtain ⟨hnext, hns, hname⟩ := hfound
        -- the Service is seen anew, and may be another one by now
        have hseeing : stage' = .seeing service' := by
          rw [hnext]
          show (Stage.seeing service).next _ _ = _
          unfold Stage.seeing
          split <;> rfl
        rw [hseeing]
        exact keeps_serve hns hname

/-! ### Names -/

/-- A call leaves the names of Services alone. -/
theorem named_answers {w w' : Realm} {c : Call} {r : c.Reply} (h : w.Named)
    (hanswers : w.Answers c r w') : w'.Named := by
  intro key service hservice
  obtain ⟨s, version, hs, rfl | ⟨sc, -, -, rfl⟩⟩ := hanswers.stored_before hservice
  · exact h key s hs
  · obtain ⟨hns, hname⟩ := h key s hs
    exact ⟨(ServiceCall.ns_edit sc s).trans hns, (ServiceCall.name_edit sc s).trans hname⟩

/-- Others leave the names of Services alone. -/
theorem named_changes {w : Realm} {cluster : Cluster} (h : w.Named)
    (hchanges : w.cluster.Changes key cluster) : ({ w with cluster := cluster } : Realm).Named := by
  intro other service hservice
  by_cases hother : other = key
  · subst hother
    obtain ⟨-, hns, hname, -⟩ | ⟨s, hs, hns, hname, -⟩ := hchanges.stored_before hservice
    · exact ⟨hns, hname⟩
    · obtain ⟨hns', hname'⟩ := h other s hs
      exact ⟨hns.trans hns', hname.trans hname'⟩
  · exact h other service ((hchanges.elsewhere hother).symm.trans hservice)

theorem tells_of_named {w w' : Realm} {c : Call} {r : c.Reply} (h : w.Named)
    (hanswers : w.Answers c r w') (hpermits : (contract key).permits stage c) : Tells key c r := by
  unfold Tells
  split
  · rename_i ns name service
    obtain rfl : (⟨ns, name⟩ : ObjectKey) = key := key_of_permits hpermits
    exact h _ service hanswers.found.1
  · trivial

/-- The rules by which passes make and record tunnels, under any regime. -/
def rules (config : TunnelConfig) (cls : String) (R : Scene.Regime) :
    Scene.Rules config cls R Stage where
  contract := contract
  idle := .idle
  inv _ s := s.realm.Named
  pass_keeps _ := keeps_pass cls
  begin_inv h hstep _ _ := by
    cases hstep
    exact h
  call_inv h hstep _ hpermits := by
    cases hstep with
    | call key seen c next r realm hflight hanswers =>
        exact ⟨_, ⟨rfl, tells_of_named h hanswers hpermits⟩, named_answers h hanswers⟩
  finish_inv h hstep _ _ := by
    cases hstep
    exact h
  change_inv h hstep _ := by
    cases hstep with
    | change key cluster hchanges => exact named_changes h hchanges

end Ledger

end ServiceTunnel
