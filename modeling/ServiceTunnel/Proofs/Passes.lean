import ServiceTunnel.Proofs.Contract
import ServiceTunnel.Proofs.Estate
import ServiceTunnel.Reconcile

/-!
# ServiceTunnel.Proofs.Passes

**Contracts of the parts that passes are made of.** A single call keeps a contract if it is
permitted and what follows holds after every answer. A part that is made of calls which a condition
allows keeps that condition (`Contract.Allows`, `Program.Stable`); most parts of a pass are stable
in this sense for any condition that matters, and a proof about passes only has to look at the
calls that move it on.
-/

namespace ServiceTunnel

variable {α β σ : Type} {C : Contract Call.interface σ} {inv : σ → Prop}

open Program Kube

/-! ### Single calls -/

/-- Wherever `inv` holds, the call is permitted, and `inv` holds after every answer. -/
def Contract.Allows (C : Contract Call.interface σ) (inv : σ → Prop) (c : Call) : Prop :=
  ∀ s, inv s → C.permits s c ∧ ∀ r s', C.yields s c r s' → inv s'

/-- A call makes something at the provider. -/
def ProviderCall.Makes : ProviderCall → Prop
  | .ensureApp .. | .createMachine .. | .allocateIp .. => True
  | _ => False

namespace Operation

theorem keeps_provider (c : ProviderCall) (post : Except OperatorError c.Result → σ → Prop)
    (s : σ) : (provider c).Keeps C post s ↔ C.permits s (.provider c) ∧
      ∀ (r : Except ProviderError c.Result) s', C.yields s (.provider c) r s' →
        post (r.mapError .provider) s' := Iff.rfl

theorem keeps_service (c : ServiceCall) (post : Except OperatorError c.Result → σ → Prop)
    (s : σ) : (service c).Keeps C post s ↔ C.permits s (.service c) ∧
      ∀ (r : Except OperatorError c.Result) s', C.yields s (.service c) r s' → post r s' := Iff.rfl

theorem stable_provider {c : ProviderCall} (h : C.Allows inv (.provider c)) :
    (provider c).Stable C inv :=
  stable_call h fun _ => stable_done inv _

theorem stable_workload {c : WorkloadCall} (h : C.Allows inv (.workload c)) :
    (workload c).Stable C inv :=
  stable_call h fun _ => stable_done inv _

theorem stable_service {c : ServiceCall} (h : C.Allows inv (.service c)) :
    (service c).Stable C inv :=
  stable_call h fun _ => stable_done inv _

end Operation

open Operation

/-! ### Setting up and keeping in step -/

namespace Lifecycle

theorem stable_waitStarted {app : String} {machine : Machine}
    (h : C.Allows inv (.providerWithin startLimit
      (.waitForMachine app machine.id machine.instanceId startedState startSeconds))) :
    (waitStarted app machine).Stable C inv := by
  refine stable_call h fun (r : Option (Except ProviderError Unit)) => ?_
  cases r with
  | none => exact stable_done inv _
  | some r => cases r <;> exact stable_done inv _

theorem stable_applyWorkload {w : Workload}
    (hmap : C.Allows inv (.workload (.applyConfigMap w.configMap)))
    (hdeployment : C.Allows inv (.workload (.applyDeployment w.deployment))) :
    (applyWorkload w).Stable C inv := by
  refine (stable_workload hmap).bind fun r => ?_
  cases r with
  | ok => exact stable_workload hdeployment
  | error e => exact stable_done inv _

theorem stable_updateMachine {config : TunnelConfig} {service : Service} {app id : String}
    (hget : C.Allows inv (.provider (.getMachine app id)))
    (hupdate : C.Allows inv (.provider (.updateMachine app id (.ofService service config)))) :
    (updateMachine config service app id).Stable C inv := by
  refine (stable_provider hget).bind fun r => ?_
  cases r with
  | error e => exact stable_done inv _
  | ok machine =>
      dsimp only
      split
      · exact stable_done inv _
      · refine (stable_provider hupdate).bind fun r => ?_
        cases r <;> exact stable_done inv _

theorem stable_update {config : TunnelConfig} {service : Service}
    (hworkload : ∀ name address requirements,
      (TunnelRecord.ofService service).frpcDeployment = some name →
      (TunnelRecord.ofService service).publicIp = some address →
      Lifecycle.requirements service = .ok requirements →
      (applyWorkload (workload config service name address requirements)).Stable C inv)
    (hmachine : ∀ app id, (TunnelRecord.ofService service).flyApp = some app →
      (TunnelRecord.ofService service).machineId = some id →
      (updateMachine config service app id).Stable C inv) :
    (update config service).Stable C inv := by
  unfold update
  dsimp only
  split
  · rename_i address name app haddress hname happ
    split
    · exact stable_done inv _
    · rename_i requirements hrequirements
      refine (hworkload name address requirements hname haddress hrequirements).bind fun r => ?_
      cases r with
      | error e => exact stable_done inv _
      | ok =>
          dsimp only
          split
          · exact stable_done inv _
          · rename_i id hid
            exact hmachine app id happ hid
  · exact stable_done inv _

end Lifecycle

/-! ### Setting up -/

/-- A call to the provider is permitted wherever `pre` holds, and leads to `ok` or to `failed`. -/
def Contract.Asks (C : Contract Call.interface σ) (pre : σ → Prop) (c : ProviderCall)
    (ok : c.Result → σ → Prop) (failed : σ → Prop) : Prop :=
  ∀ s, pre s → C.permits s (.provider c) ∧
    ∀ (r : Except ProviderError c.Result) s', C.yields s (.provider c) r s' →
      Outcome ok failed r s'

theorem Contract.Asks.keeps {pre : σ → Prop} {c : ProviderCall} {ok : c.Result → σ → Prop}
    {failed : σ → Prop} (h : C.Asks pre c ok failed) {s : σ} (hs : pre s) :
    (provider c).Keeps C (Outcome ok failed) s := by
  refine ⟨(h s hs).1, fun (r : Except ProviderError c.Result) s' hr => ?_⟩
  have hends := (h s hs).2 r s' hr
  cases r <;> exact hends

theorem Program.Stable.outcome {p : Operation (Except OperatorError α)} (h : p.Stable C inv)
    {s : σ} (hs : inv s) {failed : σ → Prop} (hfailed : ∀ s, inv s → failed s) :
    p.Keeps C (Outcome (fun _ => inv) failed) s := by
  refine (h s hs).imp fun r s' hs' => ?_
  cases r with
  | ok a => exact hs'
  | error e => exact hfailed s' hs'

namespace Lifecycle

/-- The tunnel that setting up for a Service makes of a machine and an address. -/
def tunnelOf (app name : String) (machine : Machine) (ip : IpAddress) : Tunnel where
  appName := app
  machineId := machine.id
  publicIp := ip.address
  ipId := ip.id
  deploymentName := name

/-- How far setting up has come, once there is an application: a machine, an address, and the
client; or a step has failed and what has been made so far is undone. -/
structure Course (C : Contract Call.interface σ) (config : TunnelConfig) (service : Service)
    (app name : String) where
  before : σ → Prop
  founded : σ → Prop
  made : Machine → σ → Prop
  allocated : Machine → IpAddress → σ → Prop
  ready : Machine → IpAddress → σ → Prop
  failed : Set Title → σ → Prop
  creates : C.Asks founded (.createMachine app (.ofService service config)) made (failed ∅)
  waits : ∀ machine s, made machine s → (waitStarted app machine).Keeps C
    (Outcome (fun _ => made machine) (failed {.machine machine.id})) s
  allocates : ∀ machine,
    C.Asks (made machine) (.allocateIp app) (allocated machine) (failed {.machine machine.id})
  applies : ∀ machine ip requirements s, Lifecycle.requirements service = .ok requirements →
    allocated machine ip s →
    (applyWorkload (workload config service name ip.address requirements)).Keeps C
      (Outcome (fun _ => ready machine ip) (failed {.machine machine.id, .ip ip.id})) s
  deletesMachine : ∀ titles id, .machine id ∈ titles →
    C.Allows (failed titles) (.provider (.deleteMachine app id))
  releasesIp : ∀ titles id, .ip id ∈ titles →
    C.Allows (failed titles) (.provider (.releaseIp app id))

/-- The course of setting up with its beginning and its end: the application is made first, and
undoing ends with its deletion. -/
structure Rollback (C : Contract Call.interface σ) (config : TunnelConfig) (service : Service)
    (app name : String) extends Course C config service app name where
  undone : σ → Prop
  founds : C.Asks before (.ensureApp app config.flyOrg) (fun _ => founded) undone
  deletesApp : ∀ titles, C.Asks (failed titles) (.deleteApp app) (fun _ => undone) undone

namespace Rollback

variable {config : TunnelConfig} {service : Service} {app name : String}

/-- What holds when setting up has ended: it has not begun, or all of it is undone, or a tunnel
stands. -/
def Ended (p : Rollback C config service app name) : Except OperatorError Tunnel → σ → Prop
  | .ok tunnel, s => ∃ machine ip, tunnel = tunnelOf app name machine ip ∧ p.ready machine ip s
  | .error e, s => Lifecycle.requirements service = .error e ∧ p.before s ∨ p.undone s

/-- Setting up keeps a contract if each of its steps does, and each undoing. -/
theorem keeps_provision (p : Rollback C config service app name)
    (happ : Name.ofService .app service = app)
    (hname : Name.ofService .deployment service = name) {s : σ} (hs : p.before s) :
    (provision config service).Keeps C p.Ended s := by
  have hundone : ∀ (e : OperatorError) s, p.undone s → p.Ended (.error e) s := fun _ _ => Or.inr
  unfold provision
  split
  · rename_i e hrefused
    exact Or.inl ⟨hrefused, hs⟩
  rename_i requirements hrequirements
  rw [SagaM.keeps_perform, provisionSteps, happ, hname]
  -- the steps in their order: each leads on, or to the undoing of what came before it
  refine SagaM.keeps_step (p.founds.keeps hs) (Saga.undoes_empty p.undone) (fun _ s hs => ?_)
    fun e s => hundone _ s
  have happUndone : ∀ titles, (Saga.compensate {} "delete Fly.io app"
      (provider (.deleteApp app))).Undoes C (p.failed titles) p.undone := by
    refine fun titles => (Saga.undoes_empty p.undone).compensate fun s hs => ?_
    refine ((p.deletesApp titles).keeps hs).imp fun r s' hends => ?_
    cases r <;> exact hends
  refine SagaM.keeps_compensate (SagaM.keeps_step (p.creates.keeps hs) (happUndone ∅)
    (fun machine s hs => ?_) fun e s => hundone _ s)
  have hmachineUndone : ∀ titles, .machine machine.id ∈ titles → (Saga.compensate (Saga.compensate
      {} "delete Fly.io app" (provider (.deleteApp app))) "delete machine"
      (provider (.deleteMachine app machine.id))).Undoes C (p.failed titles) p.undone :=
    fun titles h => (happUndone titles).compensate
      (stable_provider (p.deletesMachine titles machine.id h))
  refine SagaM.keeps_compensate (SagaM.keeps_step (p.waits machine s hs) (hmachineUndone _ rfl)
    (fun _ s hs => ?_) fun e s => hundone _ s)
  refine SagaM.keeps_step ((p.allocates machine).keeps hs) (hmachineUndone _ rfl)
    (fun ip s hs => ?_) fun e s => hundone _ s
  refine SagaM.keeps_compensate (SagaM.keeps_step
    (p.applies machine ip requirements s hrequirements hs) ?_ (fun _ s hs => ?_)
    fun e s => hundone _ s)
  · exact (hmachineUndone _ (by simp)).compensate
      (stable_provider (p.releasesIp _ ip.id (by simp)))
  exact ⟨machine, ip, rfl, hs⟩

end Rollback

/-- The course of setting up where it matters little how far undoing came. -/
structure Progress (C : Contract Call.interface σ) (config : TunnelConfig) (service : Service)
    (app name : String) extends Course C config service app name where
  founds : C.Asks before (.ensureApp app config.flyOrg) (fun _ => founded) (failed ∅)
  deletesApp : ∀ titles, C.Allows (failed titles) (.provider (.deleteApp app))

namespace Progress

variable {config : TunnelConfig} {service : Service} {app name : String}

/-- What holds when setting up has ended: it has not begun, or has failed, or a tunnel stands. -/
def Ended (p : Progress C config service app name) : Except OperatorError Tunnel → σ → Prop
  | .ok tunnel, s => ∃ machine ip, tunnel = tunnelOf app name machine ip ∧ p.ready machine ip s
  | .error e, s => Lifecycle.requirements service = .error e ∧ p.before s ∨
      ∃ titles, p.failed titles s

/-- Undoing, which ends with some titles or none left. -/
def rollback (p : Progress C config service app name) : Rollback C config service app name where
  toCourse := p.toCourse
  undone s := ∃ titles, p.failed titles s
  founds s hs := by
    refine ⟨(p.founds s hs).1, fun (r : Except ProviderError Unit) s' hr => ?_⟩
    have hends := (p.founds s hs).2 r s' hr
    cases r with
    | ok => exact hends
    | error e => exact ⟨∅, hends⟩
  deletesApp titles s hs := by
    refine ⟨(p.deletesApp titles s hs).1, fun (r : Except ProviderError Unit) s' hr => ?_⟩
    have hkept : ∃ titles, p.failed titles s' := ⟨titles, (p.deletesApp titles s hs).2 r s' hr⟩
    cases r <;> exact hkept

/-- Setting up keeps a contract if each of its steps does, and each undoing. -/
theorem keeps_provision (p : Progress C config service app name)
    (happ : Name.ofService .app service = app)
    (hname : Name.ofService .deployment service = name) {s : σ} (hs : p.before s) :
    (provision config service).Keeps C p.Ended s := by
  refine (p.rollback.keeps_provision happ hname hs).imp fun r s' hended => ?_
  cases r <;> exact hended

end Progress

/-- Setting up keeps what each of its calls keeps. -/
theorem stable_provision_of_calls {config : TunnelConfig} {service : Service} {app : String}
    (happ : Name.ofService .app service = app)
    (hensure : C.Allows inv (.provider (.ensureApp app config.flyOrg)))
    (hcreate : C.Allows inv (.provider (.createMachine app (.ofService service config))))
    (hwait : ∀ machine : Machine, C.Allows inv (.providerWithin startLimit
      (.waitForMachine app machine.id machine.instanceId startedState startSeconds)))
    (hallocate : C.Allows inv (.provider (.allocateIp app)))
    (hworkload : ∀ c, C.Allows inv (.workload c))
    (hrelease : ∀ id, C.Allows inv (.provider (.releaseIp app id)))
    (hdelete : ∀ id, C.Allows inv (.provider (.deleteMachine app id)))
    (hdeleteApp : C.Allows inv (.provider (.deleteApp app))) :
    (provision config service).Stable C inv := by
  have hasks : ∀ {c : ProviderCall}, C.Allows inv (.provider c) →
      C.Asks inv c (fun _ => inv) inv := by
    intro c hc s hs
    obtain ⟨hpermits, hkept⟩ := hc s hs
    refine ⟨hpermits, fun r s' hr => ?_⟩
    cases r <;> exact hkept _ s' hr
  let course : Progress C config service app (Name.ofService .deployment service) := {
    before := inv
    founded := inv
    made _ := inv
    allocated _ _ := inv
    ready _ _ := inv
    failed _ := inv
    creates := hasks hcreate
    waits machine _ hs := (stable_waitStarted (hwait machine)).outcome hs fun _ h => h
    allocates _ := hasks hallocate
    applies _ _ _ _ _ hs :=
      (stable_applyWorkload (hworkload _) (hworkload _)).outcome hs fun _ h => h
    deletesMachine _ id _ := hdelete id
    releasesIp _ id _ := hrelease id
    founds := hasks hensure
    deletesApp _ := hdeleteApp }
  intro s hs
  refine (course.keeps_provision happ rfl hs).imp fun r s' hended => ?_
  cases r with
  | ok tunnel =>
      obtain ⟨_, _, _, hs'⟩ := hended
      exact hs'
  | error e =>
      obtain ⟨-, hs'⟩ | ⟨_, hs'⟩ := hended
      · exact hs'
      · exact hs'

end Lifecycle

/-! ### Taking down -/

namespace Lifecycle

theorem keeps_attempt (p : Operation (Except OperatorError Unit)) (post : Unit → σ → Prop) (s : σ) :
    (attempt p).Keeps C post s ↔ p.Keeps C (fun _ s' => post () s') s :=
  keeps_bind p _ post s

theorem stable_attempt {p : Operation (Except OperatorError Unit)} (h : p.Stable C inv) :
    (attempt p).Stable C inv :=
  Stable.bind h fun _ => stable_done inv _

theorem stable_releaseAll {app : String} {ips : List IpAddress}
    (h : ∀ ip ∈ ips, C.Allows inv (.provider (.releaseIp app ip.id))) :
    (releaseAll app ips).Stable C inv := by
  induction ips with
  | nil => exact stable_done inv _
  | cons ip rest ih =>
      obtain ⟨hip, hrest⟩ := List.forall_mem_cons.1 h
      exact (stable_attempt (stable_provider hip)).bind fun _ => ih hrest

theorem stable_deleteMachine {app : String} {recorded : Option String}
    (h : ∀ id, recorded = some id → C.Allows inv (.provider (.deleteMachine app id))) :
    (deleteMachine app recorded).Stable C inv := by
  cases recorded with
  | none => exact stable_done inv _
  | some id => exact stable_attempt (stable_provider (h id rfl))

/-- Everything of a tunnel is taken down before its application, whose deletion comes last. -/
theorem keeps_teardown {config : TunnelConfig} {service : Service} {app name : String}
    {post : Unit → σ → Prop} {s : σ}
    (happ : (TunnelRecord.ofService service).flyApp.getD (Name.ofService .app service) = app)
    (hname : (TunnelRecord.ofService service).frpcDeployment.getD
      (Name.ofService .deployment service) = name)
    (hdeployment : C.Allows inv (.workload (.deleteDeployment config.operatorNamespace name)))
    (hmap : C.Allows inv
      (.workload (.deleteConfigMap config.operatorNamespace (Workload.configMapName name))))
    (haddresses :
      (releaseAddresses app (TunnelRecord.ofService service).ipId).Stable C inv)
    (hmachine : (deleteMachine app (TunnelRecord.ofService service).machineId).Stable C inv)
    (hlast : ∀ s, inv s → (attempt (provider (.deleteApp app))).Keeps C post s) (hs : inv s) :
    (teardown config service).Keeps C post s := by
  subst happ hname
  refine (stable_attempt (stable_workload hdeployment) s hs).bind fun _ s hs => ?_
  refine (stable_attempt (stable_workload hmap) s hs).bind fun _ s hs => ?_
  refine (haddresses s hs).bind fun _ s hs => ?_
  refine (hmachine s hs).bind fun _ s hs => ?_
  exact hlast s hs

theorem stable_releaseAddresses {app : String} {recorded : Option String}
    (hrelease : ∀ id, C.Allows inv (.provider (.releaseIp app id)))
    (hlist : C.Allows inv (.provider (.listIps app))) :
    (releaseAddresses app recorded).Stable C inv := by
  cases recorded with
  | some id => exact stable_attempt (stable_provider (hrelease id))
  | none =>
      refine (stable_provider hlist).bind fun r => ?_
      cases r with
      | ok ips => exact stable_releaseAll fun ip _ => hrelease ip.id
      | error e => exact stable_done inv _

/-- Taking down keeps what each of its calls keeps. -/
theorem stable_teardown_of_calls {config : TunnelConfig} {service : Service}
    (hworkload : ∀ c, C.Allows inv (.workload c))
    (hrelease : ∀ app id, C.Allows inv (.provider (.releaseIp app id)))
    (hlist : ∀ app, C.Allows inv (.provider (.listIps app)))
    (hdelete : ∀ app id, C.Allows inv (.provider (.deleteMachine app id)))
    (hdeleteApp : ∀ app, C.Allows inv (.provider (.deleteApp app))) :
    (teardown config service).Stable C inv := by
  intro s hs
  exact keeps_teardown rfl rfl (hworkload _) (hworkload _)
    (stable_releaseAddresses (hrelease _) (hlist _))
    (stable_deleteMachine fun id _ => hdelete _ id)
    (stable_attempt (stable_provider (hdeleteApp _))) hs

/-- Taking down makes nothing, so it keeps whatever every call that makes nothing keeps. -/
theorem stable_teardown {config : TunnelConfig} {service : Service}
    (hworkload : ∀ c, C.Allows inv (.workload c))
    (hprovider : ∀ c : ProviderCall, ¬ c.Makes → C.Allows inv (.provider c)) :
    (teardown config service).Stable C inv :=
  stable_teardown_of_calls hworkload (fun _ _ => hprovider _ not_false)
    (fun _ => hprovider _ not_false) (fun _ _ => hprovider _ not_false)
    fun _ => hprovider _ not_false

end Lifecycle

/-! ### Passes -/

namespace Reconcile

theorem keeps_andThen (p : Operation (Except OperatorError α))
    (f : α → Operation (Except OperatorError β)) (post : Except OperatorError β → σ → Prop)
    (s : σ) :
    (andThen p f).Keeps C post s ↔
      p.Keeps C (fun r s' =>
        match r with
        | .ok a => (f a).Keeps C post s'
        | .error e => post (.error e) s') s := by
  refine (keeps_bind p _ post s).trans ?_
  refine iff_of_eq (congrArg (fun q => p.Keeps C q s) ?_)
  funext r s'
  cases r <;> rfl

theorem stable_andThen {p : Operation (Except OperatorError α)}
    {f : α → Operation (Except OperatorError β)} (hp : p.Stable C inv)
    (hf : ∀ a, (f a).Stable C inv) : (andThen p f).Stable C inv := by
  refine Stable.bind hp fun r => ?_
  cases r with
  | ok a => exact hf a
  | error e => exact stable_done inv _

theorem stable_maintain {config : TunnelConfig} {service : Service} {ns name : String}
    (hingress : ∀ ip, (TunnelRecord.ofService service).publicIp = some ip →
      ¬ ingressIp? service = some ip → C.Allows inv (.service (.patchIngress ns name ip)))
    (hupdate : (Lifecycle.update config service).Stable C inv) :
    (maintain config service ns name).Stable C inv := by
  refine stable_andThen ?_ fun _ => hupdate.bind fun _ => stable_done inv _
  split
  · rename_i ip hip
    split
    · exact stable_done inv _
    · rename_i hshown
      exact stable_service (hingress ip hip hshown)
  · exact stable_done inv _

/-- A pass keeps a contract if what it does with the Service that it finds does: it leaves it
alone, takes the tunnel down, cares for it, or first puts the finalizer on and looks the Service up
again. -/
theorem keeps_pass_ends {config : TunnelConfig} {cls ns name : String}
    {post : Except OperatorError Unit → σ → Prop} {s : σ}
    (hget : C.permits s (.service (.get ns name)))
    (hlost : ∀ e s', C.yields s (.service (.get ns name)) (.error e) s' → post (.error e) s')
    (hgone : ∀ s', C.yields s (.service (.get ns name)) (.ok none) s' → post (.ok ()) s')
    (hforeign : ∀ service s', C.yields s (.service (.get ns name)) (.ok (some service)) s' →
      isManaged service cls = false → post (.ok ()) s')
    (hleave : ∀ service s', C.yields s (.service (.get ns name)) (.ok (some service)) s' →
      isManaged service cls = true → service.isDeleting = true →
      (finalize config service ns name).Keeps C post s')
    (hserve : ∀ service s', C.yields s (.service (.get ns name)) (.ok (some service)) s' →
      isManaged service cls = true → ¬ service.isDeleting = true → hasFinalizer service = true →
      (serve config service ns name).Keeps C post s')
    (henter : ∀ service s', C.yields s (.service (.get ns name)) (.ok (some service)) s' →
      isManaged service cls = true → ¬ service.isDeleting = true → ¬ hasFinalizer service = true →
      (Operation.service (.setFinalizers ns name service.metadata.resourceVersion
        (service.finalizers ++ [Annotations.finalizer]))).Keeps C (fun r s₂ =>
          match r with
          | .error e => post (.error e) s₂
          | .ok () => (Operation.service (.get ns name)).Keeps C (fun r s₃ =>
              match r with
              | .error e => post (.error e) s₃
              | .ok none => post (.ok ()) s₃
              | .ok (some service) => (serve config service ns name).Keeps C post s₃) s₂) s') :
    (pass config cls ns name).Keeps C post s := by
  unfold pass
  rw [keeps_andThen, keeps_service]
  refine ⟨hget, fun r s' hr => ?_⟩
  match r with
  | .error e => exact hlost e s' hr
  | .ok none => exact hgone s' hr
  | .ok (some service) =>
      dsimp only
      split
      · rename_i hforeignClass
        exact hforeign service s' hr (by simpa using hforeignClass)
      rename_i hmanagedClass
      have hmanaged : isManaged service cls = true := by simpa using hmanagedClass
      split
      · rename_i hdeleting
        exact hleave service s' hr hmanaged hdeleting
      rename_i hdeleting
      split
      · rename_i hfinalizer
        exact hserve service s' hr hmanaged hdeleting hfinalizer
      rename_i hfinalizer
      refine (keeps_andThen _ _ _ _).mpr
        ((henter service s' hr hmanaged hdeleting hfinalizer).imp ?_)
      intro r s₂ hr
      cases r with
      | error e => exact hr
      | ok =>
          refine (keeps_andThen _ _ _ _).mpr (Keeps.imp hr fun r s₃ hr => ?_)
          match r with
          | .error e => exact hr
          | .ok none => exact hr
          | .ok (some service) => exact hr

/-- A pass keeps a contract, wherever it ends, if what it does with the Service that it finds
does. -/
theorem keeps_pass {config : TunnelConfig} {cls ns name : String} {s : σ}
    (hget : C.permits s (.service (.get ns name)))
    (hleave : ∀ service s', C.yields s (.service (.get ns name)) (.ok (some service)) s' →
      service.isDeleting = true →
      (finalize config service ns name).Keeps C (fun _ _ => True) s')
    (hserve : ∀ service s', C.yields s (.service (.get ns name)) (.ok (some service)) s' →
      ¬ service.isDeleting = true → hasFinalizer service = true →
      (serve config service ns name).Keeps C (fun _ _ => True) s')
    (henter : ∀ service s', C.yields s (.service (.get ns name)) (.ok (some service)) s' →
      ¬ service.isDeleting = true → ¬ hasFinalizer service = true →
      (Operation.service (.setFinalizers ns name service.metadata.resourceVersion
        (service.finalizers ++ [Annotations.finalizer]))).Keeps C (Outcome (fun _ s₂ =>
          C.permits s₂ (.service (.get ns name)) ∧ ∀ service s₃,
            C.yields s₂ (.service (.get ns name)) (.ok (some service)) s₃ →
            (serve config service ns name).Keeps C (fun _ _ => True) s₃) fun _ => True) s') :
    (pass config cls ns name).Keeps C (fun _ _ => True) s := by
  refine keeps_pass_ends hget (fun _ _ _ => trivial) (fun _ _ => trivial) (fun _ _ _ _ => trivial)
    (fun service s' hr _ => hleave service s' hr) (fun service s' hr _ => hserve service s' hr)
    fun service s' hr _ hdeleting hfinalizer =>
      (henter service s' hr hdeleting hfinalizer).imp fun r s₂ hends => ?_
  cases r with
  | error e => exact trivial
  | ok =>
      refine (keeps_service _ _ _).mpr ⟨hends.1, fun r s₃ hfound => ?_⟩
      match r with
      | .error e => exact trivial
      | .ok none => exact trivial
      | .ok (some service) => exact hends.2 service s₃ hfound

end Reconcile

end ServiceTunnel
