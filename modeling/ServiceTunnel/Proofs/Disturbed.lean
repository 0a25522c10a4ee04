import ServiceTunnel.Proofs.Record
import ServiceTunnel.Proofs.Versions

/-!
# ServiceTunnel.Proofs.Disturbed

**One pass among other writers.** Between any two calls of a pass others may write Services, as they
like, and any call may fail, whether or not it was carried out. A `Journey` is a pass under way with
all that has happened since it began.

A pass knows its Service by the copy that it has looked up last. Every write gives out a new
version, so what is stored under the version of the copy is the copy itself; and nothing is, once
others have written the Service (`Known`). How far a pass has come, and which copy it goes by, is a
`Stage`; what it may do at each is a contract (`dealings`) that every pass keeps
(`Journey.sound`).
-/

namespace ServiceTunnel

open Kube Simulation Program

/-! ### Journeys -/

/-- What happens around a pass: it makes a call, or others write a Service. -/
inductive Moment where
  | own (c : Call) (r : c.Reply)
  | other (key : ObjectKey)

/-- What a look-up that succeeds has found. -/
def Moment.found? : Moment → Option (Option Service)
  | .own (.service (.get _ _)) (.ok found) => some found
  | _ => none

/-- A pass over the Service `key` that began in the realm `w₀`: what has happened since, what is
left to do, and the realm as it is. What others do at the provider is not told. -/
inductive Journey (config : TunnelConfig) (cls : String) (key : ObjectKey) (w₀ : Realm) :
    List Moment → Operation (Except OperatorError Unit) → Realm → Prop where
  | start : Journey config cls key w₀ [] (Reconcile.pass config cls key.ns key.name) w₀
  | own {past : List Moment} {c : Call} {next : c.Reply → Operation (Except OperatorError Unit)}
    {r : c.Reply} {w w' : Realm} (h : Journey config cls key w₀ past (.call c next) w)
    (hanswers : w.Answers c r w') : Journey config cls key w₀ (past ++ [.own c r]) (next r) w'
  | other {past : List Moment} {p : Operation (Except OperatorError Unit)} {w w' : Realm}
    (h : Journey config cls key w₀ past p w) (written : ObjectKey)
    (hwrites : w.cluster.Overwrites written w'.cluster) :
    Journey config cls key w₀ (past ++ [.other written]) p w'

/-! ### What a pass knows -/

/-- The last look-up that has succeeded found `copy`. What happened `before` led to it, and `since`
has happened after it. -/
structure LookedUp (key : ObjectKey) (past before : List Moment) (copy : Service)
    (since : List Moment) : Prop where
  past_eq : past = before ++ .own (.service (.get key.ns key.name)) (.ok (some copy)) :: since
  last : ∀ m ∈ since, m.found? = none

theorem LookedUp.snoc {key : ObjectKey} {past before : List Moment} {copy : Service}
    {since : List Moment} {m : Moment} (h : LookedUp key past before copy since)
    (hm : m.found? = none) : LookedUp key (past ++ [m]) before copy (since ++ [m]) where
  past_eq := by rw [h.past_eq, List.append_assoc, List.cons_append]
  last := List.forall_mem_append.mpr ⟨h.last, List.forall_mem_singleton.mpr hm⟩

/-- What is known of the Service by the copy that was looked up last: under the version of the copy
nothing but the copy is stored, and nothing at all once others have written the Service. -/
structure Known (key : ObjectKey) (past : List Moment) (copy : Service) (w : Realm) : Prop where
  lookedUp : ∃ before since, LookedUp key past before copy since ∧ (.other key ∈ since →
    ∀ s, w.cluster.services.get? key = some s →
      s.metadata.resourceVersion ≠ copy.metadata.resourceVersion)
  issued : copy.VersionIn 0 w.cluster.version
  unique : ∀ s, w.cluster.services.get? key = some s →
    s.metadata.resourceVersion = copy.metadata.resourceVersion → s = copy

namespace Known

variable {key : ObjectKey} {past : List Moment} {copy : Service} {w w' : Realm}

/-- What has just been looked up is known. -/
theorem of_found (hversioned : w.cluster.Versioned)
    (hfound : w.cluster.services.get? key = some copy) (past : List Moment) :
    Known key (past ++ [.own (.service (.get key.ns key.name)) (.ok (some copy))]) copy w where
  lookedUp := ⟨past, [], ⟨rfl, List.forall_mem_nil _⟩, fun h => by cases h⟩
  issued := hversioned key copy hfound
  unique s hs _ := Option.some.inj (hs.symm.trans hfound)

/-- What is known stays known until the next look-up, whoever writes. -/
theorem snoc {m : Moment} (h : Known key past copy w) (hlook : m.found? = none)
    (hlater : w.cluster.Later w'.cluster)
    (hother : m = .other key → ∀ s, w'.cluster.services.get? key = some s →
      s.VersionIn w.cluster.version w'.cluster.version) :
    Known key (past ++ [m]) copy w' := by
  obtain ⟨⟨before, since, hlookedUp, hchanged⟩, hissued, hunique⟩ := h
  refine ⟨⟨before, since ++ [m], hlookedUp.snoc hlook, fun hwritten s hs => ?_⟩,
    hissued.mono le_rfl hlater.version, fun s hs hversion => ?_⟩
  · obtain hbefore | hnew := hlater.stored key s hs
    · rw [List.mem_append, List.mem_singleton] at hwritten
      obtain hwritten | hnow := hwritten
      · exact hchanged hwritten s hbefore
      · exact (hother hnow.symm s hs).ne hissued
    · exact hnew.ne hissued
  · obtain hbefore | hnew := hlater.stored key s hs
    · exact hunique s hbefore hversion
    · exact absurd hversion (hnew.ne hissued)

end Known

/-! ### How far a pass has come -/

/-- How far a pass has come, with the copy of the Service that it goes by. -/
inductive Stage where
  | outset
  /-- The copy is what the pass has found first. -/
  | found (copy : Service)
  /-- The finalizer has been put on the Service, as it was in the copy. -/
  | entered (copy : Service)
  /-- The copy is what the pass has found with the finalizer on it. -/
  | served (copy : Service)
  /-- The tunnel is set up, and the copy is what the pass has found since. -/
  | recording (copy : Service)
  /-- The finalizer is off, or the Service is gone. -/
  | finished
  /-- The cluster has refused a call about the Service. -/
  | failed (e : OperatorError)

namespace Stage

/-- The copy that a pass goes by. -/
def copy? : Stage → Option Service
  | .found copy | .entered copy | .served copy | .recording copy => some copy
  | .outset | .finished | .failed _ => none

/-- The stage after a look-up. -/
def look : Stage → Option Service → Stage
  | _, none => .finished
  | .outset, some copy => .found copy
  | .entered _, some copy => .served copy
  | _, some copy => .recording copy

/-- The stage after an answer. -/
def next : Stage → (c : Call) → c.Reply → Stage
  | _, .service _, .error e => .failed e
  | stage, .service (.get _ _), .ok entry => stage.look entry
  | .found copy, .service (.setFinalizers _ _ _ _), .ok () =>
    if copy.isDeleting then .finished else .entered copy
  | stage, _, _ => stage

/-- The copy is what a pass sets a tunnel up for: it is the one that was found first, managed and
not being deleted, or the one that was found with the finalizer on it. -/
def Serves (cls : String) (copy : Service) : Stage → Prop
  | .found first => first = copy ∧ isManaged copy cls = true ∧ copy.isDeleting = false
  | .served second => second = copy
  | _ => False

/-- The cluster has refused nothing. -/
def Unfailed : Stage → Prop
  | .failed _ => False
  | _ => True

/-- The pass is at work on a copy, and not about to look the Service up. -/
def Acts : Stage → Prop
  | .found _ | .served _ | .recording _ | .finished => True
  | .outset | .entered _ | .failed _ => False

/-- A pass that was refused a call about the Service fails for it. -/
def Ends (r : Except OperatorError Unit) (stage : Stage) : Prop :=
  ∀ e, stage = .failed e → r = .error e

end Stage

/-- The call is one that sets a tunnel up for the Service, if it makes something. -/
def ProviderCall.SetsUp (config : TunnelConfig) (service : Service) : ProviderCall → Prop
  | .ensureApp app org => app = Name.ofService .app service ∧ org = config.flyOrg
  | .createMachine app input =>
    app = Name.ofService .app service ∧ input = .ofService service config
  | .allocateIp app => app = Name.ofService .app service
  | _ => True

/-- The finalizers with the operator's put on or taken off, as the copy has it. -/
def Kube.Service.Refinalized (copy : Service) (finalizers : List String) : Prop :=
  (copy.isDeleting = false ∧ Annotations.finalizer ∉ copy.finalizers ∧
      finalizers = copy.finalizers ++ [Annotations.finalizer]) ∨
    copy.isDeleting = true ∧ Annotations.finalizer ∈ copy.finalizers ∧
      finalizers = copy.finalizers.filter (· != Annotations.finalizer)

/-- What a pass may do at each stage. -/
def dealings (config : TunnelConfig) (cls : String) (key : ObjectKey) :
    Contract Call.interface Stage where
  permits stage c :=
    stage.Unfailed ∧
    match c with
    | .provider c | .providerWithin _ c =>
      stage.Acts ∧ (c.Makes → ∃ copy, stage.Serves cls copy ∧ c.SetsUp config copy)
    | .workload _ => stage.Acts
    | .service (.get ns name) => ⟨ns, name⟩ = key
    | .service (.setFinalizers ns name version finalizers) => ⟨ns, name⟩ = key ∧
      ∃ copy, stage = .found copy ∧ isManaged copy cls = true ∧
        version = copy.metadata.resourceVersion ∧ copy.Refinalized finalizers
    | .service (.patchAnnotations ns name version annotations) => ⟨ns, name⟩ = key ∧
      ∃ copy, stage = .recording copy ∧ version = copy.metadata.resourceVersion ∧
        ∀ k, k ∉ Annotations.recordKeys → annotations.get? k = none
    | .service (.patchIngress ns name _) => ⟨ns, name⟩ = key ∧
      ∃ copy, stage.Serves cls copy ∨ stage = .recording copy
  yields stage c r stage' := stage' = stage.next c r

/-! ### What a pass may do -/

namespace Lifecycle

variable {σ : Type} {C : Contract Call.interface σ} {inv : σ → Prop} {config : TunnelConfig}
  {service : Service}

/-- Setting up keeps what is kept by every call that it may make. -/
theorem stable_provision
    (hprovider : ∀ c : ProviderCall, c.SetsUp config service → C.Allows inv (.provider c))
    (hwait : ∀ limit (c : ProviderCall), ¬ c.Makes → C.Allows inv (.providerWithin limit c))
    (hworkload : ∀ c, C.Allows inv (.workload c)) : (provision config service).Stable C inv :=
  stable_provision_of_calls rfl (hprovider _ ⟨rfl, rfl⟩) (hprovider _ ⟨rfl, rfl⟩)
    (fun _ => hwait _ _ not_false) (hprovider _ rfl) hworkload (fun _ => hprovider _ trivial)
    (fun _ => hprovider _ trivial) (hprovider _ trivial)

end Lifecycle

namespace Stage

variable {config : TunnelConfig} {cls : String} {key : ObjectKey} {stage : Stage}
  {service : Service}

@[simp] theorem next_provider (stage : Stage) (c : ProviderCall)
    (r : Except ProviderError c.Result) : stage.next (.provider c) r = stage := by
  cases stage <;> rfl

@[simp] theorem next_providerWithin (stage : Stage) (limit : Nat) (c : ProviderCall)
    (r : Option (Except ProviderError c.Result)) :
    stage.next (.providerWithin limit c) r = stage := by
  cases stage <;> rfl

@[simp] theorem next_workload (stage : Stage) (c : WorkloadCall) (r : Except OperatorError Unit) :
    stage.next (.workload c) r = stage := by
  cases stage <;> rfl

theorem next_error (stage : Stage) (c : ServiceCall) (e : OperatorError) :
    stage.next (.service c) (.error e) = .failed e := by
  cases stage <;> rfl

@[simp] theorem next_patchAnnotations (stage : Stage) (ns name : String) (version : Option String)
    (annotations : Dict String String) :
    stage.next (.service (.patchAnnotations ns name version annotations)) (.ok ()) = stage := by
  cases stage <;> rfl

@[simp] theorem next_patchIngress (stage : Stage) (ns name ip : String) :
    stage.next (.service (.patchIngress ns name ip)) (.ok ()) = stage := by
  cases stage <;> rfl

theorem Serves.acts {copy : Service} (h : stage.Serves cls copy) : stage.Acts := by
  cases stage with
  | found | served => exact trivial
  | _ => exact h.elim

theorem Acts.unfailed (h : stage.Acts) : stage.Unfailed := by
  cases stage with
  | failed e => exact h
  | _ => exact trivial

theorem Serves.copy? {copy : Service} (h : stage.Serves cls copy) : stage.copy? = some copy := by
  cases stage with
  | found first => exact congrArg some h.1
  | served second => exact congrArg some h
  | _ => exact h.elim

theorem ends_error (e : OperatorError) : Ends (.error e) (.failed e) :=
  fun _ h => congrArg _ (Stage.failed.inj h)

theorem Unfailed.ends (h : stage.Unfailed) (r : Except OperatorError Unit) : Ends r stage := by
  rintro e rfl
  exact h.elim

theorem finished_ends (r : Except OperatorError Unit) : Ends r .finished :=
  Unfailed.ends (show Stage.finished.Unfailed from trivial) r

theorem allows_workload (h : stage.Acts) (c : WorkloadCall) :
    (dealings config cls key).Allows (· = stage) (.workload c) := by
  rintro _ rfl
  exact ⟨⟨h.unfailed, h⟩, fun r s' hs' => hs'.trans (next_workload _ c r)⟩

theorem allows_provider (h : stage.Acts) {c : ProviderCall}
    (hc : c.Makes → ∃ copy, stage.Serves cls copy ∧ c.SetsUp config copy) :
    (dealings config cls key).Allows (· = stage) (.provider c) := by
  rintro _ rfl
  exact ⟨⟨h.unfailed, h, hc⟩, fun r s' hs' => hs'.trans (next_provider _ c r)⟩

theorem allows_providerWithin (h : stage.Acts) (limit : Nat) {c : ProviderCall}
    (hc : ¬ c.Makes) : (dealings config cls key).Allows (· = stage) (.providerWithin limit c) := by
  rintro _ rfl
  exact ⟨⟨h.unfailed, h, fun hmakes => absurd hmakes hc⟩,
    fun r s' hs' => hs'.trans (next_providerWithin _ limit c r)⟩

theorem stable_teardown (h : stage.Acts) (service : Service) :
    (Lifecycle.teardown config service).Stable (dealings config cls key) (· = stage) :=
  Lifecycle.stable_teardown (allows_workload h) fun _ hc =>
    allows_provider h fun hmakes => absurd hmakes hc

theorem stable_provision (h : stage.Serves cls service) :
    (Lifecycle.provision config service).Stable (dealings config cls key) (· = stage) :=
  Lifecycle.stable_provision
    (fun _ hc => allows_provider h.acts fun _ => ⟨service, h, hc⟩)
    (fun limit _ hc => allows_providerWithin h.acts limit hc) (allows_workload h.acts)

theorem stable_update (h : stage.Acts) (service : Service) :
    (Lifecycle.update config service).Stable (dealings config cls key) (· = stage) :=
  Lifecycle.stable_update
    (fun _ _ _ _ _ _ => Lifecycle.stable_applyWorkload (allows_workload h _) (allows_workload h _))
    fun _ _ _ _ => Lifecycle.stable_updateMachine
      (allows_provider h not_false.elim) (allows_provider h not_false.elim)

/-! The parts of a pass. -/

open Reconcile

theorem keeps_maintain (h : stage.Serves cls service) :
    (maintain config service key.ns key.name).Keeps (dealings config cls key) Ends stage := by
  have hrest : ((Lifecycle.update config service).bind fun _ => .done (.ok ())).Keeps
      (dealings config cls key) Ends stage :=
    (stable_update h.acts service stage rfl).bind fun _ stage' hstage =>
      hstage ▸ h.acts.unfailed.ends _
  unfold maintain
  dsimp only
  rw [keeps_andThen]
  split
  · split
    · exact hrest
    · refine (Operation.keeps_service _ _ _).mpr ⟨⟨h.acts.unfailed, rfl, service, Or.inl h⟩, ?_⟩
      rintro r _ rfl
      cases r with
      | error e =>
          rw [next_error]
          exact ends_error e
      | ok =>
          rw [next_patchIngress]
          exact hrest
  · exact hrest

theorem keeps_establish (h : stage.Serves cls service) :
    (establish config service key.ns key.name).Keeps (dealings config cls key) Ends stage := by
  unfold establish
  rw [keeps_andThen]
  refine (stable_provision h stage rfl).imp fun r stage' hstage => ?_
  subst hstage
  cases r with
  | error e => exact h.acts.unfailed.ends _
  | ok tunnel =>
      dsimp only
      refine (keeps_andThen _ _ _ _).mpr
        ((Operation.keeps_service _ _ _).mpr ⟨⟨h.acts.unfailed, rfl⟩, ?_⟩)
      rintro r _ rfl
      match r with
      | .error e =>
          rw [next_error]
          exact ends_error e
      | .ok none =>
          have hfinished :
              stage'.next (.service (.get key.ns key.name)) (.ok none) = .finished := by
            cases stage' <;> rfl
          have hopen : Stage.finished.Acts := trivial
          rw [hfinished]
          exact (stable_teardown hopen _ _ rfl).bind fun _ _ hstage =>
            hstage ▸ finished_ends _
      | .ok (some current) =>
          have hrecording : stage'.next (.service (.get key.ns key.name)) (.ok (some current)) =
              .recording current := by
            cases stage' with
            | found | served => rfl
            | outset | entered | recording | finished | failed => exact h.elim
          rw [hrecording]
          refine (keeps_andThen _ _ _ _).mpr ((Operation.keeps_service _ _ _).mpr
            ⟨⟨trivial, rfl, current, rfl, rfl, fun _ hk =>
              TunnelRecord.get?_toAnnotations_of_notMem tunnel hk⟩, ?_⟩)
          rintro r _ rfl
          cases r with
          | error e =>
              rw [next_error]
              exact ends_error e
          | ok =>
              rw [next_patchAnnotations]
              refine (Operation.keeps_service _ _ _).mpr
                ⟨⟨trivial, rfl, current, Or.inr rfl⟩, ?_⟩
              rintro r _ rfl
              cases r with
              | error e =>
                  rw [next_error]
                  exact ends_error e
              | ok =>
                  rw [next_patchIngress]
                  exact Unfailed.ends (show (Stage.recording current).Unfailed from trivial) _

theorem keeps_serve (h : stage.Serves cls service) :
    (serve config service key.ns key.name).Keeps (dealings config cls key) Ends stage := by
  unfold serve
  split
  · exact keeps_maintain h
  · exact keeps_establish h

theorem keeps_finalize (hmanaged : isManaged service cls = true)
    (hdeleting : service.isDeleting = true) :
    (finalize config service key.ns key.name).Keeps (dealings config cls key) Ends
      (.found service) := by
  unfold finalize
  have hopen : (Stage.found service).Acts := trivial
  refine (stable_teardown hopen service _ rfl).bind fun _ stage hstage => ?_
  subst hstage
  split
  · rename_i hguarded
    refine (Operation.keeps_service _ _ _).mpr ⟨⟨trivial, rfl, service, rfl, hmanaged, rfl,
      Or.inr ⟨hdeleting, List.contains_iff_mem.mp hguarded, rfl⟩⟩, ?_⟩
    rintro r _ rfl
    cases r with
    | error e =>
        rw [next_error]
        exact ends_error e
    | ok =>
        show Ends (.ok ()) (if service.isDeleting = true then .finished else .entered service)
        rw [if_pos hdeleting]
        exact finished_ends _
  · exact hopen.unfailed.ends _

/-- Every pass keeps to what it may do. -/
theorem keeps_pass :
    (pass config cls key.ns key.name).Keeps (dealings config cls key) Ends .outset := by
  refine keeps_pass_ends ⟨trivial, rfl⟩ ?_ ?_ ?_ ?_ ?_ ?_
  · rintro e _ rfl
    exact ends_error e
  · rintro _ rfl
    exact finished_ends _
  · rintro service _ rfl -
    exact Unfailed.ends (show (Stage.found service).Unfailed from trivial) _
  · rintro service _ rfl hmanaged hdeleting
    exact keeps_finalize hmanaged hdeleting
  · rintro service _ rfl hmanaged hlive -
    exact keeps_serve ⟨rfl, hmanaged, Bool.eq_false_iff.mpr hlive⟩
  · rintro service _ rfl hmanaged hlive hfree
    refine (Operation.keeps_service _ _ _).mpr ⟨⟨trivial, rfl, service, rfl, hmanaged, rfl,
      Or.inl ⟨Bool.eq_false_iff.mpr hlive, fun hmem => hfree (List.contains_iff_mem.mpr hmem),
        rfl⟩⟩, ?_⟩
    rintro r _ rfl
    cases r with
    | error e => exact ends_error e
    | ok =>
        show (Operation.service (.get key.ns key.name)).Keeps (dealings config cls key) _
          (if service.isDeleting = true then .finished else .entered service)
        rw [if_neg hlive]
        refine (Operation.keeps_service _ _ _).mpr ⟨⟨trivial, rfl⟩, ?_⟩
        rintro r _ rfl
        match r with
        | .error e => exact ends_error e
        | .ok none => exact finished_ends _
        | .ok (some second) =>
            exact keeps_serve (show (Stage.served second).Serves cls second from rfl)

end Stage

/-! ### Whole journeys -/

/-- What a pass goes by is known, and every stored Service has a version that was given out. -/
structure Aware (key : ObjectKey) (past : List Moment) (stage : Stage) (w : Realm) : Prop where
  versioned : w.cluster.Versioned
  known : ∀ copy, stage.copy? = some copy → Known key past copy w

namespace Aware

variable {config : TunnelConfig} {cls : String} {key : ObjectKey} {past : List Moment}
  {stage : Stage} {w w' : Realm}

theorem own {c : Call} {r : c.Reply} (h : Aware key past stage w)
    (hpermits : (dealings config cls key).permits stage c) (hanswers : w.Answers c r w') :
    Aware key (past ++ [.own c r]) (stage.next c r) w' := by
  have hversioned := h.versioned.later hanswers.later
  -- only a look-up changes what the pass goes by
  have hstays : (Moment.own c r).found? = none →
      (∀ copy, (stage.next c r).copy? = some copy → stage.copy? = some copy) →
      Aware key (past ++ [.own c r]) (stage.next c r) w' := fun hlook hsame =>
    ⟨hversioned, fun copy hcopy =>
      (h.known copy (hsame copy hcopy)).snoc hlook hanswers.later fun h => by cases h⟩
  cases c with
  | provider c => exact hstays rfl fun copy hcopy => by rwa [Stage.next_provider] at hcopy
  | providerWithin limit c =>
      exact hstays rfl fun copy hcopy => by rwa [Stage.next_providerWithin] at hcopy
  | workload c => exact hstays rfl fun copy hcopy => by rwa [Stage.next_workload] at hcopy
  | service c =>
      cases r with
      | error e =>
          rw [Stage.next_error]
          exact ⟨hversioned, fun copy hcopy => by cases hcopy⟩
      | ok a =>
          cases c with
          | get ns name =>
              obtain ⟨-, rfl⟩ := hpermits
              obtain ⟨hfound, hcluster⟩ := hanswers.found
              refine ⟨hversioned, fun copy hcopy => ?_⟩
              obtain rfl : a = some copy := by
                cases a with
                | none => cases stage <;> cases hcopy
                | some s => cases stage <;> cases hcopy <;> rfl
              exact .of_found hversioned (hcluster ▸ hfound) past
          | setFinalizers ns name version finalizers =>
              obtain ⟨-, -, first, rfl, -⟩ := hpermits
              refine hstays rfl fun copy hcopy => ?_
              change (if first.isDeleting = true then Stage.finished else .entered first).copy? =
                some copy at hcopy
              split at hcopy
              · cases hcopy
              · exact hcopy
          | patchAnnotations ns name version annotations =>
              exact hstays rfl fun copy hcopy => by rwa [Stage.next_patchAnnotations] at hcopy
          | patchIngress ns name ip =>
              exact hstays rfl fun copy hcopy => by rwa [Stage.next_patchIngress] at hcopy

theorem other {written : ObjectKey} (h : Aware key past stage w)
    (hwrites : w.cluster.Overwrites written w'.cluster) :
    Aware key (past ++ [.other written]) stage w' where
  versioned := h.versioned.later hwrites.later
  known copy hcopy := by
    refine (h.known copy hcopy).snoc rfl hwrites.later fun hkey s hs => ?_
    obtain rfl := Moment.other.inj hkey
    exact hwrites.new hs

end Aware

/-- In every journey the pass keeps to what it may do at its stage, and what it goes by is known.
Whatever else holds at first, and is kept by its calls and the writes of others, holds as well. -/
theorem Journey.sound {config : TunnelConfig} {cls : String} {key : ObjectKey} {w₀ : Realm}
    {E : List Moment → Stage → Realm → Prop} (hstart : E [] .outset w₀)
    (hown : ∀ {past stage c r w w'}, Aware key past stage w → E past stage w →
      (dealings config cls key).permits stage c → w.Answers c r w' →
      E (past ++ [.own c r]) (stage.next c r) w')
    (hother : ∀ {past stage written w w'}, Aware key past stage w → E past stage w →
      w.cluster.Overwrites written w'.cluster → E (past ++ [.other written]) stage w')
    (hversioned : w₀.cluster.Versioned) {past : List Moment}
    {p : Operation (Except OperatorError Unit)} {w : Realm}
    (h : Journey config cls key w₀ past p w) :
    ∃ stage, p.Keeps (dealings config cls key) Stage.Ends stage ∧ Aware key past stage w ∧
      E past stage w := by
  induction h with
  | start =>
      exact ⟨.outset, Stage.keeps_pass, ⟨hversioned, fun copy hcopy => by cases hcopy⟩, hstart⟩
  | own _ hanswers ih =>
      obtain ⟨stage, ⟨hpermits, hnext⟩, haware, hE⟩ := ih
      exact ⟨_, hnext _ _ rfl, haware.own hpermits hanswers, hown haware hE hpermits hanswers⟩
  | other _ written hwrites ih =>
      obtain ⟨stage, hkeeps, haware, hE⟩ := ih
      exact ⟨stage, hkeeps, haware.other hwrites, hother haware hE hwrites⟩

/-! ### Journeys over a site -/

/-- The call that an operation makes next. -/
def Operation.call? {α : Type} (p : Operation α) : Option Call := p.next?

namespace Journey

variable {config : TunnelConfig} {cls : String} {key : ObjectKey} {w₀ w : Realm}
  {past : List Moment} {p : Operation (Except OperatorError Unit)} {site : Site} {c : Call}

theorem exists_of_call? (h : Journey config cls key w₀ past p w)
    (hnext : Operation.call? p = some c) :
    ∃ next, Journey config cls key w₀ past (.call c next) w := by
  cases p with
  | done a => cases hnext
  | call c' next =>
      obtain rfl : c' = c := Option.some.inj hnext
      exact ⟨next, h⟩

/-- A pass goes on, call by call, as it does on the site, and nobody else writes. -/
theorem advance (h : Journey config cls key w₀ past p w) (hdepicts : site.Depicts w) (n : Nat) :
    ∃ own w', Journey config cls key w₀ (past ++ own) (p.advance Site.perform n site).1 w' ∧
      (p.advance Site.perform n site).2.Depicts w' ∧ ∀ written, .other written ∉ own := by
  induction n generalizing past p site w with
  | zero => exact ⟨[], w, by rwa [List.append_nil], hdepicts, fun _ => List.not_mem_nil⟩
  | succ n ih =>
      cases p with
      | done a => exact ⟨[], w, by rwa [List.append_nil], hdepicts, fun _ => List.not_mem_nil⟩
      | call c next =>
          obtain ⟨w', hhonest, hdepicts'⟩ := hdepicts.perform c
          obtain ⟨own, w'', hrest, hends, hown⟩ := ih (h.own hhonest.answers) hdepicts'
          refine ⟨_ :: own, w'', by rwa [List.append_assoc] at hrest, hends, fun written hmem => ?_⟩
          rw [List.mem_cons] at hmem
          obtain hfirst | hmem := hmem
          · cases hfirst
          · exact hown written hmem

/-- A pass goes on by a look-up of its Service. -/
theorem look (h : Journey config cls key w₀ past p w) (hdepicts : site.Depicts w)
    (hnext : Operation.call? p = some (.service (.get key.ns key.name))) {entry : Option Service}
    (hentry : site.cluster.services.get? key = entry) :
    ∃ w', Journey config cls key w₀ (past ++ [.own (.service (.get key.ns key.name)) (.ok entry)])
        (p.advance Site.perform 1 site).1 w' ∧ site.Depicts w' := by
  subst hentry
  cases p with
  | done a => cases hnext
  | call c next =>
      obtain rfl : c = .service (.get key.ns key.name) := Option.some.inj hnext
      obtain ⟨w', hhonest, hdepicts'⟩ := hdepicts.perform (.service (.get key.ns key.name))
      exact ⟨w', h.own hhonest.answers, hdepicts'⟩

/-- Others store a Service on the site between two calls. -/
theorem store (h : Journey config cls key w₀ past p w) (hdepicts : site.Depicts w)
    (written : ObjectKey) (s : Service) :
    ∃ w', Journey config cls key w₀ (past ++ [.other written]) p w' ∧
      Site.Depicts { site with cluster := site.cluster.store written s } w' := by
  obtain ⟨estate, cluster⟩ := w
  obtain ⟨hcloud, rfl⟩ := hdepicts
  exact ⟨⟨estate, site.cluster.store written s⟩, h.other written (.stored s), hcloud, rfl⟩

end Journey

theorem Simulation.Cluster.versioned_sample (names : List String) :
    (Cluster.sample names).Versioned := by
  have hfold : ∀ c : Cluster, c.Versioned → (names.foldl
      (fun c name => c.store ⟨"default", name⟩ (sampleService name)) c).Versioned := by
    induction names with
    | nil => exact fun _ h => h
    | cons name rest ih => exact fun c h => ih _ (h.later (c.later_store _ _))
  refine hfold {} fun key s hs => ?_
  rw [show ({} : Cluster).services.get? key = none from Dict.get?_empty key] at hs
  cases hs

end ServiceTunnel
