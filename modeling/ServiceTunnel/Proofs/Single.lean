import ServiceTunnel.Proofs.Derived
import ServiceTunnel.Proofs.Ledger
import ServiceTunnel.Proofs.Recording
import ServiceTunnel.Proofs.Runs

/-!
# ServiceTunnel.Proofs.Single

**One machine and one address, as long as what is made is recorded.** A pass makes a machine only
for a Service without a record, so there is a second machine as soon as one pass leaves a machine
behind that no record tells of. Between passes there is none: whatever the application of a Service
has is recorded on the Service, behind the finalizer, unless the Service is being deleted or gone
and no more is made for it (`Realm.Accounted`). A pass gives that up when it asks for a machine, and
brings it back in one of two ways: it records the tunnel, or it deletes the application
(`keeps_pass`, `counts_call`, `Counts.accounted`).

Most calls may fail in between. Three may not while the Service stays and its application has
something: the deletion of the application, the look-up of the Service after setting up, and the
writing of the record (`Single.Granted`). With these there is never more than one machine and one
address (`at_most_one`); without them there can be two (`second_machine_unrecorded`).
-/

namespace ServiceTunnel

open Kube Simulation

/-! ### How many -/

/-- Nothing is there under any identifier. -/
def Nothing {α : Type} (f : String → Option α) : Prop := ∀ id, f id = none

/-- There is something under one identifier at most. -/
def AtMostOne {α : Type} (f : String → Option α) : Prop :=
  ∀ id id' a a', f id = some a → f id' = some a' → id = id'

section Count

variable {α : Type} {f f' : String → Option α}

theorem Nothing.atMostOne (h : Nothing f) : AtMostOne f := by
  intro id id' a a' ha
  rw [h id] at ha
  cases ha

theorem Nothing.before (h : Nothing f) (hf : ∀ id a, f' id = some a → ∃ a', f id = some a') :
    Nothing f' := by
  intro id
  cases hid : f' id with
  | none => rfl
  | some a =>
      obtain ⟨a', ha'⟩ := hf id a hid
      rw [h id] at ha'
      cases ha'

/-- Where there was nothing, and there is more under one identifier only, there is one at most. -/
theorem Nothing.atMostOne_made {made : String} (h : Nothing f)
    (hf : ∀ id a, f' id = some a → id = made ∨ f id = some a) : AtMostOne f' := by
  have hmade : ∀ id a, f' id = some a → id = made := by
    intro id a ha
    refine (hf id a ha).resolve_right fun hold => ?_
    rw [h id] at hold
    cases hold
  intro id id' a a' ha ha'
  rw [hmade id a ha, hmade id' a' ha']

theorem AtMostOne.before (h : AtMostOne f)
    (hf : ∀ id a, f' id = some a → ∃ a', f id = some a') : AtMostOne f' := by
  intro id id' a a' ha ha'
  obtain ⟨b, hb⟩ := hf id a ha
  obtain ⟨b', hb'⟩ := hf id' a' ha'
  exact h id id' b b' hb hb'

end Count

/-- The application of a Service has no machine and no address. -/
def Realm.Bare (w : Realm) (key : ObjectKey) : Prop :=
  Nothing (w.estate.machineOf? (appOf key)) ∧ Nothing (w.estate.ipOf? (appOf key))

/-- The application of a Service has one machine and one address at most. -/
def Realm.OneEach (w : Realm) (key : ObjectKey) : Prop :=
  AtMostOne (w.estate.machineOf? (appOf key)) ∧ AtMostOne (w.estate.ipOf? (appOf key))

/-- A Service is being deleted, or gone. -/
def Realm.Doomed (w : Realm) (key : ObjectKey) : Prop :=
  ∀ service, w.cluster.services.get? key = some service → service.isDeleting = true

/-- The application of a Service has nothing, or nothing more is made for the Service. -/
def Realm.Closed (w : Realm) (key : ObjectKey) : Prop := w.Bare key ∨ w.Doomed key

/-- The operator's finalizer is on a Service, and the record of a tunnel in its own application. -/
structure Recorded (key : ObjectKey) (service : Service) : Prop where
  finalizer : Reconcile.hasFinalizer service = true
  flyApp : (TunnelRecord.ofService service).flyApp = some (appOf key)

/-- Whatever the application of a Service has is recorded on the Service, which the finalizer holds
back, unless nothing more is made for it. -/
def Realm.Accounted (w : Realm) (key : ObjectKey) : Prop :=
  w.Closed key ∨ ∃ service, w.cluster.services.get? key = some service ∧ Recorded key service

section Realm

variable {w : Realm} {key : ObjectKey} {service : Service}

theorem Realm.Bare.oneEach (h : w.Bare key) : w.OneEach key := ⟨h.1.atMostOne, h.2.atMostOne⟩

theorem Recorded.isProvisioned (h : Recorded key service) :
    (TunnelRecord.ofService service).isProvisioned = true := by
  rw [TunnelRecord.isProvisioned, h.flyApp]
  rfl

/-- Whoever finds the Service, and not being deleted, finds what its application has recorded on
it. -/
theorem Realm.Accounted.found (h : w.Accounted key)
    (hservice : w.cluster.services.get? key = some service)
    (hlive : ¬ service.isDeleting = true) : w.Bare key ∨ Recorded key service := by
  obtain (hbare | hdoomed) | ⟨service', hservice', hrecorded⟩ := h
  · exact Or.inl hbare
  · exact absurd (hdoomed service hservice) hlive
  · rw [Option.some.inj (hservice.symm.trans hservice')]
    exact Or.inr hrecorded

end Realm

namespace Single

/-- The calls of a pass that may not fail: to delete the application, to look up once more the
Service that was seen, and to record a tunnel. -/
def Granted (seen : Option Service) : (c : Call) → c.Reply → Prop
  | .provider (.deleteApp _), r => r = .ok ()
  | .service (.get _ _), r => seen.isSome = true → ∀ e, r ≠ .error e
  | .service (.patchAnnotations _ _ _ _), r => r = .ok ()
  | _, _ => True

/-- Passes are over the Service `key` alone, and each goes on to its end. What may not fail does not
fail while the application has something and the Service is not being deleted. Others leave the
operator's finalizer on. They cannot call a deletion off, and do not create the Service anew while
its application has something. -/
def regime (key : ObjectKey) : Scene.Regime := fun s a s' =>
  match a with
  | .begin other => other = key
  | .call other c r =>
    ∀ f, s.flights other = some f → s.realm.Closed key ∨ Granted f.seen c r
  | .finish other => ∃ seen r, s.flights other = some ⟨seen, .done r⟩
  | .change _ =>
    (s.realm.Guards key → s'.realm.Guards key) ∧ (s.realm.Doomed key → s'.realm.Closed key)

variable {config : TunnelConfig} {key : ObjectKey} {stage : Stage} {service : Service}
  {app : String}

/-! ### What every run keeps -/

/-- What there is at each stage. -/
def Counts (key : ObjectKey) (w : Realm) : Stage → Prop
  | .resting => w.OneEach key ∧ w.Accounted key
  | .unguarded => w.Bare key
  | .guarded | .making => w.Bare key ∧ w.Guards key
  | .made => AtMostOne (w.estate.machineOf? (appOf key)) ∧
      Nothing (w.estate.ipOf? (appOf key)) ∧ w.Guards key
  | .ready => w.OneEach key ∧ w.Guards key
  | .undoing => w.OneEach key
  | .leaving | .cleared | .lost => w.OneEach key ∧ w.Closed key

section Counts

variable {w w' : Realm}

theorem Counts.oneEach (h : Counts key w stage) : w.OneEach key := by
  cases stage with
  | resting | ready | leaving | cleared | lost => exact h.1
  | unguarded => exact Realm.Bare.oneEach h
  | guarded | making => exact h.1.oneEach
  | made => exact ⟨h.1, h.2.1.atMostOne⟩
  | undoing => exact h

/-- **A pass that is settled leaves nothing behind.** Whatever there is then is recorded. -/
theorem Counts.accounted (h : Counts key w stage) (hsettled : stage.Settled) :
    w.Accounted key := by
  cases stage with
  | resting => exact h.2
  | unguarded => exact Or.inl (Or.inl h)
  | guarded | making => exact Or.inl (Or.inl h.1)
  | made | ready | undoing => exact hsettled.elim
  | leaving | cleared | lost => exact Or.inl h.2

/-- Nothing is added to what the application has, and the record of it stays. -/
structure Lasts (key : ObjectKey) (w w' : Realm) : Prop where
  bare : w.Bare key → w'.Bare key
  oneEach : w.OneEach key → w'.OneEach key
  made : AtMostOne (w.estate.machineOf? (appOf key)) ∧ Nothing (w.estate.ipOf? (appOf key)) →
    AtMostOne (w'.estate.machineOf? (appOf key)) ∧ Nothing (w'.estate.ipOf? (appOf key))
  guards : w.Guards key → w'.Guards key
  closed : w.Closed key → w'.Closed key
  accounted : w.Accounted key → w'.Accounted key

theorem Counts.lasts (h : Counts key w stage) (hlasts : Lasts key w w') :
    Counts key w' stage := by
  cases stage with
  | resting => exact h.imp hlasts.oneEach hlasts.accounted
  | unguarded => exact hlasts.bare h
  | guarded | making => exact h.imp hlasts.bare hlasts.guards
  | made =>
      obtain ⟨hmachine, hip⟩ := hlasts.made ⟨h.1, h.2.1⟩
      exact ⟨hmachine, hip, hlasts.guards h.2.2⟩
  | ready => exact h.imp hlasts.oneEach hlasts.guards
  | undoing => exact hlasts.oneEach h
  | leaving | cleared | lost => exact h.imp hlasts.oneEach hlasts.closed

/-- What exists is no more than it was, and a Service with the finalizer keeps it and its record. -/
theorem lasts_of_entry
    (hmachine : ∀ id m, w'.estate.machineOf? (appOf key) id = some m →
      ∃ m', w.estate.machineOf? (appOf key) id = some m')
    (hip : ∀ id ip, w'.estate.ipOf? (appOf key) id = some ip →
      ∃ ip', w.estate.ipOf? (appOf key) id = some ip')
    (hdoomed : w.Doomed key → w'.Closed key)
    (hentry : ∀ service, w.cluster.services.get? key = some service →
      Reconcile.hasFinalizer service = true →
      ∃ service', w'.cluster.services.get? key = some service' ∧
        Reconcile.hasFinalizer service' = true ∧
        TunnelRecord.ofService service' = TunnelRecord.ofService service) : Lasts key w w' := by
  have hbare : w.Bare key → w'.Bare key := fun h => ⟨h.1.before hmachine, h.2.before hip⟩
  have hclosed : w.Closed key → w'.Closed key := fun h => h.elim (fun h => Or.inl (hbare h)) hdoomed
  refine ⟨hbare, fun h => ⟨h.1.before hmachine, h.2.before hip⟩,
    fun h => ⟨h.1.before hmachine, h.2.before hip⟩, fun h => ?_, hclosed,
    fun h => h.imp hclosed fun hstored => ?_⟩
  · obtain ⟨service, hservice, hfinalizer⟩ := h
    obtain ⟨service', hservice', hfinalizer', -⟩ := hentry service hservice hfinalizer
    exact ⟨service', hservice', hfinalizer'⟩
  · obtain ⟨service, hservice, hrecorded⟩ := hstored
    obtain ⟨service', hservice', hfinalizer, hsame⟩ := hentry service hservice hrecorded.finalizer
    exact ⟨service', hservice', hfinalizer, hsame ▸ hrecorded.flyApp⟩

/-- Others leave the record alone. -/
theorem lasts_change {other : ObjectKey} {cluster : Cluster}
    (hchanges : w.cluster.Changes other cluster)
    (hguards : w.Guards key → ({ w with cluster := cluster } : Realm).Guards key)
    (hdoomed : w.Doomed key → ({ w with cluster := cluster } : Realm).Closed key) :
    Lasts key w { w with cluster := cluster } := by
  refine lasts_of_entry (fun id m hm => ⟨m, hm⟩) (fun id ip hip => ⟨ip, hip⟩) hdoomed
    fun service hservice hfinalizer => ?_
  obtain ⟨service', hservice', hfinalizer'⟩ := hguards ⟨service, hservice, hfinalizer⟩
  exact ⟨service', hservice', hfinalizer', hchanges.record_eq hservice hservice'⟩

end Counts

/-! ### Calls -/

section Calls

variable {w w' : Realm} {c : Call} {r : c.Reply}

/-- A call that makes no machine leaves no more machines than there were. -/
theorem machine_before (hanswers : w.Answers c r w')
    (hc : ∀ app input, c.provider? ≠ some (.createMachine app input)) :
    ∀ id m, w'.estate.machineOf? app id = some m →
      ∃ m', w.estate.machineOf? app id = some m' := by
  intro id m hm
  obtain hsame | ⟨pc, a, hpc, hcarries⟩ := hanswers.estate
  · exact ⟨m, by rw [← hsame]; exact hm⟩
  · refine hcarries.machine_before (fun app' input hmakes => ?_) hm
    subst hmakes
    exact hc app' input hpc

/-- A call that allocates no address leaves no more addresses than there were. -/
theorem ip_before (hanswers : w.Answers c r w')
    (hc : ∀ app, c.provider? ≠ some (.allocateIp app)) :
    ∀ id ip, w'.estate.ipOf? app id = some ip → ∃ ip', w.estate.ipOf? app id = some ip' := by
  intro id ip hip
  obtain hsame | ⟨pc, a, hpc, hcarries⟩ := hanswers.estate
  · exact ⟨ip, by rw [← hsame]; exact hip⟩
  · refine hcarries.ip_before (fun app' hmakes => ?_) hip
    subst hmakes
    exact hc app' hpc

/-- Where there is no machine, one call makes one at most. -/
theorem atMostOne_machine {app' : String} {input : MachineInput}
    {r : Except ProviderError Machine}
    (hanswers : w.Answers (.provider (.createMachine app' input)) r w')
    (h : Nothing (w.estate.machineOf? app)) : AtMostOne (w'.estate.machineOf? app) := by
  obtain hsame | ⟨made, hcarries⟩ := hanswers.1.effect
  · rw [hsame]
    exact h.atMostOne
  · exact h.atMostOne_made fun _ _ => hcarries.machine_made

/-- Where there is no address, one call allocates one at most. -/
theorem atMostOne_ip {app' : String} {r : Except ProviderError IpAddress}
    (hanswers : w.Answers (.provider (.allocateIp app')) r w')
    (h : Nothing (w.estate.ipOf? app)) : AtMostOne (w'.estate.ipOf? app) := by
  obtain hsame | ⟨made, hcarries⟩ := hanswers.1.effect
  · rw [hsame]
    exact h.atMostOne
  · exact h.atMostOne_made fun _ _ => hcarries.ip_made

/-- A call that leaves the record of a Service and the operator's finalizer alone. -/
def Discreet : ServiceCall → Prop
  | .setFinalizers _ _ _ finalizers => Annotations.finalizer ∈ finalizers
  | .patchAnnotations .. => False
  | _ => True

theorem Discreet.keepsFinalizer {sc : ServiceCall} (h : Discreet sc) : Guard.KeepsFinalizer sc := by
  cases sc with
  | setFinalizers => exact h
  | get | patchAnnotations | patchIngress => exact trivial

/-- A discreet call leaves the Service as it is in all that matters here. -/
theorem entry_call (hanswers : w.Answers c r w') (hc : ∀ sc, c = .service sc → Discreet sc)
    (hservice : w.cluster.services.get? key = some service)
    (hfinalizer : Reconcile.hasFinalizer service = true) :
    ∃ service', w'.cluster.services.get? key = some service' ∧
      Reconcile.hasFinalizer service' = true ∧
      TunnelRecord.ofService service' = TunnelRecord.ofService service := by
  obtain hsame | ⟨sc, old, hsc, -, hold, hwritten⟩ := hanswers.entry key
  · exact ⟨service, hsame.trans hservice, hfinalizer, rfl⟩
  · have hdiscreet := hc sc hsc
    obtain rfl : service = old := Option.some.inj (hservice.symm.trans hold)
    have hkept := Guard.hasFinalizer_edit hdiscreet.keepsFinalizer hfinalizer
    obtain ⟨version, hstored⟩ := Guard.stored_of_written hwritten hkept
    refine ⟨_, hstored, hkept, ?_⟩
    cases sc with
    | patchAnnotations ns name version annotations => exact hdiscreet.elim
    | get | setFinalizers | patchIngress => rfl

/-- No call of a pass calls a deletion off, or creates a Service. -/
theorem doomed_call (hanswers : w.Answers c r w') (h : w.Doomed key) : w'.Doomed key := by
  intro service' hservice'
  obtain ⟨service, version, hservice, rfl | ⟨sc, -, -, rfl⟩⟩ := hanswers.stored_before hservice'
  · exact h service hservice
  · exact (sc.isDeleting_edit service).trans (h service hservice)

/-- A call to the provider that makes neither a machine nor an address. -/
def Sparing : ProviderCall → Prop
  | .createMachine .. | .allocateIp .. => False
  | _ => True

theorem lasts_call (hanswers : w.Answers c r w')
    (hprovider : ∀ pc, c.provider? = some pc → Sparing pc)
    (hservice : ∀ sc, c = .service sc → Discreet sc) : Lasts key w w' :=
  lasts_of_entry (machine_before hanswers fun _ _ hpc => hprovider _ hpc)
    (ip_before hanswers fun _ hpc => hprovider _ hpc)
    (fun hdoomed => Or.inr (doomed_call hanswers hdoomed))
    fun _ => entry_call hanswers hservice

/-- A call that leaves the cluster alone leaves the finalizer on. -/
theorem guards_of_cluster (hcluster : w'.cluster = w.cluster) (h : w.Guards key) :
    w'.Guards key := by
  rw [Realm.Guards, hcluster]
  exact h

@[simp] theorem next_deleteApp (app : String) (r : Except ProviderError Unit) :
    stage.next (.provider (.deleteApp app)) r = .cleared := by
  cases stage <;> rfl

/-- The application that a pass deletes is the Service's own, or the Service is being deleted. -/
theorem counts_deleteApp {r : Except ProviderError Unit}
    (hanswers : w.Answers (.provider (.deleteApp app)) r w')
    (hpermits : app = appOf key ∨ stage = .leaving) (hgranted : w.Closed key ∨ r = .ok ())
    (h : Counts key w stage) : Counts key w' .cleared := by
  have hlasts : Lasts key w w' :=
    lasts_call hanswers (fun pc hpc => by cases hpc; exact trivial) nofun
  refine ⟨hlasts.oneEach h.oneEach, ?_⟩
  obtain hclosed | rfl := hgranted
  · exact hlasts.closed hclosed
  rcases hpermits with rfl | rfl
  · have hgone : ¬ w'.estate.Bears (appOf key) := by
      rw [show w'.estate = w.estate.withoutApp (appOf key) from hanswers.1]
      exact Estate.not_bears_withoutApp _ _
    exact Or.inl ⟨Estate.machineOf?_eq_none hgone, Estate.ipOf?_eq_none hgone⟩
  · exact hlasts.closed h.2

theorem counts_createMachine {input : MachineInput} {r : Except ProviderError Machine}
    (hanswers : w.Answers (.provider (.createMachine app input)) r w')
    (h : Counts key w .making) : Counts key w' .made :=
  ⟨atMostOne_machine hanswers h.1.1, h.1.2.before (ip_before hanswers nofun),
    guards_of_cluster hanswers.2 h.2⟩

theorem counts_allocateIp {r : Except ProviderError IpAddress}
    (hanswers : w.Answers (.provider (.allocateIp app)) r w') (h : Counts key w .made) :
    Counts key w' (Stage.made.next (.provider (.allocateIp app)) r) := by
  have hone : w'.OneEach key :=
    ⟨h.1.before (machine_before hanswers nofun), atMostOne_ip hanswers h.2.1⟩
  cases r with
  | error e => exact hone
  | ok ip => exact ⟨hone, guards_of_cluster hanswers.2 h.2.2⟩

/-- Any other call to the provider makes nothing. -/
theorem counts_provider {pc : ProviderCall} {r : Except ProviderError pc.Result}
    (hanswers : w.Answers (.provider pc) r w') (hpc : Sparing pc)
    (hnext : stage ≠ .ready → stage.next (.provider pc) r = stage)
    (hready : stage = .ready → stage.next (.provider pc) r = .undoing)
    (h : Counts key w stage) : Counts key w' (stage.next (.provider pc) r) := by
  have hstill : Counts key w' stage :=
    h.lasts (lasts_call hanswers (fun pc' hpc' => by cases hpc'; exact hpc) nofun)
  by_cases hstage : stage = .ready
  · rw [hready hstage]
    exact hstill.oneEach
  · rw [hnext hstage]
    exact hstill

/-- A Service without a record is seen where nothing has been made. -/
theorem counts_seeing (hfound : w.cluster.services.get? key = some service)
    (hfinalizer : Reconcile.hasFinalizer service = true) (hone : w.OneEach key)
    (h : w.Bare key ∨ Recorded key service) : Counts key w (.seeing service) := by
  unfold Stage.seeing
  split
  · exact ⟨hone, h.imp Or.inl fun hrecorded => ⟨service, hfound, hrecorded⟩⟩
  · rename_i hunrecorded
    exact ⟨h.resolve_right fun hrecorded => hunrecorded hrecorded.isProvisioned,
      service, hfound, hfinalizer⟩

/-- What a pass first sees of its Service tells what its application has. -/
theorem counts_look (hfound : w.cluster.services.get? key = some service)
    (h : Counts key w .resting) {ns name : String} :
    Counts key w (Stage.resting.next (.service (.get ns name)) (.ok (some service))) := by
  obtain ⟨hone, haccounted⟩ := h
  simp only [Stage.next]
  split
  · rename_i hdeleting
    refine ⟨hone, Or.inr fun service' hservice' => ?_⟩
    rwa [← Option.some.inj (hfound.symm.trans hservice')]
  · rename_i hlive
    have hseen := haccounted.found hfound hlive
    split
    · rename_i hfinalizer
      exact counts_seeing hfound hfinalizer hone hseen
    · rename_i hbare
      exact hseen.resolve_right fun hrecorded => hbare hrecorded.finalizer

theorem counts_get {ns name : String} {r : Except OperatorError (Option Service)}
    (hanswers : w.Answers (.service (.get ns name)) r w') (hkey : (⟨ns, name⟩ : ObjectKey) = key)
    (hgranted : stage = .ready → w.Closed key ∨ ∀ e, r ≠ .error e)
    (h : Counts key w stage) : Counts key w' (stage.next (.service (.get ns name)) r) := by
  have hcluster : w'.cluster = w.cluster := hanswers.2.effect.elim id id
  obtain rfl : w' = w := Realm.ext hanswers.1 hcluster
  match r with
  | .error e =>
      cases stage with
      | ready => exact ⟨h.1, (hgranted rfl).resolve_right fun hok => hok e rfl⟩
      | _ => exact h
  | .ok none =>
      cases stage with
      | ready =>
          refine ⟨h.1, Or.inr fun service hservice => ?_⟩
          rw [← hkey, hanswers.found.1] at hservice
          cases hservice
      | _ => exact h
  | .ok (some service) =>
      have hfound : w'.cluster.services.get? key = some service := hkey ▸ hanswers.found.1
      cases stage with
      | resting => exact counts_look hfound h
      | guarded =>
          obtain ⟨hbare, service', hservice', hfinalizer⟩ := h
          obtain rfl : service = service' := Option.some.inj (hfound.symm.trans hservice')
          exact counts_seeing hfound hfinalizer hbare.oneEach (Or.inl hbare)
      | _ => exact h

/-- Where nothing more is made, nothing depends on what a pass writes to the Service. -/
theorem closed_service {sc : ServiceCall} {r : Except OperatorError sc.Result}
    (hanswers : w.Answers (.service sc) r w') (h : w.OneEach key ∧ w.Closed key) :
    w'.OneEach key ∧ w'.Closed key := by
  rw [Realm.OneEach, Realm.Closed, Realm.Bare, hanswers.1]
  exact h.imp id (Or.imp_right (doomed_call hanswers))

theorem counts_setFinalizers {ns name : String} {version : Option String}
    {finalizers : List String} {r : Except OperatorError Unit}
    (hanswers : w.Answers (.service (.setFinalizers ns name version finalizers)) r w')
    (hkey : (⟨ns, name⟩ : ObjectKey) = key)
    (hkeeps : Annotations.finalizer ∈ finalizers ∨ stage = .cleared) (h : Counts key w stage) :
    Counts key w' (stage.next (.service (.setFinalizers ns name version finalizers)) r) := by
  obtain hkept | rfl := hkeeps
  · have hlasts : Lasts key w w' :=
      lasts_call hanswers nofun fun sc hsc => by cases hsc; exact hkept
    have hstill : Counts key w' stage := h.lasts hlasts
    cases stage with
    | unguarded =>
        cases r with
        | error e => exact hstill
        | ok =>
            obtain ⟨old, -, hwritten⟩ := hanswers.wrote nofun
            subst hkey
            exact ⟨hstill, Guard.exists_of_written hwritten (List.contains_iff_mem.mpr hkept)⟩
    | _ => exact hstill
  · -- it does not matter any more what becomes of the Service
    exact closed_service hanswers h

/-- What is recorded is the Service's own application. -/
theorem recorded_patchAnnotations {ns name : String} {version : Option String} {t : Tunnel}
    (hanswers : w.Answers (.service (.patchAnnotations ns name version
      (TunnelRecord.ofTunnel t).toAnnotations)) (.ok () : Except OperatorError Unit) w')
    (hkey : (⟨ns, name⟩ : ObjectKey) = key) (happ : t.appName = appOf key) (h : w.Guards key) :
    ∃ service, w'.cluster.services.get? key = some service ∧ Recorded key service := by
  obtain ⟨service, hservice, hfinalizer⟩ := h
  obtain ⟨old, hold, hwritten⟩ := hanswers.wrote nofun
  subst hkey
  obtain rfl : service = old := Option.some.inj (hservice.symm.trans hold)
  have hkept := Guard.hasFinalizer_edit (c := .patchAnnotations ns name version
    (TunnelRecord.ofTunnel t).toAnnotations) trivial hfinalizer
  obtain ⟨version', hstored⟩ := Guard.stored_of_written hwritten hkept
  have hnonEmpty : t.appName ≠ "" := by
    refine happ.trans_ne ?_
    unfold appOf
    exact Name.derive_ne_empty (by decide) ns name
  refine ⟨_, hstored, hkept, ?_⟩
  exact (TunnelRecord.flyApp_merge service.annotations hnonEmpty).trans (congrArg some happ)

/-- A tunnel is recorded, or the pass is lost where nothing more is made. -/
theorem counts_patchAnnotations {ns name : String} {version : Option String} {t : Tunnel}
    {r : Except OperatorError Unit}
    (hanswers : w.Answers (.service (.patchAnnotations ns name version
      (TunnelRecord.ofTunnel t).toAnnotations)) r w')
    (hkey : (⟨ns, name⟩ : ObjectKey) = key) (happ : t.appName = appOf key)
    (hgranted : w.Closed key ∨ r = .ok ()) (h : Counts key w .ready) :
    Counts key w' (Stage.ready.next (.service (.patchAnnotations ns name version
      (TunnelRecord.ofTunnel t).toAnnotations)) r) := by
  cases r with
  | error e => exact closed_service hanswers ⟨h.1, hgranted.resolve_right nofun⟩
  | ok =>
      refine ⟨?_, Or.inr (recorded_patchAnnotations hanswers hkey happ h.2)⟩
      rw [Realm.OneEach, hanswers.1]
      exact h.1

/-- A pass in this stage is about to make something, or has made it. -/
def Stage.Busy : Stage → Prop
  | .making | .made | .ready => True
  | _ => False

/-- **One call leaves as much as the stage after it allows.** -/
theorem counts_call {seen : Option Service} (hanswers : w.Answers c r w')
    (hpermits : (contract key).permits stage c) (hgranted : w.Closed key ∨ Granted seen c r)
    (hseen : stage.Busy → seen.isSome = true) (h : Counts key w stage) :
    Counts key w' (stage.next c r) := by
  cases c with
  | provider pc =>
      cases pc with
      | createMachine app input =>
          obtain rfl : stage = .making := hpermits
          exact counts_createMachine hanswers h
      | allocateIp app =>
          obtain ⟨rfl, rfl⟩ := hpermits
          exact counts_allocateIp hanswers h
      | deleteApp app =>
          rw [next_deleteApp]
          exact counts_deleteApp hanswers hpermits hgranted h
      | ensureApp | getMachine | updateMachine | deleteMachine | waitForMachine | releaseIp
        | listIps =>
          refine counts_provider hanswers trivial (fun hstage => ?_) (fun hstage => ?_) h
          · cases stage <;> first | rfl | exact absurd rfl hstage
          · rw [hstage]
            rfl
  | providerWithin limit pc =>
      cases pc with
      | waitForMachine app id instanceId state seconds =>
          obtain rfl : stage = .made := hpermits
          have hsparing : ∀ pc', Call.provider? (.providerWithin limit (.waitForMachine app id
              instanceId state seconds)) = some pc' → Sparing pc' := by
            intro pc' hpc'
            cases hpc'
            exact trivial
          exact h.lasts (lasts_call hanswers hsparing nofun)
      | _ => exact hpermits.elim
  | workload wc =>
      have hstill : Counts key w' stage :=
        h.lasts (lasts_call hanswers nofun nofun)
      cases stage <;> exact hstill
  | service sc =>
      cases sc with
      | get ns name =>
          refine counts_get hanswers hpermits.1 (fun hready => hgranted.imp_right fun hheld => ?_) h
          exact hheld (hseen (hready ▸ trivial))
      | setFinalizers ns name version finalizers =>
          exact counts_setFinalizers hanswers hpermits.1 hpermits.2 h
      | patchAnnotations ns name version annotations =>
          obtain ⟨hkey, rfl, t, happ, rfl⟩ := hpermits
          exact counts_patchAnnotations hanswers hkey happ hgranted h
      | patchIngress ns name ip =>
          have hstill : Counts key w' stage := h.lasts
            (lasts_call hanswers nofun fun sc hsc => by cases hsc; exact trivial)
          cases stage <;> exact hstill

/-- A pass that makes something has seen its Service. -/
theorem seen_next {seen : Option Service} (h : stage.Busy → seen.isSome = true)
    (hbusy : (stage.next c r).Busy) : (Flight.see seen c r).isSome = true := by
  have hkept : seen.isSome = true → (Flight.see seen c r).isSome = true := by
    intro hseen
    obtain ⟨service, rfl⟩ := Option.isSome_iff_exists.mp hseen
    rw [Guard.see_some]
    rfl
  unfold Stage.next at hbusy
  split at hbusy
  -- a look-up has found the Service just now, or the pass was busy before
  case h_2 | h_4 => simp [Flight.see]
  case h_5 | h_6 => exact hkept (h trivial)
  case h_13 => exact hkept (h hbusy)
  all_goals exact hbusy.elim

theorem tells_answers (hanswers : w.Answers c r w') (hpermits : (contract key).permits stage c)
    (hnamed : w.Named) : Tells key c r := by
  unfold Tells
  split
  · obtain ⟨rfl, -⟩ := hpermits
    exact hnamed _ _ hanswers.found.1
  · trivial

end Calls

/-! ### Runs -/

/-- Only the Service `key` has a pass, and there is as much as its stage allows. -/
structure Sole (key : ObjectKey) (stages : ObjectKey → Stage) (s : Scene) : Prop where
  alone : ∀ other, other ≠ key → s.flights other = none
  named : s.realm.Named
  seen : ∀ f, s.flights key = some f → (stages key).Busy → f.seen.isSome = true
  counts : Counts key s.realm (stages key)

theorem Sole.eq_key {stages : ObjectKey → Stage} {s : Scene} {other : ObjectKey} {f : Flight}
    (h : Sole key stages s) (hflight : s.flights other = some f) : other = key := by
  by_contra hother
  rw [h.alone other hother] at hflight
  cases hflight

/-- The rules under which there is one machine and one address at most. -/
def rules (config : TunnelConfig) (cls : String) (key : ObjectKey) :
    Scene.Rules config cls (regime key) Stage where
  contract := contract
  idle := .resting
  inv := Sole key
  post _ := Stage.Settled
  pass_keeps other := keeps_pass cls
  begin_inv {stages s s' other} h hstep hR hidle := by
    cases hstep with
    | begin other hnone =>
        obtain rfl : other = key := hR
        refine ⟨fun third hthird => ?_, h.named, fun f _ hbusy => ?_, h.counts⟩
        · exact (Function.update_of_ne hthird _ _).trans (h.alone third hthird)
        · rw [hidle] at hbusy
          exact hbusy.elim
  call_inv {stages s s' other c r} h hstep hR hpermits := by
    cases hstep with
    | call other seen c next r realm hflight hanswers =>
        obtain rfl : other = key := h.eq_key hflight
        have hseen : (stages other).Busy → seen.isSome = true := h.seen _ hflight
        refine ⟨(stages other).next c r, ⟨rfl, tells_answers hanswers hpermits h.named⟩,
          fun third hthird => ?_, Ledger.named_answers h.named hanswers, fun f hf hbusy => ?_, ?_⟩
        · exact (Function.update_of_ne hthird _ _).trans (h.alone third hthird)
        · simp only [Function.update_self, Option.some.injEq] at hf hbusy
          subst hf
          exact seen_next hseen hbusy
        · rw [Function.update_self]
          exact counts_call hanswers hpermits (hR _ hflight) hseen h.counts
  finish_inv {stages s s' other} h hstep hR hsettled := by
    cases hstep with
    | finish other flight hflight =>
        obtain rfl : other = key := h.eq_key hflight
        refine ⟨fun third hthird => ?_, h.named, fun f hf => ?_, ?_⟩
        · exact (Function.update_of_ne hthird _ _).trans (h.alone third hthird)
        · simp only [Function.update_self, reduceCtorEq] at hf
        · rw [Function.update_self]
          obtain ⟨seen, r, hdone⟩ := hR
          exact ⟨h.counts.oneEach, h.counts.accounted (hsettled seen r hdone)⟩
  change_inv {stages s s' other} h hstep hR := by
    cases hstep with
    | change other cluster hchanges =>
        exact ⟨h.alone, Ledger.named_changes h.named hchanges, h.seen,
          h.counts.lasts (lasts_change hchanges hR.1 hR.2)⟩

end Single

/-- **At most one machine and one address.** Begin with nothing of a Service's application, and let
passes over the Service follow one another, with changes by others in between. Calls may fail
anywhere, carried out or not, but for three while the application has something and the Service is
not being deleted: the deletion of the application, the look-up after setting up, and the writing of
the record. Then there is never more than one machine and one address, not even while a pass is
under way. -/
theorem at_most_one {config : TunnelConfig} {cls : String} {key : ObjectKey} {s₀ s : Scene}
    (hidle : ∀ other, s₀.flights other = none) (hnamed : s₀.realm.Named)
    (hnone : ¬ s₀.realm.estate.Bears (appOf key))
    (hreach : Scene.Reach config cls (Single.regime key) s₀ s) :
    AtMostOne (s.realm.estate.machineOf? (appOf key)) ∧
      AtMostOne (s.realm.estate.ipOf? (appOf key)) := by
  have hbare : s₀.realm.Bare key :=
    ⟨Estate.machineOf?_eq_none hnone, Estate.ipOf?_eq_none hnone⟩
  have hfirst : Single.Sole key (fun _ => .resting) s₀ :=
    ⟨fun other _ => hidle other, hnamed, fun _ _ hbusy => hbusy.elim, hbare.oneEach,
      Or.inl (Or.inl hbare)⟩
  obtain ⟨stages, hholds⟩ := (Single.rules config cls key).sound hidle hfirst hreach
  have hsole : Single.Sole key stages s := hholds.inv
  exact hsole.counts.oneEach

/-- None of the calls that may not fail has failed. -/
def Single.heeded : Call.interface.Event → Bool
  | ⟨.provider (.deleteApp _), r⟩ => (r : Except ProviderError Unit).isOk
  | ⟨.service (.get _ _), r⟩ => (r : Except OperatorError (Option Service)).isOk
  | ⟨.service (.patchAnnotations _ _ _ _), r⟩ => (r : Except OperatorError Unit).isOk
  | _ => true

theorem Single.granted_of_heeded {seen : Option Service} {event : Call.interface.Event}
    (h : heeded event = true) : Granted seen event.call event.reply := by
  obtain ⟨c, r⟩ := event
  cases c with
  | provider pc =>
      cases pc with
      | deleteApp app =>
          cases r with
          | ok => exact rfl
          | error e => cases h
      | _ => exact trivial
  | service sc =>
      cases sc with
      | get ns name =>
          cases r with
          | ok found => exact fun _ => nofun
          | error e => cases h
      | patchAnnotations ns name version annotations =>
          cases r with
          | ok => exact rfl
          | error e => cases h
      | setFinalizers | patchIngress => exact trivial
  | providerWithin | workload => exact trivial

/-- The client cannot be stored at first, and the address that was allocated cannot be released: the
pass fails, and undoes what it has made. The next pass sets the tunnel up. -/
theorem at_most_one_web :
    let key : ObjectKey := ⟨"default", "web"⟩
    ∃ s, Scene.Reach sampleConfig "fly" (Single.regime key)
        (Scene.untouched (.sample ["web"])) s ∧
      (∃ id m, s.realm.estate.machineOf? (appOf key) id = some m) ∧
      AtMostOne (s.realm.estate.machineOf? (appOf key)) ∧
      AtMostOne (s.realm.estate.ipOf? (appOf key)) := by
  intro key
  let v := { World.sample ["web"] with
    providerRules := [⟨"release_ip", 0, none, .api 500 "internal error"⟩]
    clusterRules := [⟨"apply_deployment", 0, some 1, .kubeApi "etcdserver: request timed out"⟩] }
  let pass := Reconcile.pass sampleConfig "fly" key.ns key.name
  have hheeded : ((v.events pass).all Single.heeded &&
      ((v.run pass).2.events pass).all Single.heeded) = true := by decide +kernel
  obtain ⟨hfirst, hsecond⟩ := Bool.and_eq_true_iff.mp hheeded
  have hmachine : (((v.run pass).2.run pass).2.cloud.machineOf? (appOf key) "m3").isSome =
      true := by decide +kernel
  obtain ⟨m, hm⟩ := Option.isSome_iff_exists.mp hmachine
  have hstart : Scene.Reach sampleConfig "fly" (Single.regime key)
      (Scene.untouched (.sample ["web"])) (Scene.untouched (.sample ["web"])) := .refl
  obtain ⟨w₁, hruns₁, hdepicts₁, hfree⟩ :=
    World.runs (v := v) (Scene.depicts_untouched _) rfl pass
  obtain ⟨w₂, hruns₂, hdepicts₂, -⟩ := World.runs hdepicts₁ hfree pass
  have hgranted : ∀ {events : List Call.interface.Event}, events.all Single.heeded = true →
      ∀ event ∈ events, ∀ s s', Single.regime key s (.call key event.call event.reply) s' :=
    fun hall event hevent _ _ _ _ =>
      Or.inr (Single.granted_of_heeded (List.all_eq_true.mp hall event hevent))
  have hfailed := Scene.Reach.whole (hruns₁.mono fun _ _ _ _ => Realm.Honest.answers)
    (fun _ _ => rfl) (hgranted hfirst) (fun _ _ seen hdone => ⟨seen, _, hdone⟩) hstart rfl
  have hreach := Scene.Reach.whole (hruns₂.mono fun _ _ _ _ => Realm.Honest.answers)
    (fun _ _ => rfl) (hgranted hsecond) (fun _ _ seen hdone => ⟨seen, _, hdone⟩) hfailed rfl
  exact ⟨_, hreach, ⟨"m3", m, (hdepicts₂.1.machineOf? _ _).trans hm⟩,
    at_most_one (fun _ => rfl) (Scene.fresh_sample ["web"]).named
      (Scene.not_bears_untouched _ _) hreach⟩

/-- If one of the three fails, there can be two. A pass makes all of a tunnel, but its record is not
written, or the Service is not found again, or a later step fails and nothing can be undone. It ends
with a machine and an address that no record tells of. The next pass finds no record and makes
another machine and another address in the same application. -/
theorem second_machine_unrecorded :
    let w := World.sample ["web"]
    let pass := Reconcile.pass sampleConfig "fly" "default" "web"
    let refused := OperatorError.kubeApi "etcdserver: request timed out"
    let failed := ProviderError.api 500 "internal error"
    let unwritten := { w with clusterRules := [⟨"patch_annotations", 0, some 1, refused⟩] }
    let unfound := { w with clusterRules := [⟨"get", 2, some 1, refused⟩] }
    let undeleted := { w with
      clusterRules := [⟨"apply_deployment", 0, some 1, refused⟩]
      providerRules := [⟨"release_ip", 0, some 1, failed⟩, ⟨"delete_machine", 0, some 1, failed⟩,
        ⟨"delete_app", 0, some 1, failed⟩] }
    w.cloud = {} ∧
      [unwritten, unfound, undeleted].all fun v =>
        let twice := ((v.run pass).2.run pass).2
        twice.cloud.machines.values.map (·.1) =
            ["fly-tunnel-default-web", "fly-tunnel-default-web"] ∧
          twice.cloud.ips.values.map (·.1) =
            ["fly-tunnel-default-web", "fly-tunnel-default-web"] := by
  decide +kernel

end ServiceTunnel
