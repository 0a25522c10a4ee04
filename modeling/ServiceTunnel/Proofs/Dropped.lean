import ServiceTunnel.Proofs.Runs
import ServiceTunnel.Proofs.Settled
import ServiceTunnel.Proofs.Watched

/-!
# ServiceTunnel.Proofs.Dropped

**A change that is passed over hides no work.** Where a pass that nothing disturbs writes nothing to
the Service, it keeps a tunnel in step whose address is shown, or refuses what it is asked for
(`Reconcile.serve_of_idle`). Neither of these depends on anything that a change which is passed over
makes different (`Passed.upkeep`), so a pass over the changed Service makes the same calls with the
same answers (`dropped_hides_nothing`).

The filter does not look at the finalizers. If others take the operator's finalizer off, the change
is passed over, though a pass would put it on again (`dropped_finalizer`).
-/

namespace ServiceTunnel

open Kube Simulation Program Operation

/-! ### Programs that leave Services alone -/

namespace Call

/-- The call writes a Service. -/
def writesService : Call → Bool
  | .service (.get ..) => false
  | .service _ => true
  | _ => false

/-- The call writes no Service. -/
def Spares (c : Call) : Prop := c.writesService = false

/-- The call is not about a Service. -/
def Apart : Call → Prop
  | .service _ => False
  | _ => True

theorem Apart.spares {c : Call} (h : c.Apart) : c.Spares := by
  cases c with
  | service c => exact h.elim
  | provider | providerWithin | workload => rfl

end Call

namespace Simulation

/-- What is stored of Services makes no difference to a program that does not ask about them. -/
theorem Site.events_congr {α : Type} {p : Operation α} {post : α → Site → Prop} {s s' : Site}
    (hp : p.Keeps (Site.Running Call.Apart) post s) (hcloud : s.cloud = s'.cloud) :
    p.events Site.perform s = p.events Site.perform s' := by
  induction p generalizing s s' with
  | done a => rfl
  | call c next ih =>
      obtain ⟨hapart, hnext⟩ := hp
      have hanswer : (Site.perform c s).1 = (Site.perform c s').1 ∧
          (Site.perform c s).2.cloud = (Site.perform c s').2.cloud := by
        cases c with
        | provider | providerWithin => simp only [Site.perform, hcloud, and_self]
        | workload => exact ⟨rfl, hcloud⟩
        | service => exact hapart.elim
      obtain ⟨hreply, hsame⟩ := hanswer
      refine (congrArg (List.cons _) (ih _ (hnext _ _ rfl) hsame)).trans ?_
      exact congrArg (fun r => Interface.Event.mk c r ::
        (next r).events Site.perform (Site.perform c s').2) hreply

namespace World

/-- The world in which a version of the Service `key` is stored. -/
def storing (w : World) (key : ObjectKey) (service : Service) : World :=
  { w with cluster := { w.cluster with services := w.cluster.services.insert key service } }

theorem Calm.storing {w : World} (h : w.Calm) (key : ObjectKey) (service : Service) :
    (w.storing key service).Calm :=
  ⟨h.providerRules, h.clusterRules, h.hooks, h.prompt⟩

/-- The calls of a program in a calm world are those that it makes on the site. -/
theorem events_calm {α : Type} {w : World} (h : w.Calm) {p : Operation α}
    {post : α → Site → Prop} (hp : p.Keeps (Site.Running Patient) post w.site) :
    w.events p = p.events Site.perform w.site := by
  induction p generalizing w with
  | done a => rfl
  | call c next ih =>
      obtain ⟨hpatient, hnext⟩ := hp
      have hrest := ih _ (h.moved (Site.perform c w.site).2 [c]) (hnext _ _ rfl)
      show Interface.Event.mk c (World.perform c w).1 ::
        (next (World.perform c w).1).events World.perform (World.perform c w).2 = _
      rw [h.perform hpatient]
      exact congrArg _ hrest

/-- What a program leaves in a calm world is what it leaves on the site. -/
theorem site_run_calm {α : Type} {w : World} (h : w.Calm) {p : Operation α}
    {post : α → Site → Prop} (hp : p.Keeps (Site.Running Patient) post w.site) :
    (w.run p).2.site = (p.run Site.perform w.site).2 := by
  have hsite : p.Keeps (Site.Running Patient)
      (fun _ s => s = (p.run Site.perform w.site).2) w.site :=
    keeps_handling.mpr ⟨(keeps_handling.mp hp).1, rfl⟩
  obtain ⟨s, calls, hrun, -, hs⟩ := run_calm h hsite fun _ hc => hc
  rw [hrun, ← hs]
  rfl

end World

end Simulation

/-! ### What a pass that writes nothing does -/

namespace Reconcile

variable {config : TunnelConfig} {cls ns name : String} {service : Service} {s : Site}
  {permitted : Call → Prop}

/-- What is left of a pass over a Service that is not to be written: the tunnel is kept in step if
there is one, and otherwise the Service asks for the impossible. -/
def upkeep (config : TunnelConfig) (service : Service) : Operation (Except OperatorError Unit) :=
  if (TunnelRecord.ofService service).isProvisioned then
    (Lifecycle.update config service).bind fun _ => .done (.ok ())
  else .done ((Lifecycle.requirements service).map fun _ => ())

/-- Keeping in step does not ask about Services, and leaves them as they are. -/
theorem update_leaves (hfree : ∀ c : Call, c.Apart → permitted c) (config : TunnelConfig)
    (service : Service) (s : Site) :
    ((Lifecycle.update config service).bind fun _ => .done (.ok ())).Keeps
      (Site.Running permitted) (fun (_ : Except OperatorError Unit) s' =>
        s'.cluster.services = s.cluster.services) s := by
  have hallows : ∀ c : Call, c.Apart → (Site.Running permitted).Allows
      (fun s' => s'.cluster.services = s.cluster.services) c := by
    intro c hc s' hs'
    refine ⟨hfree c hc, fun r s'' hr => ?_⟩
    cases c with
    | provider | providerWithin =>
        cases hr
        exact hs'
    | workload c =>
        cases hr
        exact (Cluster.services_performWorkload _ c).trans hs'
    | service => exact hc.elim
  have hupdate : (Lifecycle.update config service).Stable (Site.Running permitted)
      fun s' => s'.cluster.services = s.cluster.services :=
    Lifecycle.stable_update
      (fun _ _ _ _ _ _ => Lifecycle.stable_applyWorkload (hallows _ trivial) (hallows _ trivial))
      fun _ _ _ _ => Lifecycle.stable_updateMachine (hallows _ trivial) (hallows _ trivial)
  exact (hupdate s rfl).bind fun _ _ h => h

/-- Keeping in step asks about no Service. -/
theorem upkeep_apart (config : TunnelConfig) (service : Service) (s : Site) :
    (upkeep config service).Keeps (Site.Running Call.Apart) (fun _ _ => True) s := by
  unfold upkeep
  split
  · exact (update_leaves (fun _ hc => hc) config service s).imp fun _ _ _ => trivial
  · exact trivial

theorem maintain_of_shown (hrecorded : (TunnelRecord.ofService service).isProvisioned = true)
    (hshown : ∀ ip, (TunnelRecord.ofService service).publicIp = some ip →
      ingressIp? service = some ip) :
    maintain config service ns name = upkeep config service := by
  unfold maintain upkeep
  dsimp only
  rw [if_pos hrecorded]
  split
  · rename_i ip hip
    rw [if_pos (hshown ip hip)]
    rfl
  · rfl

theorem establish_of_refused (hbare : ¬ (TunnelRecord.ofService service).isProvisioned = true)
    {e : OperatorError} (hrefused : Lifecycle.requirements service = .error e) :
    establish config service ns name = upkeep config service := by
  rw [establish, Lifecycle.provision, upkeep, if_neg hbare, hrefused]
  rfl

/-- Keeping in step writes no Service only if the address is shown. -/
theorem shown_of_idle
    (hidle : (maintain config service ns name).Keeps (Site.Running Call.Spares)
      (fun _ _ => True) s) {ip : String}
    (hip : (TunnelRecord.ofService service).publicIp = some ip) :
    ingressIp? service = some ip := by
  by_contra hhidden
  unfold maintain at hidle
  dsimp only at hidle
  rw [keeps_andThen, hip] at hidle
  dsimp only at hidle
  rw [if_neg hhidden, Site.keeps_service] at hidle
  cases hidle.1

/-- Setting up writes no Service only if the Service asks for the impossible. -/
theorem refused_of_idle (hget : s.cluster.services.get? ⟨ns, name⟩ = some service)
    (hidle : (establish config service ns name).Keeps (Site.Running Call.Spares)
      (fun _ _ => True) s) : ∃ e, Lifecycle.requirements service = .error e := by
  have hprovision :=
    (Lifecycle.undisturbed config service _ _ s.cluster).keeps_provision rfl rfl rfl
  unfold establish at hidle
  rw [keeps_andThen] at hidle
  -- there is one run of the setting up, and both contracts tell how it ends
  have hended := (keeps_handling.mp hprovision).2
  have hrest := (keeps_handling.mp hidle).2
  generalize (Lifecycle.provision config service).run Site.perform s = result at hended hrest
  obtain ⟨r, s'⟩ := result
  cases r with
  | error e =>
      obtain ⟨hrefused, -⟩ | hfailed := hended
      · exact ⟨e, hrefused⟩
      · exact hfailed.elim fun _ h => h.elim
  | ok tunnel =>
      obtain ⟨machine, ip, -, hservices, -⟩ := hended
      have hfound : s'.cluster.services.get? ⟨ns, name⟩ = some service := by
        rw [hservices, hget]
      dsimp only at hrest
      rw [keeps_andThen, Site.keeps_service, Cluster.performService, hfound] at hrest
      obtain ⟨-, hwrites⟩ := hrest
      dsimp only at hwrites
      rw [keeps_andThen, Site.keeps_service] at hwrites
      cases hwrites.1

/-- Nothing is to be written about a Service that has the operator's finalizer: it is not being
deleted, and the address of its tunnel is shown, or it asks for the impossible. -/
structure Rests (service : Service) : Prop where
  live : service.isDeleting = false
  guarded : hasFinalizer service = true
  shown : (TunnelRecord.ofService service).isProvisioned = true →
    ∀ ip, (TunnelRecord.ofService service).publicIp = some ip → ingressIp? service = some ip
  refused : ¬ (TunnelRecord.ofService service).isProvisioned = true →
    ∃ e, Lifecycle.requirements service = .error e

/-- A pass over a Service with the operator's finalizer writes nothing only if nothing is to be
written. -/
theorem rests_of_idle (hget : s.cluster.services.get? ⟨ns, name⟩ = some service)
    (hmanaged : isManaged service cls = true) (hguarded : hasFinalizer service = true)
    (hidle : (pass config cls ns name).Keeps (Site.Running Call.Spares) (fun _ _ => True) s) :
    Rests service := by
  unfold pass at hidle
  rw [keeps_andThen, Site.keeps_service, Cluster.performService, hget] at hidle
  obtain ⟨-, hidle⟩ := hidle
  dsimp only at hidle
  rw [hmanaged, if_neg (by decide)] at hidle
  by_cases hdeleting : service.isDeleting = true
  · -- taking the tunnel down would end with a write of the finalizers
    rw [if_pos hdeleting, finalize, keeps_bind, hguarded, if_pos rfl] at hidle
    have hlast := (keeps_handling.mp hidle).2
    rw [Site.keeps_service] at hlast
    cases hlast.1
  rw [if_neg hdeleting, if_pos hguarded] at hidle
  unfold serve at hidle
  refine ⟨Bool.eq_false_iff.mpr hdeleting, hguarded, fun hrecorded ip hip => ?_, fun hbare => ?_⟩
  · rw [if_pos hrecorded] at hidle
    exact shown_of_idle hidle hip
  · rw [if_neg hbare] at hidle
    exact refused_of_idle hget hidle

/-- Where nothing is to be written, a pass looks the Service up and keeps its tunnel in step. -/
theorem Rests.events (h : Rests service) (hmanaged : isManaged service cls = true)
    (hget : s.cluster.services.get? ⟨ns, name⟩ = some service) :
    (pass config cls ns name).events Site.perform s =
      ⟨.service (.get ns name), .ok (some service)⟩ ::
        (upkeep config service).events Site.perform s := by
  have hserve : serve config service ns name = upkeep config service := by
    unfold serve
    split
    · rename_i hrecorded
      exact maintain_of_shown hrecorded (h.shown hrecorded)
    · rename_i hbare
      obtain ⟨e, hrefused⟩ := h.refused hbare
      exact establish_of_refused hbare hrefused
  obtain ⟨f, hpass, hfound⟩ : ∃ f, pass config cls ns name =
      andThen (Operation.service (.get ns name)) f ∧ f (some service) = upkeep config service := by
    refine ⟨_, rfl, ?_⟩
    dsimp only
    rw [hmanaged, h.live, h.guarded, hserve]
    rfl
  have hevents : (andThen (Operation.service (.get ns name)) f).events Site.perform s =
      ⟨.service (.get ns name), .ok (s.cluster.services.get? ⟨ns, name⟩)⟩ ::
        (f (s.cluster.services.get? ⟨ns, name⟩)).events Site.perform s := rfl
  rw [hpass, hevents, hget, hfound]

end Reconcile

/-! ### Changes that are passed over -/

namespace Passed

variable {old new : Service}

/-- A change that is passed over changes nothing that a tunnel is made from. -/
theorem alike (h : Passed old new) (hns : old.ns = new.ns) (hname : old.name = new.name) :
    old.Alike new where
  ns := hns
  name := hname
  ports := congrArg (·.getD []) h.ports
  wishes key _ := by rw [Service.annotations, Service.annotations, h.annotations]

theorem record (h : Passed old new) : TunnelRecord.ofService old = TunnelRecord.ofService new := by
  rw [TunnelRecord.ofService, TunnelRecord.ofService, Service.annotations, Service.annotations,
    h.annotations]

/-- After a change that is passed over the status shows the address that is recorded. -/
theorem ingressIp? (h : Passed old new) {ip : String}
    (hip : (TunnelRecord.ofService new).publicIp = some ip) :
    Reconcile.ingressIp? new = some ip := by
  obtain ⟨ingress, hingress, hshown⟩ := h.shown
  have hsame := hshown ip hip
  rw [Reconcile.ingressIp?, hingress]
  show ingress.ip = some ip
  cases haddress : ingress.ip with
  | some address =>
      rw [haddress] at hsame
      exact congrArg some hsame
  | none =>
      -- what is recorded is not empty
      rw [haddress] at hsame
      have hfull := (Option.filter_eq_some_iff.mp hip).2
      rw [← hsame] at hfull
      exact absurd hfull (by decide)

/-- If nothing was to be written before the change, and the finalizer is still there, then nothing
is to be written after it. -/
theorem rests (h : Passed old new) (hns : old.ns = new.ns) (hname : old.name = new.name)
    (hguarded : Reconcile.hasFinalizer new = true) (hrests : Reconcile.Rests old) :
    Reconcile.Rests new where
  live := h.live
  guarded := hguarded
  shown _ _ := h.ingressIp?
  refused hbare := by
    rw [← h.record] at hbare
    rw [← (h.alike hns hname).requirements]
    exact hrests.refused hbare

theorem upkeep (h : Passed old new) (hns : old.ns = new.ns) (hname : old.name = new.name)
    (config : TunnelConfig) : Reconcile.upkeep config old = Reconcile.upkeep config new := by
  have halike := h.alike hns hname
  have hmachine : Lifecycle.updateMachine config old = Lifecycle.updateMachine config new := by
    funext app id
    rw [Lifecycle.updateMachine, Lifecycle.updateMachine, halike.input]
  have hupdate : Lifecycle.update config old = Lifecycle.update config new := by
    simp only [Lifecycle.update, h.record, halike.requirements, halike.workload, hmachine]
  rw [Reconcile.upkeep, Reconcile.upkeep, h.record, hupdate, halike.requirements]

end Passed

/-! ### All together -/

/-- **A change that is passed over hides no work.** Two managed versions of a Service have the
operator's finalizer, a pass over the first that nothing disturbs writes nothing to the Service, and
the filter passes the second over. Then a pass over the second writes nothing either. It makes the
same calls and gets the same answers, but for the version that it finds; and the machine and the
client that the two ask for are the same. -/
theorem dropped_hides_nothing (w : World) (config : TunnelConfig) (cls ns name : String)
    (old new : Service) (hcalm : w.Calm) (hns : old.ns = new.ns) (hname : old.name = new.name)
    (hmanaged : isManaged old cls = true) (hmanaged' : isManaged new cls = true)
    (hguarded : Reconcile.hasFinalizer old = true) (hguarded' : Reconcile.hasFinalizer new = true)
    (hidle : ∀ event ∈ (w.storing ⟨ns, name⟩ old).events (Reconcile.pass config cls ns name),
      event.call.writesService = false)
    (hdropped : shouldReconcile (some old) new cls = false) :
    (∀ event ∈ (w.storing ⟨ns, name⟩ new).events (Reconcile.pass config cls ns name),
        event.call.writesService = false) ∧
      (∃ rest,
        (w.storing ⟨ns, name⟩ old).events (Reconcile.pass config cls ns name) =
          ⟨.service (.get ns name), .ok (some old)⟩ :: rest ∧
        (w.storing ⟨ns, name⟩ new).events (Reconcile.pass config cls ns name) =
          ⟨.service (.get ns name), .ok (some new)⟩ :: rest) ∧
      MachineInput.ofService old config = MachineInput.ofService new config ∧
      ∀ deploymentName address requirements,
        Lifecycle.workload config old deploymentName address requirements =
          Lifecycle.workload config new deploymentName address requirements := by
  obtain ⟨seen, hseen, hpassed⟩ := passed_of_not_shouldReconcile hmanaged' hdropped
  obtain rfl := Option.some.inj hseen
  have hevents : ∀ service, (w.storing ⟨ns, name⟩ service).events
      (Reconcile.pass config cls ns name) = (Reconcile.pass config cls ns name).events Site.perform
        (w.storing ⟨ns, name⟩ service).site :=
    fun service => World.events_calm (hcalm.storing _ _) (Reconcile.pass_settles _)
  have hget : ∀ service, (w.storing ⟨ns, name⟩ service).site.cluster.services.get? ⟨ns, name⟩ =
      some service := fun service => Dict.get?_insert_self _ _ _
  rw [hevents] at hidle
  rw [hevents, hevents]
  have hrests := Reconcile.rests_of_idle (hget old) hmanaged hguarded
    (keeps_handling.mpr ⟨hidle, trivial⟩)
  have hrests' := hpassed.rests hns hname hguarded' hrests
  have hsame : (Reconcile.upkeep config old).events Site.perform
        (w.storing ⟨ns, name⟩ old).site =
      (Reconcile.upkeep config new).events Site.perform (w.storing ⟨ns, name⟩ new).site := by
    rw [← hpassed.upkeep hns hname]
    exact Site.events_congr (Reconcile.upkeep_apart _ _ _) rfl
  have halike := hpassed.alike hns hname
  rw [hrests.events hmanaged (hget old), hrests'.events hmanaged' (hget new), hsame]
  refine ⟨List.forall_mem_cons.mpr ⟨rfl, fun event hevent => ?_⟩, ⟨_, rfl, rfl⟩,
    halike.input config, halike.workload config⟩
  exact ((keeps_handling.mp (Reconcile.upkeep_apart config new _)).1 event hevent).spares

/-- The Service `web` whose tunnel stands. -/
def settledWeb : Service :=
  let tunnel : Tunnel := {
    appName := "fly-tunnel-default-web"
    machineId := "m1"
    publicIp := "137.66.0.2"
    ipId := "ip2"
    deploymentName := "frpc-default-web" }
  let web := (sampleService "web").withAnnotations (TunnelRecord.ofTunnel tunnel).toAnnotations
  Cluster.putAddress tunnel.publicIp (Cluster.putFinalizers [Annotations.finalizer] web)

/-- A new version has another finalizer in front of the operator's, and shows a second point of
entry after the recorded address. It is passed over. -/
theorem dropped_hides_nothing_web :
    let w := World.sample []
    let pass := Reconcile.pass sampleConfig "fly" "default" "web"
    let points : List Ingress := [{ ip := some "137.66.0.2" }, { hostname := some "example.com" }]
    let kept := Cluster.putFinalizers ["example.com/keep", Annotations.finalizer] settledWeb
    let new := { kept with status := some { loadBalancer := some { ingress := some points } } }
    (∀ event ∈ (w.storing ⟨"default", "web"⟩ settledWeb).events pass,
        event.call.writesService = false) ∧
      shouldReconcile (some settledWeb) new "fly" = false ∧
      (∀ event ∈ (w.storing ⟨"default", "web"⟩ new).events pass,
        event.call.writesService = false) := by
  intro w pass points kept new
  have hidle : ∀ event ∈ (w.storing ⟨"default", "web"⟩ settledWeb).events pass,
      event.call.writesService = false := by decide +kernel
  have hdropped : shouldReconcile (some settledWeb) new "fly" = false := by decide +kernel
  exact ⟨hidle, hdropped, (dropped_hides_nothing w sampleConfig "fly" "default" "web" settledWeb new
    ⟨rfl, rfl, rfl, by decide⟩ rfl rfl (by decide +kernel) (by decide +kernel) (by decide +kernel)
    (by decide +kernel) hidle hdropped).1⟩

/-- If others take the operator's finalizer off, the change is passed over, and a pass would have
something to write. -/
theorem dropped_finalizer :
    let w := World.sample []
    let pass := Reconcile.pass sampleConfig "fly" "default" "web"
    let new := Cluster.putFinalizers [] settledWeb
    w.Calm ∧ isManaged settledWeb "fly" = true ∧ isManaged new "fly" = true ∧
      Reconcile.hasFinalizer settledWeb = true ∧
      (TunnelRecord.ofService settledWeb).isProvisioned = true ∧
      (∀ event ∈ (w.storing ⟨"default", "web"⟩ settledWeb).events pass,
        event.call.writesService = false) ∧
      shouldReconcile (some settledWeb) new "fly" = false ∧
      ¬ ∀ event ∈ (w.storing ⟨"default", "web"⟩ new).events pass,
        event.call.writesService = false := by
  refine ⟨⟨rfl, rfl, rfl, by decide⟩, ?_⟩
  decide +kernel

end ServiceTunnel
