import ServiceTunnel.Proofs.Lookup
import ServiceTunnel.Proofs.Passes
import ServiceTunnel.Simulation.World

/-!
# ServiceTunnel.Proofs.Site

**Worlds in which nothing fails.** In a calm world no call fails, nobody else writes, and machines
start in time. What is left of such a world is a site, which answers every call in the one way that
the cloud and the cluster do. Running a program in a calm world is running it on the site, with the
calls noted (`World.run_calm`), so facts about such runs are facts about contracts of the site.
-/

namespace ServiceTunnel.Simulation

open Kube Program

/-! ### Machines that are stored -/

namespace Cloud

theorem machineOf?_insert (c : Cloud) (app id : String) (m : Machine) :
    { c with machines := c.machines.insert id (app, m) }.machineOf? app id = some m := by
  simp only [machineOf?, Dict.get?_insert_self, if_true]

theorem get?_of_machineOf? {c : Cloud} {app id : String} {m : Machine}
    (h : c.machineOf? app id = some m) : c.machines.get? id = some (app, m) := by
  unfold machineOf? at h
  split at h
  · rename_i owner found hfound
    split at h
    · rename_i howner
      rw [hfound, howner, Option.some.inj h]
    · cases h
  · cases h

end Cloud

/-! ### Sites -/

/-- A cloud and a cluster. -/
structure Site where
  cloud : Cloud
  cluster : Cluster

namespace Site

/-- Answers a call; none fails but for what exists. -/
def perform : (c : Call) → Site → c.Reply × Site
  | .provider c, s => ((s.cloud.perform c).1, { s with cloud := (s.cloud.perform c).2 })
  | .providerWithin _ c, s =>
    (some (s.cloud.perform c).1, { s with cloud := (s.cloud.perform c).2 })
  | .workload c, s => (.ok (), { s with cluster := s.cluster.performWorkload c })
  | .service c, s =>
    ((s.cluster.performService c).1, { s with cluster := (s.cluster.performService c).2 })

/-- The contract of runs on a site that make only some calls. -/
abbrev Running (permitted : Call → Prop) : Contract Call.interface Site :=
  handling perform permitted

section Running

variable {permitted : Call → Prop}

theorem keeps_provider (c : ProviderCall) (post : Except OperatorError c.Result → Site → Prop)
    (s : Site) : (Operation.provider c).Keeps (Running permitted) post s ↔
      permitted (.provider c) ∧ post ((s.cloud.perform c).1.mapError .provider)
        { s with cloud := (s.cloud.perform c).2 } := by
  refine and_congr_right fun _ => ⟨fun h => h _ _ rfl, ?_⟩
  intro h r s' hr
  cases hr
  exact h

theorem keeps_workload (c : WorkloadCall) (post : Except OperatorError Unit → Site → Prop)
    (s : Site) : (Operation.workload c).Keeps (Running permitted) post s ↔
      permitted (.workload c) ∧
        post (.ok ()) { s with cluster := s.cluster.performWorkload c } := by
  refine and_congr_right fun _ => ⟨fun h => h _ _ rfl, ?_⟩
  intro h r s' hr
  cases hr
  exact h

theorem keeps_service (c : ServiceCall) (post : Except OperatorError c.Result → Site → Prop)
    (s : Site) : (Operation.service c).Keeps (Running permitted) post s ↔
      permitted (.service c) ∧ post (s.cluster.performService c).1
        { s with cluster := (s.cluster.performService c).2 } := by
  refine and_congr_right fun _ => ⟨fun h => h _ _ rfl, ?_⟩
  intro h r s' hr
  cases hr
  exact h

/-- A call to the provider that succeeds, and what it leads to. -/
theorem asks {pre failed : Site → Prop} {c : ProviderCall} {ok : c.Result → Site → Prop}
    (h : ∀ s, pre s → permitted (.provider c) ∧ ∃ a, (s.cloud.perform c).1 = .ok a ∧
      ok a { s with cloud := (s.cloud.perform c).2 }) :
    (Running permitted).Asks pre c ok failed := by
  intro s hs
  obtain ⟨hpermitted, a, ha, hok⟩ := h s hs
  refine ⟨hpermitted, ?_⟩
  intro r s' hr
  cases hr
  rw [ha]
  exact hok

end Running

end Site

/-! ### Calm worlds -/

namespace World

/-- The cloud and the cluster of a world. -/
def site (w : World) : Site := ⟨w.cloud, w.cluster⟩

/-- The world on another site, with calls noted. -/
def moved (w : World) (s : Site) (calls : List Call) : World :=
  { w with cloud := s.cloud, cluster := s.cluster, log := w.log ++ calls }

/-- Nothing fails, nobody else writes, and machines start before the operator gives up. -/
structure Calm (w : World) : Prop where
  providerRules : w.providerRules = []
  clusterRules : w.clusterRules = []
  hooks : w.hooks = []
  prompt : w.startDelay ≤ Lifecycle.startLimit

/-- A call that the operator does not give up before machines start. -/
def Patient : Call → Prop
  | .providerWithin limit _ => Lifecycle.startLimit ≤ limit
  | _ => True

/-- A call that writes no Service and has nothing made or changed at the provider. It may look,
delete, and store the objects of a client. -/
def Quiet : Call → Prop
  | .provider (.ensureApp ..) | .provider (.createMachine ..) | .provider (.updateMachine ..)
  | .provider (.allocateIp ..) | .providerWithin .. => False
  | .service (.get ..) => True
  | .service _ => False
  | .provider _ | .workload _ => True

theorem Quiet.patient {c : Call} (h : Quiet c) : Patient c := by
  cases c with
  | providerWithin limit c => exact h.elim
  | provider c | workload c | service c => exact trivial

theorem Calm.moved {w : World} (h : w.Calm) (s : Site) (calls : List Call) :
    (w.moved s calls).Calm :=
  ⟨h.providerRules, h.clusterRules, h.hooks, h.prompt⟩

theorem Calm.perform {w : World} (h : w.Calm) {c : Call} (hc : Patient c) :
    perform c w = ((Site.perform c w.site).1, w.moved (Site.perform c w.site).2 [c]) := by
  obtain ⟨cloud, cluster, providerRules, clusterRules, startDelay, hooks, log⟩ := w
  obtain ⟨rfl, rfl, rfl, hprompt⟩ := h
  cases c with
  | provider c => rfl
  | providerWithin limit c =>
      have hexceeds : (⟨cloud, cluster, [], [], startDelay, [],
          log ++ [.providerWithin limit c]⟩ : World).exceeds limit c = false := by
        unfold exceeds
        split
        · exact decide_eq_false (Nat.not_lt.mpr (Nat.le_trans hprompt hc))
        · rfl
      simp only [World.perform, note, performWithin, consultProvider, Rule.consult, hexceeds,
        Bool.false_eq_true, if_false]
      rfl
  | workload c => rfl
  | service c => cases c <;> rfl

/-- A program in a calm world does what it does on the site. -/
theorem run_calm {α : Type} {w : World} (h : w.Calm) {permitted : Call → Prop}
    {p : Operation α} {post : α → Site → Prop}
    (hp : p.Keeps (Site.Running permitted) post w.site)
    (hpatient : ∀ c, permitted c → Patient c) :
    ∃ s calls, (w.run p).2 = w.moved s calls ∧ (∀ c ∈ calls, permitted c) ∧
      post (w.run p).1 s := by
  -- on the program, one call at a time: a call leaves a calm world calm
  induction p generalizing w with
  | done a =>
      refine ⟨w.site, [], ?_, List.forall_mem_nil _, hp⟩
      exact congrArg (fun log => { w with log := log }) (List.append_nil w.log).symm
  | call c next ih =>
      obtain ⟨hpermits, hnext⟩ := hp
      have hperform := h.perform (hpatient c hpermits)
      have hkeeps := hnext (Site.perform c w.site).1 (Site.perform c w.site).2 rfl
      obtain ⟨s, calls, hrun, hcalls, hpost⟩ :=
        ih (Site.perform c w.site).1 (h.moved (Site.perform c w.site).2 [c]) hkeeps
      have hw : w.run (.call c next) = (w.moved (Site.perform c w.site).2 [c]).run
          (next (Site.perform c w.site).1) := by
        show Program.run perform (next (perform c w).1) (perform c w).2 = _
        rw [hperform]
        rfl
      rw [hw]
      refine ⟨s, c :: calls, ?_, List.forall_mem_cons.mpr ⟨hpermits, hcalls⟩, hpost⟩
      rw [hrun]
      exact congrArg (fun log => { w with cloud := s.cloud, cluster := s.cluster, log := log })
        (List.append_assoc w.log [c] calls)

end World

/-! ### A world to begin with -/

/-- Settings of an operator. -/
def sampleConfig : TunnelConfig where
  flyOrg := "personal"
  flyRegion := "ord"
  flyMachineSize := "shared-cpu-1x"
  frpsImage := "frps"
  frpcImage := "frpc"
  operatorNamespace := "tunnels"

/-- A Service that asks for a tunnel to its web port. -/
def sampleService (name : String) : Service where
  metadata := { ns := some "default", name := some name }
  spec := some {
    type := some "LoadBalancer"
    loadBalancerClass := some "fly"
    ports := some [{ port := 80 }] }

/-- A cluster in which some Services have been made. -/
def Cluster.sample (names : List String) : Cluster :=
  names.foldl (fun c name => c.store ⟨"default", name⟩ (sampleService name)) {}

/-- A world with some Services, and nothing at the provider. -/
def World.sample (names : List String) : World where
  cluster := .sample names

end ServiceTunnel.Simulation
