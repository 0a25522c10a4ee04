import Mathlib.Data.List.Nodup
import ServiceTunnel.Proofs.Site

/-!
# ServiceTunnel.Proofs.Listeners

**Where a machine listens.** A machine has one listener for the control of its tunnel, and one for
each port of its Service, under the same transport and number. Ports that differ have listeners that
differ. The control port is not kept free: a Service may declare it, and then it has two listeners,
the only pair of listeners that can meet (`nodup_edges_iff`, `control_port_shared`).
-/

namespace ServiceTunnel

open Kube Simulation

/-! ### Listeners and ports -/

/-- What a listener takes at the provider's edge: its transport with each of its edge ports. -/
def MachineService.edges (s : MachineService) : List (String × Int32) :=
  s.ports.map fun p => (s.protocol, p.port)

/-- What the listeners of a machine take at the provider's edge. -/
def MachineInput.edges (input : MachineInput) : List (String × Int32) :=
  input.config.services.flatMap (·.edges)

namespace Kube.ServicePort

/-- The protocol and the number of a port. The protocol is TCP if none is named. -/
def declared (p : ServicePort) : String × Int32 := (p.protocol.getD "TCP", p.port)

/-- The protocol is one that has a transport of the same name. -/
def IsCarried (p : ServicePort) : Prop := p.declared.1 = "TCP" ∨ p.declared.1 = "UDP"

/-- What the listener of a port takes at the edge. -/
def edge (p : ServicePort) : String × Int32 := ((Frp.Transport.ofPort p).word, p.port)

theorem edge_eq (p : ServicePort) :
    p.edge = (if p.declared.1 = "UDP" then "udp" else "tcp", p.declared.2) := by
  have hprotocol : p.protocol = some "UDP" ↔ p.declared.1 = "UDP" := by
    cases h : p.protocol <;> simp [declared, h]
  unfold edge Frp.Transport.ofPort
  simp only [hprotocol]
  split <;> rfl

/-- Ports that are declared apart are served apart. -/
theorem declared_eq_of_edge_eq {p q : ServicePort} (hp : p.IsCarried) (hq : q.IsCarried)
    (h : p.edge = q.edge) : p.declared = q.declared := by
  rw [edge_eq, edge_eq, Prod.mk.injEq] at h
  obtain ⟨hword, hnumber⟩ := h
  refine Prod.ext ?_ hnumber
  rcases hp with hp | hp <;> rcases hq with hq | hq <;> simp_all

/-- The listener of a port takes the control port exactly if the port declares it. -/
theorem edge_eq_control_iff {p : ServicePort} (hp : p.IsCarried) :
    p.edge = ("tcp", Frp.controlPort) ↔ p.declared = ("TCP", Frp.controlPort) := by
  rw [edge_eq, Prod.mk.injEq, Prod.ext_iff]
  rcases hp with hp | hp <;> simp [hp]

end Kube.ServicePort

/-! ### The machine of a Service -/

/-- A machine takes the control port, and what the ports of its Service take, in their order. -/
theorem MachineInput.edges_ofService (service : Service) (config : TunnelConfig) :
    (MachineInput.ofService service config).edges =
      ("tcp", Frp.controlPort) :: service.ports.map (·.edge) := by
  show (MachineService.same .tcp Frp.controlPort :: service.ports.map fun p =>
    MachineService.same (.ofPort p) p.port).flatMap (·.edges) = _
  rw [List.flatMap_cons, List.flatMap_map]
  simp only [MachineService.same, MachineService.edges, List.map_cons, List.map_nil,
    List.singleton_append, ← List.map_eq_flatMap]
  rfl

/-- **Listeners meet at the control port only.** For every Service whose ports are declared apart,
under TCP or UDP, the listeners of its machine take different ports of the edge, under every
configuration, unless the Service declares the control port itself: then two of them take it, and no
other port is taken twice. -/
theorem nodup_edges_iff {service : Service} (config : TunnelConfig)
    (hcarried : ∀ p ∈ service.ports, p.IsCarried)
    (hapart : (service.ports.map (·.declared)).Nodup) :
    let taken := (MachineInput.ofService service config).edges
    (taken.Nodup ↔ ∀ p ∈ service.ports, p.declared ≠ ("TCP", Frp.controlPort)) ∧
      (∀ edge, edge ≠ ("tcp", Frp.controlPort) → taken.count edge ≤ 1) ∧
      ((∃ p ∈ service.ports, p.declared = ("TCP", Frp.controlPort)) ↔
        taken.count ("tcp", Frp.controlPort) = 2) := by
  intro taken
  have htaken : taken = ("tcp", Frp.controlPort) :: service.ports.map (·.edge) :=
    MachineInput.edges_ofService service config
  have hports : (service.ports.map (·.edge)).Nodup := by
    rw [List.Nodup, List.pairwise_map] at hapart ⊢
    refine hapart.imp_of_mem fun hp hq hne hedge => hne ?_
    exact ServicePort.declared_eq_of_edge_eq (hcarried _ hp) (hcarried _ hq) hedge
  have hcontrol : ("tcp", Frp.controlPort) ∈ service.ports.map (·.edge) ↔
      ∃ p ∈ service.ports, p.declared = ("TCP", Frp.controlPort) := by
    rw [List.mem_map]
    exact exists_congr fun p => and_congr_right fun hp =>
      ServicePort.edge_eq_control_iff (hcarried p hp)
  rw [htaken]
  refine ⟨?_, fun edge hedge => ?_, ?_⟩
  · rw [List.nodup_cons, and_iff_left hports, hcontrol]
    simp
  · rw [List.count_cons_of_ne hedge.symm]
    exact List.nodup_iff_count_le_one.mp hports edge
  · rw [← hcontrol, List.count_cons_self, ← List.one_le_count_iff]
    have hone := List.nodup_iff_count_le_one.mp hports ("tcp", Frp.controlPort)
    omega

/-- A Service with these ports. -/
def servicePorts (ports : List ServicePort) : Service where
  metadata := { ns := some "default", name := some "web" }
  spec := some {
    type := some "LoadBalancer"
    loadBalancerClass := some "fly"
    ports := some ports }

/-- The control port under UDP is another port, and so is the one after it. -/
theorem nodup_edges_iff_neighbours :
    let service := servicePorts
      [{ port := 7000, protocol := some "UDP" }, { port := 7001, protocol := some "TCP" }]
    (∀ p ∈ service.ports, p.IsCarried) ∧ (service.ports.map (·.declared)).Nodup ∧
      (MachineInput.ofService service sampleConfig).edges.Nodup := by
  intro service
  have hcarried : ∀ p ∈ service.ports, p.IsCarried := by
    intro p hp
    simp only [service, servicePorts, Service.ports] at hp
    rcases List.mem_pair.mp hp with rfl | rfl
    · exact Or.inr rfl
    · exact Or.inl rfl
  have hapart : (service.ports.map (·.declared)).Nodup := by decide
  exact ⟨hcarried, hapart, (nodup_edges_iff sampleConfig hcarried hapart).1.mpr (by decide)⟩

/-- A Service may declare the control port. The server and the proxy of the port then share it. -/
theorem control_port_shared :
    let service := servicePorts
      [{ port := 7000, protocol := some "TCP" }, { port := 80, protocol := some "TCP" }]
    (service.ports.map (·.declared)).Nodup ∧
      (service.ports.map (·.declared.1)) = ["TCP", "TCP"] ∧
      ¬ (MachineInput.ofService service sampleConfig).edges.Nodup := by
  intro service
  rw [MachineInput.edges_ofService]
  decide

end ServiceTunnel
