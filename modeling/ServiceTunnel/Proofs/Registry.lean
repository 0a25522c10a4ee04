import ServiceTunnel.Proofs.Passes
import ServiceTunnel.Proofs.Record
import ServiceTunnel.Proofs.Scene

/-!
# ServiceTunnel.Proofs.Registry

**Records that tell the truth about whose they are.** A record is proper for a Service if the names
in it are the Service's own, and the identifiers are among the titles of its application. Passes
write only proper records, and others do not touch them, so the record of a stored Service stays
proper (`Registered`).
-/

namespace ServiceTunnel

open Kube Simulation

/-! ### Names -/

/-- The application that belongs to a Service. -/
@[irreducible] def appOf (key : ObjectKey) : String := Name.derive .app key.ns key.name

/-- The Deployment that belongs to a Service. -/
@[irreducible] def deploymentOf (key : ObjectKey) : String :=
  Name.derive .deployment key.ns key.name

theorem ofService_app {key : ObjectKey} {s : Service} (hns : s.ns = key.ns)
    (hname : s.name = key.name) : Name.ofService .app s = appOf key := by
  unfold Name.ofService appOf
  rw [hns, hname]

theorem ofService_deployment {key : ObjectKey} {s : Service} (hns : s.ns = key.ns)
    (hname : s.name = key.name) : Name.ofService .deployment s = deploymentOf key := by
  unfold Name.ofService deploymentOf
  rw [hns, hname]

/-! ### What belongs to a Service -/

/-- What is recorded belongs to the Service `key`: the names are derived from it, and the
identifiers are among its titles. -/
structure TunnelRecord.Proper (key : ObjectKey) (titles : Set Title) (r : TunnelRecord) : Prop where
  flyApp : ∀ app, r.flyApp = some app → app = appOf key
  frpcDeployment : ∀ name, r.frpcDeployment = some name → name = deploymentOf key
  machineId : ∀ id, r.machineId = some id → .machine id ∈ titles
  ipId : ∀ id, r.ipId = some id → .ip id ∈ titles

/-- A Service that is stored under `key` and has a proper record. -/
structure Registered (key : ObjectKey) (titles : Set Title) (s : Service) : Prop where
  ns : s.ns = key.ns
  name : s.name = key.name
  record : (TunnelRecord.ofService s).Proper key titles

section Proper

variable {key : ObjectKey} {titles more : Set Title}

theorem TunnelRecord.Proper.mono {r : TunnelRecord} (h : r.Proper key titles)
    (hmore : titles ⊆ more) : r.Proper key more :=
  ⟨h.flyApp, h.frpcDeployment, fun id hid => hmore (h.machineId id hid),
    fun id hid => hmore (h.ipId id hid)⟩

theorem Registered.mono {s : Service} (h : Registered key titles s) (hmore : titles ⊆ more) :
    Registered key more s :=
  ⟨h.ns, h.name, h.record.mono hmore⟩

theorem TunnelRecord.proper_empty : ({} : TunnelRecord).Proper key titles :=
  ⟨nofun, nofun, nofun, nofun⟩

theorem TunnelRecord.Proper.nonEmpty {r : TunnelRecord} (h : r.Proper key titles) :
    r.nonEmpty.Proper key titles := by
  have hpart : ∀ {part : Option String} {v : String}, part.filter (· != "") = some v →
      part = some v := fun hv => (Option.filter_eq_some_iff.1 hv).1
  exact ⟨fun app happ => h.flyApp app (hpart happ),
    fun name hname => h.frpcDeployment name (hpart hname),
    fun id hid => h.machineId id (hpart hid), fun id hid => h.ipId id (hpart hid)⟩

/-- Writing a proper record makes the record proper, whatever stood there. -/
theorem TunnelRecord.Proper.merge {t : Tunnel} (h : (ofTunnel t).Proper key titles)
    (annotations : Dict String String) :
    (ofAnnotations (annotations.merge (ofTunnel t).toAnnotations)).Proper key titles := by
  rw [ofAnnotations_merge]
  exact h.nonEmpty

theorem Registered.app_eq {s : Service} (h : Registered key titles s) :
    (TunnelRecord.ofService s).flyApp.getD (Name.ofService .app s) = appOf key := by
  cases happ : (TunnelRecord.ofService s).flyApp with
  | none => exact ofService_app h.ns h.name
  | some app => exact h.record.flyApp app happ

theorem Registered.deployment_eq {s : Service} (h : Registered key titles s) :
    (TunnelRecord.ofService s).frpcDeployment.getD (Name.ofService .deployment s) =
      deploymentOf key := by
  cases hname : (TunnelRecord.ofService s).frpcDeployment with
  | none => exact ofService_deployment h.ns h.name
  | some name => exact h.record.frpcDeployment name hname

theorem proper_tunnelOf (key : ObjectKey) {known : Set Title} {machine : Machine} {ip : IpAddress}
    (h : titles ∪ {.machine machine.id, .ip ip.id} ⊆ known) :
    (TunnelRecord.ofTunnel (Lifecycle.tunnelOf (appOf key) (deploymentOf key) machine ip)).Proper
      key known := by
  refine ⟨fun _ happ => ?_, fun _ hname => ?_, fun _ hid => ?_, fun _ hid => ?_⟩
  · exact (Option.some.inj happ).symm
  · exact (Option.some.inj hname).symm
  · rw [← Option.some.inj hid]
    exact h (Or.inr (Or.inl rfl))
  · rw [← Option.some.inj hid]
    exact h (Or.inr (Or.inr rfl))

/-- A Service that bears nothing but the record of a proper tunnel. -/
theorem registered_withAnnotations {s : Service} {t : Tunnel} (hns : s.ns = key.ns)
    (hname : s.name = key.name) (h : (TunnelRecord.ofTunnel t).Proper key titles) :
    Registered key titles (s.withAnnotations (TunnelRecord.ofTunnel t).toAnnotations) := by
  have hmerge := h.merge ∅
  rw [Dict.empty_merge] at hmerge
  exact ⟨hns, hname, hmerge⟩

end Proper

/-! ### What writers make of a record -/

/-- What is recorded by a call is proper. -/
def ServiceCall.RecordsProper (key : ObjectKey) (titles : Set Title) : ServiceCall → Prop
  | .patchAnnotations _ _ _ annotations =>
    ∃ t, annotations = (TunnelRecord.ofTunnel t).toAnnotations ∧
      (TunnelRecord.ofTunnel t).Proper key titles
  | _ => True

theorem ServiceCall.RecordsProper.mono {key : ObjectKey} {titles more : Set Title}
    {c : ServiceCall} (h : c.RecordsProper key titles) (hmore : titles ⊆ more) :
    c.RecordsProper key more := by
  cases c with
  | get ns name => exact trivial
  | setFinalizers ns name version finalizers => exact trivial
  | patchIngress ns name ip => exact trivial
  | patchAnnotations ns name version annotations =>
      obtain ⟨tunnel, rfl, hproper⟩ := h
      exact ⟨tunnel, rfl, hproper.mono hmore⟩

section Writers

variable {key : ObjectKey} {titles : Set Title}

theorem registered_stamped {s : Service} (h : Registered key titles s) (version : Option String) :
    Registered key titles (s.stamped version) :=
  ⟨h.ns, h.name, h.record⟩

theorem registered_edit {c : ServiceCall} {s : Service} (h : Registered key titles s)
    (hc : c.RecordsProper key titles) : Registered key titles (c.edit s) := by
  refine ⟨(ServiceCall.ns_edit c s).trans h.ns, (ServiceCall.name_edit c s).trans h.name, ?_⟩
  cases c with
  | get ns name => exact h.record
  | setFinalizers ns name version finalizers => exact h.record
  | patchIngress ns name ip => exact h.record
  | patchAnnotations ns name version annotations =>
      obtain ⟨tunnel, rfl, hproper⟩ := hc
      exact hproper.merge s.annotations

/-- What others make of a Service has a proper record if it had one. -/
theorem registered_change {c c' : Cluster} (hchanges : c.Changes key c')
    (h : ∀ service, c.services.get? key = some service → Registered key titles service) :
    ∀ service, c'.services.get? key = some service → Registered key titles service := by
  intro service hservice
  obtain ⟨-, hns, hname, hrecord⟩ | ⟨s, hs, hns, hname, hrecord⟩ := hchanges.stored_before hservice
  · refine ⟨hns, hname, ?_⟩
    rw [hrecord]
    exact TunnelRecord.proper_empty
  · have hregistered := h s hs
    refine ⟨hns.trans hregistered.ns, hname.trans hregistered.name, ?_⟩
    rw [hrecord]
    exact hregistered.record

/-- A call that writes only proper records leaves the records proper. -/
theorem registered_call {w w' : Realm} {c : Call} {r : c.Reply} {titles : ObjectKey → Set Title}
    (hanswers : w.Answers c r w')
    (hrecords : ∀ sc, c = .service sc → sc.RecordsProper sc.key (titles sc.key))
    (h : ∀ key service, w.cluster.services.get? key = some service →
      Registered key (titles key) service) :
    ∀ key service, w'.cluster.services.get? key = some service →
      Registered key (titles key) service := by
  intro key service hservice
  obtain ⟨s, version, hs, rfl | ⟨sc, rfl, rfl, rfl⟩⟩ := hanswers.stored_before hservice
  · exact registered_stamped (h key s hs) version
  · exact registered_stamped (registered_edit (h _ s hs) (hrecords sc rfl)) version

end Writers

end ServiceTunnel
