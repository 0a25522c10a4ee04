import ServiceTunnel.Annotations
import ServiceTunnel.Proofs.Lookup
import ServiceTunnel.Simulation.Cluster

/-!
# ServiceTunnel.Proofs.Storage

**What becomes of a stored object.** A call about a Service leaves every other Service and every
object of a client alone. The Service itself stays, is stored anew under a fresh version, or, being
deleted without finalizers, is gone (`Cluster.Written`). Changes by others have the same form, so
what holds of a stored Service is kept by all writers at once.
-/

namespace ServiceTunnel

open Kube Simulation

/-! ### Versions -/

namespace Kube.Service

/-- The Service under another version. -/
def stamped (s : Service) (version : Option String) : Service :=
  { s with metadata := { s.metadata with resourceVersion := version } }

end Kube.Service

/-! ### What a call writes -/

namespace ServiceCall

/-- The key of the Service that a call is about. -/
def key : ServiceCall → ObjectKey
  | .get ns name | .setFinalizers ns name _ _ | .patchAnnotations ns name _ _
  | .patchIngress ns name _ => ⟨ns, name⟩

/-- What a call makes of the Service. -/
def edit : ServiceCall → Service → Service
  | .get .. => id
  | .setFinalizers _ _ _ finalizers => Cluster.putFinalizers finalizers
  | .patchAnnotations _ _ _ annotations => Cluster.addAnnotations annotations
  | .patchIngress _ _ ip => Cluster.putAddress ip

@[simp] theorem ns_edit (c : ServiceCall) (s : Service) : (c.edit s).ns = s.ns := by
  cases c <;> rfl

@[simp] theorem name_edit (c : ServiceCall) (s : Service) : (c.edit s).name = s.name := by
  cases c <;> rfl

@[simp] theorem isDeleting_edit (c : ServiceCall) (s : Service) :
    (c.edit s).isDeleting = s.isDeleting := by
  cases c <;> rfl

end ServiceCall

namespace Simulation.Cluster

/-- What becomes of a Service that is written as `f s`: it is stored under some version, or, being
deleted with nothing to hold it back, it is gone. -/
inductive Written (f : Service → Service) (s : Service) : Option Service → Prop where
  | stored (version : Option String) : Written f s (some ((f s).stamped version))
  | collected (hdeleting : (f s).isDeleting = true) (hfree : (f s).finalizers = []) :
    Written f s none

theorem Written.of_some {f : Service → Service} {s s' : Service} (h : Written f s (some s')) :
    ∃ version, s' = (f s).stamped version := by
  cases h with
  | stored version => exact ⟨version, rfl⟩

/-! ### Storing -/

theorem services_store (c : Cluster) (key : ObjectKey) (s : Service) :
    (c.store key s).services =
      c.services.insert key (s.stamped (some (toString (c.version + 1)))) := rfl

theorem get?_collect_ne (c : Cluster) {key other : ObjectKey} (h : other ≠ key) :
    (c.collect key).services.get? other = c.services.get? other := by
  unfold collect
  split
  · split
    · exact Dict.get?_erase_ne _ h
    · rfl
  · rfl

@[simp] theorem configMaps_collect (c : Cluster) (key : ObjectKey) :
    (c.collect key).configMaps = c.configMaps := by
  unfold collect; split <;> (try split) <;> rfl

@[simp] theorem deployments_collect (c : Cluster) (key : ObjectKey) :
    (c.collect key).deployments = c.deployments := by
  unfold collect; split <;> (try split) <;> rfl

/-- What nothing holds back goes; anything else stays. -/
theorem collect_entry (c : Cluster) (key : ObjectKey) :
    (c.collect key).services.get? key = c.services.get? key ∨
      ∃ s, c.services.get? key = some s ∧
        Written id s ((c.collect key).services.get? key) := by
  unfold collect
  split
  · rename_i s hs
    split
    · rename_i hgone
      simp only [Bool.and_eq_true, List.isEmpty_iff] at hgone
      rw [Dict.get?_erase_self]
      exact Or.inr ⟨s, hs, .collected hgone.1 hgone.2⟩
    · exact Or.inl rfl
  · exact Or.inl rfl

theorem written_store (c : Cluster) (key : ObjectKey) (s : Service) (f : Service → Service) :
    Written f s ((c.store key (f s)).services.get? key) := by
  rw [services_store, Dict.get?_insert_self]
  exact .stored _

theorem written_collect (c : Cluster) (key : ObjectKey) (s : Service) (f : Service → Service) :
    Written f s (((c.store key (f s)).collect key).services.get? key) := by
  have hstored : (c.store key (f s)).services.get? key =
      some ((f s).stamped (some (toString (c.version + 1)))) := Dict.get?_insert_self _ _ _
  obtain hsame | ⟨s', hs', hw⟩ := (c.store key (f s)).collect_entry key
  · rw [hsame, hstored]
    exact .stored _
  · rw [hstored, Option.some.injEq] at hs'
    subst hs'
    cases hw' : ((c.store key (f s)).collect key).services.get? key with
    | none =>
        rw [hw'] at hw
        cases hw with
        | collected hdeleting hfree => exact .collected hdeleting hfree
    | some t =>
        rw [hw'] at hw
        obtain ⟨v, rfl⟩ := hw.of_some
        exact .stored v

/-! ### Calls about Services -/

/-- A write fails and changes nothing, or stores what it makes of the Service. -/
theorem write_cases (c : Cluster) (key : ObjectKey) (version : Option String)
    (f : Service → Service) :
    (∃ e, c.write key version f = (.error e, c)) ∨
      ∃ s, c.services.get? key = some s ∧ c.write key version f = (.ok (), c.store key (f s)) := by
  unfold write
  split
  · exact Or.inl ⟨_, rfl⟩
  · rename_i s hs
    split
    · exact Or.inl ⟨_, rfl⟩
    · exact Or.inr ⟨s, hs, rfl⟩

/-- A write to one Service leaves the others alone, and the objects of all clients. -/
theorem write_elsewhere (c : Cluster) (key : ObjectKey) (version : Option String)
    (f : Service → Service) :
    (∀ other, other ≠ key →
        (c.write key version f).2.services.get? other = c.services.get? other) ∧
      (c.write key version f).2.configMaps = c.configMaps ∧
      (c.write key version f).2.deployments = c.deployments := by
  obtain ⟨e, he⟩ | ⟨s, -, hok⟩ := c.write_cases key version f
  · rw [he]; exact ⟨fun _ _ => rfl, rfl, rfl⟩
  · rw [hok]; exact ⟨fun _ h => Dict.get?_insert_ne _ h _, rfl, rfl⟩

/-- A call about a Service leaves everything as it is, or it is a write that goes through. -/
theorem performService_entry (c : Cluster) (call : ServiceCall) :
    (c.performService call).2 = c ∨ ∃ s, c.services.get? call.key = some s ∧
      Written call.edit s ((c.performService call).2.services.get? call.key) := by
  cases call with
  | get ns name => exact Or.inl rfl
  | setFinalizers ns name version finalizers =>
      obtain ⟨e, he⟩ | ⟨s, hs, hok⟩ := c.write_cases ⟨ns, name⟩ version (putFinalizers finalizers)
      · simp only [performService, he]
        exact Or.inl trivial
      · simp only [performService, hok]
        exact Or.inr ⟨s, hs, c.written_collect _ s _⟩
  | patchAnnotations ns name version annotations =>
      obtain ⟨e, he⟩ | ⟨s, hs, hok⟩ := c.write_cases ⟨ns, name⟩ version (addAnnotations annotations)
      · simp only [performService, he]
        exact Or.inl trivial
      · simp only [performService, hok]
        exact Or.inr ⟨s, hs, c.written_store _ s _⟩
  | patchIngress ns name ip =>
      obtain ⟨e, he⟩ | ⟨s, hs, hok⟩ := c.write_cases ⟨ns, name⟩ none (putAddress ip)
      · simp only [performService, he]
        exact Or.inl trivial
      · simp only [performService, hok]
        exact Or.inr ⟨s, hs, c.written_store _ s _⟩

/-- A write that succeeds has written. -/
theorem performService_wrote (c : Cluster) {call : ServiceCall} {a : call.Result}
    (hwrite : ∀ ns name, call ≠ .get ns name) (hok : (c.performService call).1 = .ok a) :
    ∃ s, c.services.get? call.key = some s ∧
      Written call.edit s ((c.performService call).2.services.get? call.key) := by
  cases call with
  | get ns name => exact absurd rfl (hwrite ns name)
  | setFinalizers ns name version finalizers =>
      obtain ⟨e, he⟩ | ⟨s, hs, hw⟩ := c.write_cases ⟨ns, name⟩ version (putFinalizers finalizers)
      · simp only [performService, he, reduceCtorEq] at hok
      · simp only [performService, hw]
        exact ⟨s, hs, c.written_collect _ s _⟩
  | patchAnnotations ns name version annotations =>
      obtain ⟨e, he⟩ | ⟨s, hs, hw⟩ := c.write_cases ⟨ns, name⟩ version (addAnnotations annotations)
      · simp only [performService, he, reduceCtorEq] at hok
      · simp only [performService, hw]
        exact ⟨s, hs, c.written_store _ s _⟩
  | patchIngress ns name ip =>
      obtain ⟨e, he⟩ | ⟨s, hs, hw⟩ := c.write_cases ⟨ns, name⟩ none (putAddress ip)
      · simp only [performService, he, reduceCtorEq] at hok
      · simp only [performService, hw]
        exact ⟨s, hs, c.written_store _ s _⟩

/-- A call about one Service leaves the others alone, and the objects of all clients. -/
theorem performService_elsewhere (c : Cluster) (call : ServiceCall) :
    (∀ other, other ≠ call.key →
        (c.performService call).2.services.get? other = c.services.get? other) ∧
      (c.performService call).2.configMaps = c.configMaps ∧
      (c.performService call).2.deployments = c.deployments := by
  cases call with
  | get ns name => exact ⟨fun _ _ => rfl, rfl, rfl⟩
  | setFinalizers ns name version finalizers =>
      obtain ⟨e, he⟩ | ⟨s, hs, hok⟩ := c.write_cases ⟨ns, name⟩ version (putFinalizers finalizers)
      · simp only [performService, he]
        exact ⟨fun _ _ => trivial, trivial, trivial⟩
      · simp only [performService, hok, configMaps_collect, deployments_collect]
        exact ⟨fun other h => (get?_collect_ne _ h).trans (Dict.get?_insert_ne _ h _), rfl, rfl⟩
  | patchAnnotations ns name version annotations => exact c.write_elsewhere _ version _
  | patchIngress ns name ip => exact c.write_elsewhere _ none _

/-! ### Calls about clients -/

@[simp] theorem services_performWorkload (c : Cluster) (call : WorkloadCall) :
    (c.performWorkload call).services = c.services := by
  cases call <;> rfl

/-! ### Changes by others -/

/-- A change of the Service `key` by others. They may create it, and change all of it but what it
is called and what is recorded on it; a Service that is being deleted goes once it has no
finalizers. -/
inductive Changes (key : ObjectKey) (c : Cluster) : Cluster → Prop where
  | created (s : Service) (hnew : c.services.get? key = none)
    (hname : s.ns = key.ns ∧ s.name = key.name) (hrecord : TunnelRecord.ofService s = {}) :
    Changes key c (c.store key s)
  | edited (s s' : Service) (hs : c.services.get? key = some s)
    (hname : s'.ns = s.ns ∧ s'.name = s.name)
    (hrecord : TunnelRecord.ofService s' = TunnelRecord.ofService s) :
    Changes key c ((c.store key s').collect key)

theorem Changes.elsewhere {c c' : Cluster} {key other : ObjectKey} (h : Changes key c c')
    (hne : other ≠ key) : c'.services.get? other = c.services.get? other := by
  cases h with
  | created s => exact Dict.get?_insert_ne _ hne _
  | edited s s' => exact (get?_collect_ne _ hne).trans (Dict.get?_insert_ne _ hne _)

/-- A Service that is stored after a change by others is new and has no record, or has the name and
the record of the one that was stored before. -/
theorem Changes.stored_before {c c' : Cluster} {key : ObjectKey} {s' : Service}
    (h : Changes key c c') (hs' : c'.services.get? key = some s') :
    (c.services.get? key = none ∧ s'.ns = key.ns ∧ s'.name = key.name ∧
        TunnelRecord.ofService s' = {}) ∨
      ∃ s, c.services.get? key = some s ∧ s'.ns = s.ns ∧ s'.name = s.name ∧
        TunnelRecord.ofService s' = TunnelRecord.ofService s := by
  cases h with
  | created s hnew hname hrecord =>
      rw [services_store, Dict.get?_insert_self, Option.some.injEq] at hs'
      subst hs'
      exact Or.inl ⟨hnew, hname.1, hname.2, hrecord⟩
  | edited s t hs hname hrecord =>
      have hwritten := c.written_collect key s fun _ => t
      rw [hs'] at hwritten
      obtain ⟨version, rfl⟩ := hwritten.of_some
      exact Or.inr ⟨s, hs, hname.1, hname.2, hrecord⟩

/-- A Service that is there before and after a change by others has the same record. -/
theorem Changes.record_eq {c c' : Cluster} {key other : ObjectKey} {s s' : Service}
    (h : Changes other c c') (hs : c.services.get? key = some s)
    (hs' : c'.services.get? key = some s') :
    TunnelRecord.ofService s' = TunnelRecord.ofService s := by
  by_cases hkey : key = other
  · subst hkey
    obtain ⟨hnone, -⟩ | ⟨t, hold, -, -, hrecord⟩ := h.stored_before hs'
    · rw [hs] at hnone
      cases hnone
    · rw [hs, Option.some.injEq] at hold
      rw [hold]
      exact hrecord
  · rw [h.elsewhere hkey, hs, Option.some.injEq] at hs'
    rw [hs']

end Simulation.Cluster

end ServiceTunnel
