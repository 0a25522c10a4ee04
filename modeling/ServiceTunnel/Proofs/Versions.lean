import ServiceTunnel.Proofs.Scene
import ServiceTunnel.Proofs.Simulated

/-!
# ServiceTunnel.Proofs.Versions

**Versions tell what has been written.** Every write to a Service gives out a new version, whoever
makes it. So what is stored later is as it was, or has a version that was not given out before
(`Cluster.Later`), and a write that names a version goes through only if that version is still
stored (`Cluster.performService_written`, `Cluster.performService_stale`).
-/

namespace ServiceTunnel

open Kube Simulation

/-! ### Versions -/

/-- The Service has a version that was given out after the first `n`, among the first `m`. -/
def Kube.Service.VersionIn (s : Service) (n m : Nat) : Prop :=
  ∃ k, n < k ∧ k ≤ m ∧ s.metadata.resourceVersion = some (toString k)

namespace Kube.Service.VersionIn

variable {s t : Service} {n m : Nat}

theorem mono {n' m' : Nat} (h : s.VersionIn n m) (hn : n' ≤ n) (hm : m ≤ m') :
    s.VersionIn n' m' := by
  obtain ⟨k, hnk, hkm, hversion⟩ := h
  exact ⟨k, by omega, by omega, hversion⟩

/-- A version that is given out later is another one. -/
theorem ne {l : Nat} (hs : s.VersionIn m l) (ht : t.VersionIn n m) :
    s.metadata.resourceVersion ≠ t.metadata.resourceVersion := by
  obtain ⟨j, hmj, -, hj⟩ := hs
  obtain ⟨k, -, hkm, hk⟩ := ht
  intro hsame
  rw [hj, hk, Option.some.injEq] at hsame
  have := toString_injective hsame
  omega

end Kube.Service.VersionIn

namespace Simulation.Cluster

variable {c c' c'' : Cluster}

/-- Every stored Service has a version that was given out. -/
def Versioned (c : Cluster) : Prop :=
  ∀ key s, c.services.get? key = some s → s.VersionIn 0 c.version

/-- What is stored in `c'` was stored in `c` as it is, or has got a new version since. -/
structure Later (c c' : Cluster) : Prop where
  version : c.version ≤ c'.version
  stored : ∀ key s, c'.services.get? key = some s →
    c.services.get? key = some s ∨ s.VersionIn c.version c'.version

theorem Later.of_services (hservices : c'.services = c.services)
    (hversion : c'.version = c.version) : c.Later c' where
  version := hversion.ge
  stored key s hs := by
    rw [hservices] at hs
    exact Or.inl hs

theorem Later.trans (h : c.Later c') (h' : c'.Later c'') : c.Later c'' where
  version := h.version.trans h'.version
  stored key s hs := by
    obtain hs' | hnew := h'.stored key s hs
    · obtain hs'' | hnew := h.stored key s hs'
      · exact Or.inl hs''
      · exact Or.inr (hnew.mono le_rfl h'.version)
    · exact Or.inr (hnew.mono h.version le_rfl)

theorem Versioned.later (h : c.Versioned) (hlater : c.Later c') : c'.Versioned := by
  intro key s hs
  obtain hs' | hnew := hlater.stored key s hs
  · exact (h key s hs').mono le_rfl hlater.version
  · exact hnew.mono (Nat.zero_le _) le_rfl

theorem versionIn_store (c : Cluster) (key : ObjectKey) (s : Service) :
    (s.stamped (some (toString (c.version + 1)))).VersionIn c.version (c.store key s).version :=
  ⟨c.version + 1, Nat.lt_succ_self _, le_rfl, rfl⟩

theorem later_store (c : Cluster) (key : ObjectKey) (s : Service) : c.Later (c.store key s) where
  version := Nat.le_succ _
  stored other t ht := by
    by_cases hkey : other = key
    · subst hkey
      rw [services_store, Dict.get?_insert_self, Option.some.injEq] at ht
      subst ht
      exact Or.inr (c.versionIn_store other s)
    · rw [services_store, Dict.get?_insert_ne _ hkey] at ht
      exact Or.inl ht

theorem later_erase (c : Cluster) (key : ObjectKey) :
    c.Later { c with services := c.services.erase key } where
  version := le_rfl
  stored other t ht := by
    by_cases hkey : other = key
    · subst hkey
      rw [Dict.get?_erase_self] at ht
      cases ht
    · rw [Dict.get?_erase_ne _ hkey] at ht
      exact Or.inl ht

theorem later_collect (c : Cluster) (key : ObjectKey) : c.Later (c.collect key) := by
  unfold collect
  split
  · split
    · exact c.later_erase key
    · exact .of_services rfl rfl
  · exact .of_services rfl rfl

theorem later_write (c : Cluster) (key : ObjectKey) (version : Option String)
    (f : Service → Service) : c.Later (c.write key version f).2 := by
  obtain ⟨e, he⟩ | ⟨s, -, hok⟩ := c.write_cases key version f
  · rw [he]
    exact .of_services rfl rfl
  · rw [hok]
    exact c.later_store key _

theorem later_performService (c : Cluster) (call : ServiceCall) :
    c.Later (c.performService call).2 := by
  cases call with
  | get ns name => exact .of_services rfl rfl
  | setFinalizers ns name version finalizers =>
      obtain ⟨e, he⟩ | ⟨s, -, hok⟩ := c.write_cases ⟨ns, name⟩ version (putFinalizers finalizers)
      · simp only [performService, he]
        exact .of_services rfl rfl
      · simp only [performService, hok]
        exact (c.later_store _ _).trans (later_collect _ _)
  | patchAnnotations ns name version annotations => exact c.later_write _ _ _
  | patchIngress ns name ip => exact c.later_write _ _ _

/-! ### Writes by others -/

/-- Others write the Service `key`. What they store is as they like, under a new version. -/
inductive Overwrites (key : ObjectKey) (c : Cluster) : Cluster → Prop where
  | stored (s : Service) : Overwrites key c (c.store key s)
  | removed : Overwrites key c { c with services := c.services.erase key }

theorem Overwrites.later {key : ObjectKey} (h : c.Overwrites key c') : c.Later c' := by
  cases h with
  | stored s => exact c.later_store key s
  | removed => exact c.later_erase key

/-- What others leave of the Service has a new version. -/
theorem Overwrites.new {key : ObjectKey} {s : Service} (h : c.Overwrites key c')
    (hs : c'.services.get? key = some s) : s.VersionIn c.version c'.version := by
  cases h with
  | stored t =>
      rw [services_store, Dict.get?_insert_self, Option.some.injEq] at hs
      subst hs
      exact c.versionIn_store key t
  | removed =>
      rw [Dict.get?_erase_self] at hs
      cases hs

theorem Overwrites.elsewhere {key other : ObjectKey} (h : c.Overwrites key c')
    (hne : other ≠ key) : c'.services.get? other = c.services.get? other := by
  cases h with
  | stored s => exact Dict.get?_insert_ne _ hne _
  | removed => exact Dict.get?_erase_ne _ hne

end Simulation.Cluster

theorem Realm.Answers.later {w w' : Realm} {c : Call} {r : c.Reply} (h : w.Answers c r w') :
    w.cluster.Later w'.cluster := by
  obtain hsame | ⟨wc, -, hdone⟩ | ⟨sc, -, hdone⟩ := h.cluster
  · rw [hsame]
    exact .of_services rfl rfl
  · rw [hdone]
    refine .of_services (Cluster.services_performWorkload _ _) ?_
    cases wc <;> rfl
  · rw [hdone]
    exact w.cluster.later_performService sc

/-! ### Writes under a version -/

namespace ServiceCall

/-- What is stored of a Service that has been written: it goes if it is being deleted and is left
without finalizers. -/
def entry (c : ServiceCall) (s : Service) (version : Nat) : Option Service :=
  match c with
  | .setFinalizers .. =>
    if s.isDeleting = true ∧ s.finalizers = [] then none
    else some (s.stamped (some (toString version)))
  | _ => some (s.stamped (some (toString version)))

/-- The version that a write names. -/
def version? : ServiceCall → Option String
  | .setFinalizers _ _ version _ | .patchAnnotations _ _ version _ => version
  | .get .. | .patchIngress .. => none

end ServiceCall

namespace Simulation.Cluster

variable {c : Cluster} {key : ObjectKey} {s : Service} {version : Option String}

/-- A write under a version that is not stored is refused. -/
theorem write_stale (f : Service → Service) (hs : c.services.get? key = some s)
    (hnamed : version.isSome = true) (hstale : s.metadata.resourceVersion ≠ version) :
    ∃ m, c.write key version f = (.error (.conflict m), c) := by
  have hrefused : (version.isSome && version != s.metadata.resourceVersion) = true := by
    rw [hnamed, Bool.true_and, bne_iff_ne]
    exact hstale.symm
  refine ⟨s!"services \"{key.name}\" modified", ?_⟩
  simp only [write, hs, hrefused, if_true]

theorem current_of_write {f : Service → Service} {c' : Cluster}
    (hs : c.services.get? key = some s) (hok : c.write key version f = (.ok (), c'))
    (hnamed : version.isSome = true) : s.metadata.resourceVersion = version := by
  by_contra hstale
  obtain ⟨m, hm⟩ := write_stale f hs hnamed hstale
  rw [hok] at hm
  cases hm

theorem performService_stale {call : ServiceCall} (hs : c.services.get? call.key = some s)
    (hnamed : call.version?.isSome = true) (hstale : s.metadata.resourceVersion ≠ call.version?) :
    ∃ m, c.performService call = (.error (.conflict m), c) := by
  cases call with
  | get | patchIngress => cases hnamed
  | setFinalizers ns name version finalizers =>
      obtain ⟨m, hm⟩ := write_stale (putFinalizers finalizers) hs hnamed hstale
      refine ⟨m, ?_⟩
      rw [performService, show c.write ⟨ns, name⟩ version _ = _ from hm]
  | patchAnnotations ns name version annotations =>
      exact write_stale (addAnnotations annotations) hs hnamed hstale

theorem entry_collect (c : Cluster) (key : ObjectKey) (s : Service) :
    ((c.store key s).collect key).services.get? key =
      if s.isDeleting = true ∧ s.finalizers = [] then none
      else some (s.stamped (some (toString (c.version + 1)))) := by
  have hstored : (c.store key s).services.get? key =
      some (s.stamped (some (toString (c.version + 1)))) := Dict.get?_insert_self _ _ _
  have hcondition : ((s.stamped (some (toString (c.version + 1)))).isDeleting &&
      (s.stamped (some (toString (c.version + 1)))).finalizers.isEmpty) = true ↔
        s.isDeleting = true ∧ s.finalizers = [] := by
    rw [Bool.and_eq_true, List.isEmpty_iff]
    exact Iff.rfl
  unfold collect
  rw [hstored]
  dsimp only
  by_cases hgone : s.isDeleting = true ∧ s.finalizers = []
  · rw [if_pos (hcondition.mpr hgone), if_pos hgone]
    exact Dict.get?_erase_self _ _
  · rw [if_neg (mt hcondition.mp hgone), if_neg hgone]
    exact hstored

/-- A write to a Service is refused and changes nothing, or the Service is there under the version
that the write names, if it names one, and the write goes through. -/
theorem performService_written (c : Cluster) {call : ServiceCall}
    (hwrite : ∀ ns name, call ≠ .get ns name) :
    (∃ e, c.performService call = (.error e, c)) ∨ ∃ s, c.services.get? call.key = some s ∧
      (call.version?.isSome = true → s.metadata.resourceVersion = call.version?) ∧
      (c.performService call).2.services.get? call.key =
        call.entry (call.edit s) (c.version + 1) := by
  cases call with
  | get ns name => exact absurd rfl (hwrite ns name)
  | setFinalizers ns name version finalizers =>
      obtain ⟨e, he⟩ | ⟨s, hs, hok⟩ := c.write_cases ⟨ns, name⟩ version (putFinalizers finalizers)
      · exact Or.inl ⟨e, by simp only [performService, he]⟩
      · refine Or.inr ⟨s, hs, current_of_write hs hok, ?_⟩
        simp only [performService, hok]
        exact c.entry_collect _ _
  | patchAnnotations ns name version annotations =>
      obtain ⟨e, he⟩ | ⟨s, hs, hok⟩ := c.write_cases ⟨ns, name⟩ version (addAnnotations annotations)
      · exact Or.inl ⟨e, he⟩
      · refine Or.inr ⟨s, hs, current_of_write hs hok, ?_⟩
        simp only [performService, hok]
        exact Dict.get?_insert_self _ _ _
  | patchIngress ns name ip =>
      obtain ⟨e, he⟩ | ⟨s, hs, hok⟩ := c.write_cases ⟨ns, name⟩ none (putAddress ip)
      · exact Or.inl ⟨e, he⟩
      · refine Or.inr ⟨s, hs, current_of_write hs hok, ?_⟩
        simp only [performService, hok]
        exact Dict.get?_insert_self _ _ _

end Simulation.Cluster

end ServiceTunnel
