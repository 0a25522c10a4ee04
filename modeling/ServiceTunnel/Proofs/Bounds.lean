import ServiceTunnel.Proofs.Passes
import ServiceTunnel.Proofs.Scene

/-!
# ServiceTunnel.Proofs.Bounds

**What stays within one application.** A program that makes calls about one application, and acts
only on identifiers that stand for nothing outside it, changes nothing of any other application,
whatever fails (`Realm.Bounded`).
-/

namespace ServiceTunnel

/-- The provider differs from `e` in one application at most, and titles stand for nothing outside
that application. -/
structure Realm.Bounded (app : String) (e : Estate) (titles : Set Title) (w : Realm) : Prop where
  beside : e.Beside app w.estate
  within : ∀ t ∈ titles, w.estate.Within app t

section Bounded

variable {app : String} {e : Estate} {titles : Set Title} {w w' : Realm} {c : Call} {r : c.Reply}

theorem Realm.bounded_refl (h : ∀ t ∈ titles, w.estate.Within app t) :
    w.Bounded app w.estate titles :=
  ⟨.refl app _, h⟩

/-- A call about the application, acting on its titles, goes no further. -/
theorem Realm.Bounded.answers (h : w.Bounded app e titles) (hanswers : w.Answers c r w')
    (hc : ∀ pc, c.provider? = some pc → pc.app = app ∧ pc.uses ⊆ titles) :
    w'.Bounded app e titles := by
  refine ⟨h.beside.trans (hanswers.beside fun pc hpc => ?_),
    fun t ht => hanswers.within (fun pc hpc => (hc pc hpc).1) (h.within t ht)⟩
  obtain ⟨happ, huses⟩ := hc pc hpc
  exact ⟨happ, fun t ht => h.within t (huses ht)⟩

theorem Realm.Bounded.mono {more : Set Title} (h : w.Bounded app e more) (hmore : titles ⊆ more) :
    w.Bounded app e titles :=
  ⟨h.beside, fun t ht => h.within t (hmore ht)⟩

theorem Realm.Bounded.union {more : Set Title} (h : w.Bounded app e titles)
    (hmore : ∀ t ∈ more, w.estate.Within app t) : w.Bounded app e (titles ∪ more) :=
  ⟨h.beside, fun t ht => ht.elim (h.within t) (hmore t)⟩

/-- Once the application is deleted, nothing of it is left, and the rest is as it was. -/
theorem Realm.Bounded.deleted (h : w.Bounded app e titles)
    (hanswers : w.Answers (.provider (.deleteApp app)) (.ok ()) w') :
    ¬ w'.estate.Bears app ∧ e.Beside app w'.estate := by
  have hdeleted : w'.estate = w.estate.withoutApp app := hanswers.1
  rw [hdeleted]
  exact ⟨w.estate.not_bears_withoutApp app, h.beside.withoutApp⟩

end Bounded

/-! ### Contracts over the realm -/

/-- Every call is permitted, and its answers are those of the realm. -/
structure Contract.Realistic (C : Contract Call.interface Realm) : Prop where
  permits : ∀ w c, C.permits w c
  yields : ∀ w c r w', C.yields w c r w' → w.Answers c r w'

namespace Contract.Realistic

variable {C : Contract Call.interface Realm} {app : String} {e : Estate} {titles : Set Title}

theorem allows (hC : C.Realistic) {c : Call}
    (hc : ∀ pc, c.provider? = some pc → pc.app = app ∧ pc.uses ⊆ titles) :
    C.Allows (Realm.Bounded app e titles) c :=
  fun w hw => ⟨hC.permits w c, fun r w' hr => hw.answers (hC.yields w c r w' hr) hc⟩

theorem allows_provider (hC : C.Realistic) {pc : ProviderCall} (happ : pc.app = app)
    (huses : pc.uses ⊆ titles) : C.Allows (Realm.Bounded app e titles) (.provider pc) :=
  hC.allows fun pc' hpc' => by
    cases hpc'
    exact ⟨happ, huses⟩

theorem allows_providerWithin (hC : C.Realistic) {limit : Nat} {pc : ProviderCall}
    (happ : pc.app = app) (huses : pc.uses ⊆ titles) :
    C.Allows (Realm.Bounded app e titles) (.providerWithin limit pc) :=
  hC.allows fun pc' hpc' => by
    cases hpc'
    exact ⟨happ, huses⟩

theorem allows_workload (hC : C.Realistic) (c : WorkloadCall) :
    C.Allows (Realm.Bounded app e titles) (.workload c) :=
  hC.allows nofun

end Contract.Realistic

end ServiceTunnel
