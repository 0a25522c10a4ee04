import ServiceTunnel.Proofs.Runs

/-!
# ServiceTunnel.Proofs.Meddled

**Runs while others write Services.** Before each call of a run others may have written Services,
as they like (`Realm.Amid`). What a program does apart from Services is not touched by that: a part
of a run that makes no calls about Services could as well have been undisturbed, and leaves
everything but Services just so (`Realm.Meddled.runs`).
-/

namespace ServiceTunnel

open Kube Simulation Program

namespace Realm

variable {theirs more : Set ObjectKey} {u u' w w' w'' : Realm}

/-! ### What others change -/

/-- Nothing has changed but the Services `theirs`. -/
structure Meddled (theirs : Set ObjectKey) (w w' : Realm) : Prop where
  estate : w'.estate = w.estate
  configMaps : w'.cluster.configMaps = w.cluster.configMaps
  deployments : w'.cluster.deployments = w.cluster.deployments
  services : ∀ key, key ∉ theirs → w'.cluster.services.get? key = w.cluster.services.get? key

theorem Meddled.refl (theirs : Set ObjectKey) (w : Realm) : w.Meddled theirs w :=
  ⟨rfl, rfl, rfl, fun _ _ => rfl⟩

theorem Meddled.trans (h : w.Meddled theirs w') (h' : w'.Meddled theirs w'') :
    w.Meddled theirs w'' where
  estate := h'.estate.trans h.estate
  configMaps := h'.configMaps.trans h.configMaps
  deployments := h'.deployments.trans h.deployments
  services key hkey := (h'.services key hkey).trans (h.services key hkey)

theorem Meddled.mono (h : w.Meddled theirs w') (hmore : theirs ⊆ more) : w.Meddled more w' :=
  { h with services := fun key hkey => h.services key fun hmem => hkey (hmore hmem) }

/-- A call about a Service changes nothing but this Service. -/
theorem Meddled.of_service {c : ServiceCall} {r : Except OperatorError c.Result}
    (h : w.Answers (.service c) r w') : w.Meddled {c.key} w' := by
  obtain ⟨hestate, hends⟩ := h
  obtain ⟨hservices, hmaps, hdeployments⟩ := w.cluster.performService_elsewhere c
  obtain hsame | hdone := hends.effect
  · exact ⟨hestate, by rw [hsame], by rw [hsame], fun _ _ => by rw [hsame]⟩
  · exact ⟨hestate, by rw [hdone, hmaps], by rw [hdone, hdeployments],
      fun key hkey => by rw [hdone, hservices key hkey]⟩

/-- A write of a client comes to the same, whatever the Services are. -/
theorem Meddled.performWorkload (h : w.Meddled theirs u) (c : WorkloadCall) :
    Meddled theirs ⟨w.estate, w.cluster.performWorkload c⟩
      ⟨u.estate, u.cluster.performWorkload c⟩ where
  estate := h.estate
  configMaps := by cases c <;> simp only [Cluster.performWorkload, h.configMaps]
  deployments := by cases c <;> simp only [Cluster.performWorkload, h.deployments]
  services key hkey := by
    simp only [Cluster.services_performWorkload]
    exact h.services key hkey

/-- A call that is not about Services is answered as it would be, had nobody written any. -/
theorem Meddled.answers (h : w.Meddled theirs u) {c : Call} {r : c.Reply}
    (hanswers : u.Answers c r u') (hc : ∀ sc, c ≠ .service sc) :
    ∃ w', w.Answers c r w' ∧ w'.Meddled theirs u' := by
  obtain ⟨estate, cluster⟩ := w
  obtain rfl : u.estate = estate := h.estate
  have hprovider : u'.cluster = u.cluster → Meddled theirs ⟨u'.estate, cluster⟩ u' :=
    fun hcluster => ⟨rfl, hcluster ▸ h.configMaps, hcluster ▸ h.deployments, hcluster ▸ h.services⟩
  cases c with
  | provider pc => exact ⟨⟨u'.estate, cluster⟩, ⟨hanswers.1, rfl⟩, hprovider hanswers.2⟩
  | providerWithin limit pc =>
      cases r with
      | none => exact ⟨⟨u'.estate, cluster⟩, ⟨hanswers.1, rfl⟩, hprovider hanswers.2⟩
      | some r => exact ⟨⟨u'.estate, cluster⟩, ⟨hanswers.1, rfl⟩, hprovider hanswers.2⟩
  | workload wc =>
      let written : Realm := ⟨u.estate, cluster.performWorkload wc⟩
      obtain ⟨estate', cluster'⟩ := u'
      obtain ⟨rfl, hends⟩ := hanswers
      obtain htruth | ⟨herror, rfl | rfl⟩ := hends
      · obtain ⟨rfl, rfl⟩ := Prod.mk.inj htruth
        exact ⟨written, ⟨rfl, Or.inl rfl⟩, h.performWorkload wc⟩
      · exact ⟨⟨u.estate, cluster⟩, ⟨rfl, Or.inr ⟨herror, Or.inl rfl⟩⟩, h⟩
      · exact ⟨written, ⟨rfl, Or.inr ⟨herror, Or.inr rfl⟩⟩, h.performWorkload wc⟩
  | service sc => exact absurd rfl (hc sc)

/-! ### Runs among others -/

/-- A call is answered, and before that others may have written the Services `theirs`. -/
def Amid (theirs : Set ObjectKey) (w : Realm) (c : Call) (r : c.Reply) (w' : Realm) : Prop :=
  ∃ u, w.Meddled theirs u ∧ u.Answers c r w'

theorem Amid.of_service {c : ServiceCall} {r : Except OperatorError c.Result}
    (h : w.Amid theirs (.service c) r w') (hkey : c.key ∈ more) (hmore : theirs ⊆ more) :
    w.Meddled more w' := by
  obtain ⟨u, hmeddled, hanswers⟩ := h
  exact (hmeddled.mono hmore).trans
    ((Meddled.of_service hanswers).mono (Set.singleton_subset_iff.mpr hkey))

/-- A run without calls about Services is a run without others, wherever it begins. -/
theorem Meddled.runs {α : Type} {p : Operation α} {events : List Call.interface.Event} {a : α}
    (hrun : p.Runs (Amid theirs) u events a u')
    (hevents : ∀ event ∈ events, ∀ sc, event.call ≠ .service sc) (hmore : theirs ⊆ more)
    (h : w.Meddled more u) : ∃ w', p.Runs Answers w events a w' ∧ w'.Meddled more u' := by
  induction hrun generalizing w with
  | done a u => exact ⟨w, .done a w, h⟩
  | call hamid _ ih =>
      obtain ⟨hfirst, hrest⟩ := List.forall_mem_cons.mp hevents
      obtain ⟨v, hmeddled, hanswers⟩ := hamid
      obtain ⟨w₁, hanswers, hmeddled⟩ :=
        (h.trans (hmeddled.mono hmore)).answers hanswers hfirst
      obtain ⟨w', hruns, hends⟩ := ih hrest hmeddled
      exact ⟨w', .call hanswers hruns, hends⟩

end Realm

end ServiceTunnel
