import ServiceTunnel.Proofs.Disturbed

/-!
# ServiceTunnel.Proofs.Handed

**For which Services tunnels are set up.** A pass checks the copy of the Service that it finds
first: it has to be managed, and not being deleted. With the finalizer on it, that copy is what a
tunnel is set up for. Without it, the pass puts the finalizer on and looks the Service up again; and
what it finds then is not checked once more. That makes no difference unless others write the
Service between the two (`provisioning_checked`). If they do, a tunnel may be set up for a Service
that is being deleted (`provisioning_unchecked`).
-/

namespace ServiceTunnel

open Kube Simulation Program

theorem isManaged_congr {s t : Service} (h : s.spec = t.spec) (cls : String) :
    isManaged s cls = isManaged t cls := by
  rw [isManaged, isManaged, h]

/-- Others have written the Service since a pass put the finalizer on. -/
def Overtaken (key : ObjectKey) (past : List Moment) : Prop :=
  ∃ before version finalizers during, past = before ++
      .own (.service (.setFinalizers key.ns key.name version finalizers)) (.ok ()) :: during ∧
    .other key ∈ during

theorem Overtaken.mem {key : ObjectKey} {past : List Moment} (h : Overtaken key past) :
    .other key ∈ past := by
  obtain ⟨before, version, finalizers, during, rfl, hmem⟩ := h
  exact List.mem_append_right _ (List.mem_cons_of_mem _ hmem)

/-- What is known of the checks at each stage: only a Service that is managed and not being deleted
gets the finalizer, and if nobody writes it then, it is found so again. -/
structure Checked (cls : String) (key : ObjectKey) (past : List Moment) (stage : Stage)
    (w : Realm) : Prop where
  entered : ∀ copy, stage = .entered copy →
    isManaged copy cls = true ∧ copy.isDeleting = false ∧
    ∃ before version finalizers during, past = before ++
        .own (.service (.setFinalizers key.ns key.name version finalizers)) (.ok ()) :: during ∧
      (.other key ∉ during → ∀ s, w.cluster.services.get? key = some s →
        s.spec = copy.spec ∧ s.isDeleting = copy.isDeleting)
  served : ∀ copy, stage = .served copy → ∃ before since, LookedUp key past before copy since ∧
    ((isManaged copy cls = true ∧ copy.isDeleting = false) ∨ Overtaken key before)

namespace Checked

variable {config : TunnelConfig} {cls : String} {key : ObjectKey} {past : List Moment}
  {stage : Stage} {w w' : Realm}

theorem of_neither (hentered : ∀ copy, stage ≠ .entered copy)
    (hserved : ∀ copy, stage ≠ .served copy) : Checked cls key past stage w :=
  ⟨fun copy h => absurd h (hentered copy), fun copy h => absurd h (hserved copy)⟩

/-- Where the pass goes by the same copy, the checks are as they were. -/
theorem snoc {m : Moment} (h : Checked cls key past stage w) (hacts : stage.Acts)
    (hm : m.found? = none) : Checked cls key (past ++ [m]) stage w' where
  entered copy hstage := by
    subst hstage
    exact hacts.elim
  served copy hstage := by
    obtain ⟨before, since, hlookedUp, hchecked⟩ := h.served copy hstage
    exact ⟨before, since ++ [m], hlookedUp.snoc hm, hchecked⟩

/-- What is found with the finalizer on it was checked before, unless others have written it. -/
theorem look {entry : Option Service} (h : Checked cls key past stage w)
    (hanswers : w.Answers (.service (.get key.ns key.name)) (.ok entry) w') :
    Checked cls key (past ++ [.own (.service (.get key.ns key.name)) (.ok entry)])
      (stage.next (.service (.get key.ns key.name)) (.ok entry)) w' := by
  cases entry with
  | none => cases stage <;> exact .of_neither (fun _ h => by cases h) fun _ h => by cases h
  | some s =>
      cases stage with
      | entered copy =>
          refine ⟨fun _ hstage => (by cases hstage), fun second hsecond => ?_⟩
          obtain rfl : s = second := Stage.served.inj hsecond
          obtain ⟨hmanaged, hlive, before, version, finalizers, during, rfl, hstored⟩ :=
            h.entered copy rfl
          refine ⟨_, [], ⟨rfl, List.forall_mem_nil _⟩, ?_⟩
          by_cases hothers : .other key ∈ during
          · exact Or.inr ⟨before, version, finalizers, during, rfl, hothers⟩
          · obtain ⟨hspec, hdeleting⟩ := hstored hothers s hanswers.found.1
            rw [isManaged_congr hspec, hdeleting]
            exact Or.inl ⟨hmanaged, hlive⟩
      | outset | found | served | recording | finished | failed =>
          exact .of_neither (fun _ h => by cases h) fun _ h => by cases h

/-- The finalizer is put on the copy that was checked, since nothing else has its version. -/
theorem enter {ns name : String} {version : Option String} {finalizers : List String}
    (haware : Aware key past stage w)
    (hpermits : (dealings config cls key).permits stage
      (.service (.setFinalizers ns name version finalizers)))
    (hanswers : w.Answers (.service (.setFinalizers ns name version finalizers)) (.ok ()) w') :
    Checked cls key (past ++ [.own (.service (.setFinalizers ns name version finalizers)) (.ok ())])
      (stage.next (.service (.setFinalizers ns name version finalizers)) (.ok ())) w' := by
  obtain ⟨-, rfl, copy, rfl, hmanaged, rfl, hfinalizers⟩ := hpermits
  show Checked cls _ _ (if copy.isDeleting = true then Stage.finished else .entered copy) w'
  split
  · exact .of_neither (fun _ h => by cases h) fun _ h => by cases h
  rename_i hlive
  refine ⟨fun copy' hcopy' => ?_, fun _ hstage => (by cases hstage)⟩
  obtain rfl := Stage.entered.inj hcopy'
  refine ⟨hmanaged, Bool.eq_false_iff.mpr hlive, past, _, finalizers, [], rfl, fun _ s' hs' => ?_⟩
  have hknown := haware.known copy rfl
  obtain ⟨k, -, -, hversion⟩ := hknown.issued
  have hnamed : copy.metadata.resourceVersion.isSome = true := by rw [hversion]; rfl
  have htruth := hanswers.2.of_ok
  have hwrite : ∀ ns' name', ServiceCall.setFinalizers ns name copy.metadata.resourceVersion
      finalizers ≠ .get ns' name' := nofun
  obtain ⟨e, he⟩ | ⟨s, hs, hcurrent, hentry⟩ := w.cluster.performService_written hwrite
  · rw [he] at htruth
    cases htruth
  · obtain rfl := hknown.unique s hs (hcurrent hnamed)
    rw [htruth] at hentry
    have hstored := hs'.symm.trans hentry
    unfold ServiceCall.entry at hstored
    dsimp only at hstored
    split at hstored
    · cases hstored
    · obtain rfl := Option.some.inj hstored
      exact ⟨rfl, rfl⟩

theorem own {c : Call} {r : c.Reply} (haware : Aware key past stage w)
    (h : Checked cls key past stage w) (hpermits : (dealings config cls key).permits stage c)
    (hanswers : w.Answers c r w') :
    Checked cls key (past ++ [.own c r]) (stage.next c r) w' := by
  cases c with
  | provider c =>
      rw [Stage.next_provider]
      exact h.snoc hpermits.2.1 rfl
  | providerWithin limit c =>
      rw [Stage.next_providerWithin]
      exact h.snoc hpermits.2.1 rfl
  | workload c =>
      rw [Stage.next_workload]
      exact h.snoc hpermits.2 rfl
  | service c =>
      cases r with
      | error e =>
          rw [Stage.next_error]
          exact .of_neither (fun _ h => by cases h) fun _ h => by cases h
      | ok a =>
          cases c with
          | get ns name =>
              obtain ⟨-, rfl⟩ := hpermits
              exact h.look hanswers
          | setFinalizers ns name version finalizers =>
              exact .enter haware hpermits hanswers
          | patchAnnotations ns name version annotations =>
              obtain ⟨-, -, copy, rfl, -⟩ := hpermits
              exact .of_neither (fun _ h => by cases h) fun _ h => by cases h
          | patchIngress ns name ip =>
              rw [Stage.next_patchIngress]
              obtain ⟨-, -, copy, hserves | rfl⟩ := hpermits
              · exact h.snoc hserves.acts rfl
              · exact .of_neither (fun _ h => by cases h) fun _ h => by cases h

theorem other {written : ObjectKey} (h : Checked cls key past stage w)
    (hwrites : w.cluster.Overwrites written w'.cluster) :
    Checked cls key (past ++ [.other written]) stage w' where
  entered copy hstage := by
    obtain ⟨hmanaged, hlive, before, version, finalizers, during, rfl, hstored⟩ :=
      h.entered copy hstage
    refine ⟨hmanaged, hlive, before, version, finalizers, during ++ [.other written],
      by rw [List.append_assoc, List.cons_append], fun hothers s hs => ?_⟩
    rw [List.mem_append, List.mem_singleton, not_or] at hothers
    have hne : key ≠ written := fun hkey => hothers.2 (congrArg Moment.other hkey)
    exact hstored hothers.1 s ((hwrites.elsewhere hne).symm.trans hs)
  served copy hstage := by
    obtain ⟨before, since, hlookedUp, hchecked⟩ := h.served copy hstage
    exact ⟨before, since ++ [.other written], hlookedUp.snoc rfl, hchecked⟩

end Checked

/-- **A tunnel is set up for a Service that was checked, unless others write it just then.** In
every journey of a pass, with others writing whatever they like between its calls and calls that
fail, whatever the pass has made at the provider it has made for the copy that it looked up last.
That copy is managed and not being deleted, unless others wrote the Service after the pass had put
the finalizer on, and before the pass looked it up again. -/
theorem provisioning_checked {config : TunnelConfig} {cls : String} {key : ObjectKey} {w₀ : Realm}
    (hversioned : w₀.cluster.Versioned) {past : List Moment} {c : Call}
    {next : c.Reply → Operation (Except OperatorError Unit)} {w : Realm}
    (hjourney : Journey config cls key w₀ past (.call c next) w) {pc : ProviderCall}
    (hcall : c.provider? = some pc) (hmakes : pc.Makes) :
    ∃ before copy since, LookedUp key past before copy since ∧ pc.SetsUp config copy ∧
      ((isManaged copy cls = true ∧ copy.isDeleting = false) ∨ Overtaken key before) := by
  obtain ⟨stage, ⟨hpermits, -⟩, haware, hchecked⟩ :=
    hjourney.sound (E := Checked cls key)
      (.of_neither (fun _ h => by cases h) fun _ h => by cases h)
      (fun haware h => h.own haware) (fun _ h => h.other) hversioned
  have hserves : ∃ copy, stage.Serves cls copy ∧ pc.SetsUp config copy := by
    cases c with
    | provider c | providerWithin limit c =>
        obtain rfl := Option.some.inj hcall
        exact hpermits.2.2 hmakes
    | workload c | service c => cases hcall
  obtain ⟨copy, hserves, hsetsUp⟩ := hserves
  cases stage with
  | found first =>
      obtain ⟨rfl, hmanaged, hlive⟩ := hserves
      obtain ⟨before, since, hlookedUp, -⟩ := (haware.known first rfl).lookedUp
      exact ⟨before, first, since, hlookedUp, hsetsUp, Or.inl ⟨hmanaged, hlive⟩⟩
  | served second =>
      obtain rfl : second = copy := hserves
      obtain ⟨before, since, hlookedUp, hcheck⟩ := hchecked.served second rfl
      exact ⟨before, second, since, hlookedUp, hsetsUp, hcheck⟩
  | outset | entered | recording | finished | failed => exact hserves.elim

/-- A pass that nobody disturbs sets a tunnel up for a Service that is managed and not being
deleted. -/
theorem provisioning_checked_web :
    let key : ObjectKey := ⟨"default", "web"⟩
    ∃ past before copy since next w,
      Journey sampleConfig "fly" key (Scene.untouched (.sample ["web"])).realm past
        (.call (.provider (.ensureApp "fly-tunnel-default-web" "personal")) next) w ∧
      LookedUp key past before copy since ∧
      isManaged copy "fly" = true ∧ copy.isDeleting = false := by
  intro key
  have hstart : Journey sampleConfig "fly" key (Scene.untouched (.sample ["web"])).realm [] _ _ :=
    .start
  obtain ⟨past, w, hserved, -, hown⟩ := hstart.advance (Scene.depicts_untouched _) 3
  obtain ⟨next, hnext⟩ := hserved.exists_of_call?
    (c := .provider (.ensureApp "fly-tunnel-default-web" "personal")) (by decide +kernel)
  obtain ⟨before, copy, since, hlookedUp, -, hchecked | hovertaken⟩ :=
    provisioning_checked (Cluster.versioned_sample ["web"]) hnext rfl trivial
  · exact ⟨past, before, copy, since, next, w, hnext, hlookedUp, hchecked⟩
  · have hothers : .other key ∈ past := by
      rw [← List.nil_append past, hlookedUp.past_eq]
      exact List.mem_append_left _ hovertaken.mem
    exact absurd hothers (hown key)

/-- If others have the Service deleted just then, a pass sets a tunnel up for it all the same. -/
theorem provisioning_unchecked :
    let key : ObjectKey := ⟨"default", "web"⟩
    ∃ past before copy since next w,
      Journey sampleConfig "fly" key (Scene.untouched (.sample ["web"])).realm past
        (.call (.provider (.ensureApp "fly-tunnel-default-web" "personal")) next) w ∧
      LookedUp key past before copy since ∧ copy.isDeleting = true := by
  intro key
  let doomed : Service := Cluster.Change.markDeleted.apply
    (Cluster.putFinalizers [Annotations.finalizer] (sampleService "web"))
  have hstart : Journey sampleConfig "fly" key (Scene.untouched (.sample ["web"])).realm [] _ _ :=
    .start
  obtain ⟨_, _, hentered, hdepicts, -⟩ := hstart.advance (Scene.depicts_untouched _) 2
  obtain ⟨_, hdoomed, hdepicts⟩ := hentered.store hdepicts key doomed
  obtain ⟨w, hserved, -⟩ := hdoomed.look hdepicts (by decide +kernel) (Dict.get?_insert_self _ _ _)
  obtain ⟨next, hnext⟩ := hserved.exists_of_call?
    (c := .provider (.ensureApp "fly-tunnel-default-web" "personal")) (by decide +kernel)
  exact ⟨_, _, _, [], next, w, hnext, ⟨rfl, List.forall_mem_nil _⟩, rfl⟩

end ServiceTunnel
