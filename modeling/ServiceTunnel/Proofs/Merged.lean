import ServiceTunnel.Proofs.Disturbed

/-!
# ServiceTunnel.Proofs.Merged

**What a pass writes is merged in, and nothing of others is lost.** A write of a pass makes only the
operator's own part of the stored Service different: its finalizer, the annotations of its record,
or the status (`ServiceCall.OwnPart`). Finalizers and annotations are written under the version of
the copy that was looked up last. If anything else is stored by then, the write is refused, nothing
changes, and the pass fails (`pass_merges`).
-/

namespace ServiceTunnel

open Kube Simulation Program

/-! ### What is written -/

namespace ServiceCall

/-- What a write of a pass makes of the Service that is stored: the operator's own part of it is
different, and nothing else. -/
def OwnPart : ServiceCall → Service → Service → Prop
  | .get .., s, s' => s' = s
  | .setFinalizers .., s, s' => ∃ finalizers, s.Refinalized finalizers ∧
    s' = { s with metadata := { s.metadata with finalizers := some finalizers } }
  | .patchAnnotations .., s, s' => ∃ annotations,
    (∀ key, key ∉ Annotations.recordKeys → annotations.get? key = s.annotations.get? key) ∧
    s' = { s with metadata := { s.metadata with annotations := some annotations } }
  | .patchIngress _ _ ip, s, s' => s' = { s with status := some (.ofAddress ip) }

end ServiceCall

/-! ### What becomes of a write -/

/-- The write goes through: the stored Service is different in the operator's own part. -/
def ServiceCall.Merges (c : ServiceCall) (w w' : Realm) : Prop :=
  ∃ s s', w.cluster.services.get? c.key = some s ∧ c.OwnPart s s' ∧
    w'.cluster.services.get? c.key = c.entry s' (w.cluster.version + 1)

/-- What there is to say of a write of a pass over the Service `key`, which is answered with `r`. -/
structure Merged (key : ObjectKey) (past : List Moment) (c : ServiceCall)
    (next : (Call.service c).Reply → Operation (Except OperatorError Unit)) (w : Realm)
    (r : (Call.service c).Reply) (w' : Realm) : Prop where
  own : c.key = key
  /-- All other Services stay as they are. -/
  elsewhere : ∀ other, other ≠ key →
    w'.cluster.services.get? other = w.cluster.services.get? other
  /-- However the write ends, only the operator's own part is different, if anything is. -/
  merged : w'.cluster = w.cluster ∨ c.Merges w w'
  succeeded : ∀ a, r = .ok a → c.Merges w w'
  /-- Finalizers and annotations are written under the version that was looked up last. If the
  Service is there, but others have written it since, the cluster refuses them for a conflict, and
  nothing changes. -/
  stale : (∀ ns name ip, c ≠ .patchIngress ns name ip) → ∃ before copy since,
    LookedUp key past before copy since ∧ c.version? = copy.metadata.resourceVersion ∧
    ∀ s, w.cluster.services.get? key = some s → (.other key ∈ since ∨ s ≠ copy) →
      (∃ m, w.cluster.performService c = (.error (.conflict m), w.cluster)) ∧
        w'.cluster = w.cluster ∧ ∃ e, r = .error e
  /-- A write that fails is the last that the pass does. -/
  failed : ∀ e, r = .error e → next r = .done (.error e)

section Writes

variable {config : TunnelConfig} {cls : String} {key : ObjectKey} {past : List Moment}
  {stage : Stage} {c : ServiceCall} {w w' : Realm} {s : Service}

/-- Finalizers and annotations are written under the version of the copy that was looked up last. -/
theorem Aware.copy_of_write (h : Aware key past stage w)
    (hpermits : (dealings config cls key).permits stage (.service c))
    (hwrite : ∀ ns name, c ≠ .get ns name) : ∃ copy, Known key past copy w ∧
      ((∀ ns name ip, c ≠ .patchIngress ns name ip) →
        c.version? = copy.metadata.resourceVersion) := by
  cases c with
  | get ns name => exact absurd rfl (hwrite ns name)
  | setFinalizers =>
      obtain ⟨-, -, copy, rfl, -, hversion, -⟩ := hpermits
      exact ⟨copy, h.known copy rfl, fun _ => hversion⟩
  | patchAnnotations =>
      obtain ⟨-, -, copy, rfl, hversion, -⟩ := hpermits
      exact ⟨copy, h.known copy rfl, fun _ => hversion⟩
  | patchIngress ns name ip =>
      obtain ⟨-, -, copy, hserves | rfl⟩ := hpermits
      · exact ⟨copy, h.known copy hserves.copy?, fun h => absurd rfl (h ns name ip)⟩
      · exact ⟨copy, h.known copy rfl, fun h => absurd rfl (h ns name ip)⟩

/-- What is written over the version of the copy is the operator's own part. -/
theorem Aware.ownPart (h : Aware key past stage w)
    (hpermits : (dealings config cls key).permits stage (.service c))
    (hs : w.cluster.services.get? c.key = some s)
    (hcurrent : c.version?.isSome = true → s.metadata.resourceVersion = c.version?) :
    c.OwnPart s (c.edit s) := by
  cases c with
  | get ns name => exact rfl
  | setFinalizers ns name version finalizers =>
      obtain ⟨-, rfl, copy, rfl, -, rfl, hfinalizers⟩ := hpermits
      have hknown := h.known copy rfl
      obtain ⟨k, -, -, hversion⟩ := hknown.issued
      have hnamed : copy.metadata.resourceVersion.isSome = true := by rw [hversion]; rfl
      -- the list was made from the copy, and it is the copy that is stored
      obtain rfl := hknown.unique s hs (hcurrent hnamed)
      exact ⟨finalizers, hfinalizers, rfl⟩
  | patchAnnotations ns name version annotations =>
      obtain ⟨-, -, copy, -, -, hkeys⟩ := hpermits
      refine ⟨s.annotations.merge annotations, fun k hk => ?_, rfl⟩
      rw [Dict.get?_merge, hkeys k hk, Option.none_or]
  | patchIngress ns name ip => exact rfl

/-- The cluster refuses a write, or what it carries out is merged. -/
theorem Aware.merges (h : Aware key past stage w)
    (hpermits : (dealings config cls key).permits stage (.service c))
    (hwrite : ∀ ns name, c ≠ .get ns name) :
    (∃ e, w.cluster.performService c = (.error e, w.cluster)) ∨
      (w'.cluster = (w.cluster.performService c).2 → c.Merges w w') := by
  obtain hrefused | ⟨s, hs, hcurrent, hentry⟩ := w.cluster.performService_written hwrite
  · exact Or.inl hrefused
  · refine Or.inr fun hdone => ⟨s, c.edit s, hs, h.ownPart hpermits hs hcurrent, ?_⟩
    rw [hdone]
    exact hentry

/-- What has been written since it was looked up, or differs from the copy, has another version. -/
theorem Known.outdated {copy : Service} (h : Known key past copy w) :
    ∃ before since, LookedUp key past before copy since ∧
      ∀ s, w.cluster.services.get? key = some s → (.other key ∈ since ∨ s ≠ copy) →
        s.metadata.resourceVersion ≠ copy.metadata.resourceVersion := by
  obtain ⟨before, since, hlookedUp, hchanged⟩ := h.lookedUp
  refine ⟨before, since, hlookedUp, ?_⟩
  rintro s hs (hwritten | hdiffers)
  · exact hchanged hwritten s hs
  · exact fun hsame => hdiffers (h.unique s hs hsame)

/-- If another version is stored than that of the copy, the cluster refuses the write. -/
theorem Known.refuses {copy : Service} (h : Known key past copy w)
    (hkey : c.key = key) (hversion : c.version? = copy.metadata.resourceVersion)
    (hs : w.cluster.services.get? key = some s)
    (hother : s.metadata.resourceVersion ≠ copy.metadata.resourceVersion) :
    ∃ m, w.cluster.performService c = (.error (.conflict m), w.cluster) := by
  obtain ⟨k, -, -, hissued⟩ := h.issued
  refine Cluster.performService_stale (hkey ▸ hs) ?_ (hversion ▸ hother)
  rw [hversion, hissued]
  rfl

end Writes

/-- A call that is refused fails, and changes nothing. -/
theorem Ends.of_refused {α σ : Type} {truth : Except OperatorError α × σ} {before after : σ}
    {reply : Except OperatorError α} {e : OperatorError} (h : Ends truth before reply after)
    (hrefused : truth = (.error e, before)) : after = before ∧ ∃ e', reply = .error e' := by
  subst hrefused
  obtain htruth | ⟨hfailed, hsame | hsame⟩ := h
  · exact ⟨congrArg Prod.snd htruth, e, congrArg Prod.fst htruth⟩
  · exact ⟨hsame, hfailed⟩
  · exact ⟨hsame, hfailed⟩

/-- A pass that has failed does nothing more. -/
theorem Stage.done_of_failed {config : TunnelConfig} {cls : String} {key : ObjectKey}
    {e : OperatorError} {p : Operation (Except OperatorError Unit)}
    (h : p.Keeps (dealings config cls key) Ends (.failed e)) : p = .done (.error e) := by
  cases p with
  | done r => exact congrArg _ (h e rfl)
  | call c next => exact h.1.1.elim

/-- **A pass loses nothing that others have written.** In every journey of a pass, with others
writing whatever they like between its calls and calls that fail, a write of the pass changes at
most the operator's own part of the Service that is stored. If the Service has been written since
the pass looked it up, finalizers and annotations are refused for a conflict, and the pass fails. -/
theorem pass_merges {config : TunnelConfig} {cls : String} {key : ObjectKey} {w₀ : Realm}
    (hversioned : w₀.cluster.Versioned) {past : List Moment} {c : ServiceCall}
    {next : (Call.service c).Reply → Operation (Except OperatorError Unit)} {w : Realm}
    (hjourney : Journey config cls key w₀ past (.call (.service c) next) w)
    (hwrite : ∀ ns name, c ≠ .get ns name) {r : (Call.service c).Reply} {w' : Realm}
    (hanswers : w.Answers (.service c) r w') : Merged key past c next w r w' := by
  obtain ⟨stage, ⟨hpermits, hnext⟩, haware, -⟩ :=
    hjourney.sound (E := fun _ _ _ => True) trivial (fun _ _ _ _ => trivial)
      (fun _ _ _ => trivial) hversioned
  have hkey : c.key = key := by
    cases c with
    | get ns name => exact absurd rfl (hwrite ns name)
    | setFinalizers | patchAnnotations | patchIngress => exact hpermits.2.1
  have hends : Ends (w.cluster.performService c) w.cluster r w'.cluster := hanswers.2
  refine ⟨hkey, fun other hother => ?elsewhere, ?merged, fun a ha => ?succeeded,
    fun hnotIngress => ?stale, fun e he => ?failed⟩
  case elsewhere =>
    obtain hsame | hdone := hends.effect
    · rw [hsame]
    · rw [hdone]
      exact (w.cluster.performService_elsewhere c).1 other (hkey ▸ hother)
  case merged =>
    obtain ⟨e, he⟩ | hmerges := haware.merges hpermits hwrite
    · exact Or.inl (hends.of_refused he).1
    · exact hends.effect.imp_right hmerges
  case succeeded =>
    subst ha
    have htruth := hends.of_ok
    obtain ⟨e, he⟩ | hmerges := haware.merges hpermits hwrite
    · rw [he] at htruth
      cases htruth
    · exact hmerges (congrArg Prod.snd htruth).symm
  case stale =>
    obtain ⟨copy, hknown, hversion⟩ := haware.copy_of_write hpermits hwrite
    obtain ⟨before, since, hlookedUp, houtdated⟩ := hknown.outdated
    refine ⟨before, copy, since, hlookedUp, hversion hnotIngress, fun s hs hstale => ?_⟩
    obtain ⟨m, hm⟩ := hknown.refuses hkey (hversion hnotIngress) hs (houtdated s hs hstale)
    exact ⟨⟨m, hm⟩, hends.of_refused hm⟩
  case failed =>
    subst he
    have hrest := hnext (.error e) _ rfl
    rw [Stage.next_error] at hrest
    exact Stage.done_of_failed hrest

/-- A pass that was overtaken while it had its finalizer to put on is refused. -/
theorem pass_merges_web :
    let key : ObjectKey := ⟨"default", "web"⟩
    let c : ServiceCall := .setFinalizers "default" "web" (some "1") [Annotations.finalizer]
    let r : (Call.service c).Reply := .error (.conflict "services \"web\" modified")
    ∃ past next w w', Journey sampleConfig "fly" key (Scene.untouched (.sample ["web"])).realm past
        (.call (.service c) next) w ∧
      .other key ∈ past ∧ w.Answers (.service c) r w' ∧ Merged key past c next w r w' := by
  intro key c r
  let overtaken : Site := ⟨{}, (Cluster.sample ["web"]).store key (sampleService "web")⟩
  have hstart : Journey sampleConfig "fly" key (Scene.untouched (.sample ["web"])).realm [] _ _ :=
    .start
  obtain ⟨_, hfound, hdepicts⟩ := hstart.look (Scene.depicts_untouched _) rfl rfl
  obtain ⟨w, hovertaken, hdepicts⟩ := hfound.store hdepicts key (sampleService "web")
  obtain ⟨next, hnext⟩ := hovertaken.exists_of_call? (c := .service c) (by decide +kernel)
  obtain ⟨w', hhonest, -⟩ := hdepicts.perform (.service c)
  have hrefused : (Site.perform (.service c) overtaken).1 = r := by decide +kernel
  have hanswers : w.Answers (.service c) r w' := hrefused ▸ hhonest.answers
  exact ⟨_, next, w, w', hnext, List.mem_append_right _ (List.mem_singleton_self _), hanswers,
    pass_merges (Cluster.versioned_sample ["web"]) hnext nofun hanswers⟩

end ServiceTunnel
