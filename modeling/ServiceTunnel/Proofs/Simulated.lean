import ServiceTunnel.Proofs.Scene
import ServiceTunnel.Proofs.Site

/-!
# ServiceTunnel.Proofs.Simulated

**The values that programs are run over behave as the operator may expect.** A cloud depicts an
estate if it stores what is held there, and whatever was ever given out has a number that is used
up. Every answer of a cloud is an answer of the estate that it depicts (`Cloud.Depicts.perform`),
with or without failures by rule (`World.perform_honest`), so whatever is proved of scenes holds of
runs in worlds: making the calls of a pass on a site is a way for the scene to go on
(`Scene.Reach.advance`).
-/

namespace ServiceTunnel

open Kube

namespace Simulation

/-! ### Numbers -/

/-- One of the first `n` identifiers with a stem. -/
def Numbered (stem : String) (n : Nat) (id : String) : Prop :=
  ∃ k, k ≤ n ∧ id = stem ++ toString k

theorem Numbered.mono {stem id : String} {n : Nat} (h : Numbered stem n id) :
    Numbered stem (n + 1) id := by
  obtain ⟨k, hk, hid⟩ := h
  exact ⟨k, Nat.le_succ_of_le hk, hid⟩

theorem toString_injective {m n : Nat} (h : toString m = toString n) : m = n := by
  have hdigits : Nat.toDigits 10 m = Nat.toDigits 10 n := by
    rw [← Nat.toList_repr, ← Nat.toList_repr]
    exact congrArg String.toList h
  rw [← Nat.ofDigitChars_ten_toDigits (n := m), hdigits, Nat.ofDigitChars_ten_toDigits]

/-- The next number has not been used. -/
theorem not_numbered_succ (stem : String) (n : Nat) :
    ¬ Numbered stem n (stem ++ toString (n + 1)) := by
  intro hnumbered
  obtain ⟨k, hk, hid⟩ := hnumbered
  have hlists := congrArg String.toList hid
  rw [String.toList_append, String.toList_append, List.append_cancel_left_eq] at hlists
  have hsame := toString_injective (String.toList_injective hlists)
  omega

/-! ### What identifiers stand for -/

/-- The stored things are those that identifiers stand for, and what was given out is numbered. -/
structure Tallies {α : Type} (stored : Dict String (String × α)) (stem : String) (n : Nat)
    (slots : String → Slot α) : Prop where
  held : ∀ id app a, slots id = .held app a ↔ stored.get? id = some (app, a)
  numbered : ∀ id, slots id ≠ .unissued → Numbered stem n id

namespace Tallies

variable {α : Type} {stored : Dict String (String × α)} {stem : String} {n : Nat}
  {slots : String → Slot α}

theorem mono (h : Tallies stored stem n slots) : Tallies stored stem (n + 1) slots :=
  ⟨h.held, fun id hid => (h.numbered id hid).mono⟩

theorem unissued (h : Tallies stored stem n slots) :
    slots (stem ++ toString (n + 1)) = .unissued := by
  by_contra hissued
  exact not_numbered_succ stem n (h.numbered _ hissued)

theorem insert (h : Tallies stored stem n slots) {id : String} (hid : Numbered stem n id)
    (app : String) (a : α) :
    Tallies (stored.insert id (app, a)) stem n (Function.update slots id (.held app a)) := by
  refine ⟨fun other app' b => ?_, fun other hother => ?_⟩
  · by_cases hne : other = id
    · subst hne
      rw [Function.update_self, Dict.get?_insert_self, Option.some.injEq, Slot.held.injEq,
        Prod.mk.injEq]
    · rw [Function.update_of_ne hne, Dict.get?_insert_ne _ hne]
      exact h.held other app' b
  · by_cases hne : other = id
    · exact hne ▸ hid
    · rw [Function.update_of_ne hne] at hother
      exact h.numbered other hother

theorem erase (h : Tallies stored stem n slots) (id : String) :
    Tallies (stored.erase id) stem n (Function.update slots id (slots id).clear) := by
  refine ⟨fun other app b => ?_, fun other hother => ?_⟩
  · by_cases hne : other = id
    · subst hne
      rw [Function.update_self, Dict.get?_erase_self]
      exact iff_of_false (Slot.clear_ne_held _ _ _) nofun
    · rw [Function.update_of_ne hne, Dict.get?_erase_ne _ hne]
      exact h.held other app b
  · by_cases hne : other = id
    · subst hne
      rw [Function.update_self] at hother
      refine h.numbered other fun hunissued => hother ?_
      rw [hunissued]
      rfl
    · rw [Function.update_of_ne hne] at hother
      exact h.numbered other hother

theorem withoutApp (h : Tallies stored stem n slots) (app : String) :
    Tallies (stored.filter fun _ b => b.1 != app) stem n fun id => (slots id).clearOf app := by
  refine ⟨fun id owner a => ?_, fun id hid => ?_⟩
  · rw [Slot.clearOf_eq_held, h.held, Dict.get?_filter, Option.filter_eq_some_iff, bne_iff_ne]
  · refine h.numbered id fun hunissued => hid ?_
    rw [hunissued]
    rfl

end Tallies

/-! ### The provider -/

/-- A cloud stores what an estate holds, under the identifiers that it has given out. -/
structure Cloud.Depicts (c : Cloud) (e : Estate) : Prop where
  apps : ∀ app, app ∈ e.apps ↔ c.apps.contains app = true
  machines : Tallies c.machines "m" c.issued e.machines
  ips : Tallies c.ips "ip" c.issued e.ips
  ipIds : ∀ id app ip, c.ips.get? id = some (app, ip) → ip.id = id

namespace Cloud

variable {c : Cloud} {e : Estate}

theorem Depicts.machineOf? (h : c.Depicts e) (app id : String) :
    e.machineOf? app id = c.machineOf? app id := by
  cases hm : c.machineOf? app id with
  | some m => exact Slot.of?_eq_some.mpr ((h.machines.held id app m).mpr (get?_of_machineOf? hm))
  | none =>
      cases he : e.machineOf? app id with
      | none => rfl
      | some m =>
          have hstored := (h.machines.held id app m).mp (Slot.of?_eq_some.mp he)
          simp only [Cloud.machineOf?, hstored, if_true, reduceCtorEq] at hm

theorem Depicts.ipOf? (h : c.Depicts e) {app id : String} {ip : IpAddress} :
    e.ipOf? app id = some ip ↔ c.ips.get? id = some (app, ip) :=
  Slot.of?_eq_some.trans (h.ips.held id app ip)

/-- What is listed for an application is what it has. -/
theorem Depicts.mem_listed (h : c.Depicts e) (app : String) (ip : IpAddress) :
    ip ∈ (c.ips.values.filter fun i => i.1 == app).map (·.2) ↔ e.ipOf? app ip.id = some ip := by
  rw [h.ipOf?]
  constructor
  · intro hmem
    obtain ⟨⟨owner, ip'⟩, hlisted, rfl⟩ := List.mem_map.mp hmem
    obtain ⟨hvalue, howner⟩ := List.mem_filter.mp hlisted
    obtain ⟨id, hid⟩ := Dict.mem_values.mp hvalue
    obtain rfl : owner = app := eq_of_beq howner
    rw [h.ipIds id owner ip' hid]
    exact hid
  · intro hstored
    refine List.mem_map.mpr ⟨(app, ip), List.mem_filter.mpr ⟨?_, ?_⟩, rfl⟩
    · exact Dict.mem_values.mpr ⟨_, hstored⟩
    · exact beq_self_eq_true app

theorem Depicts.withApp (h : c.Depicts e) (app : String) :
    ({ c with apps := c.apps.insert app () } : Cloud).Depicts
      { e with apps := insert app e.apps } := by
  refine ⟨fun other => ?_, h.machines, h.ips, h.ipIds⟩
  show other = app ∨ other ∈ e.apps ↔ ((c.apps.insert app ()).get? other).isSome = true
  by_cases hne : other = app
  · subst hne
    rw [Dict.get?_insert_self]
    exact iff_of_true (Or.inl rfl) rfl
  · rw [Dict.get?_insert_ne _ hne, or_iff_right hne]
    exact h.apps other

theorem Depicts.withoutApp (h : c.Depicts e) (app : String) :
    (c.perform (.deleteApp app)).2.Depicts (e.withoutApp app) := by
  refine ⟨fun other => ?_, h.machines.withoutApp app, h.ips.withoutApp app, ?_⟩
  · show other ∈ e.apps ∧ other ≠ app ↔ ((c.apps.erase app).get? other).isSome = true
    by_cases hne : other = app
    · subst hne
      rw [Dict.get?_erase_self]
      exact iff_of_false (fun hmem => hmem.2 rfl) Bool.false_ne_true
    · rw [Dict.get?_erase_ne _ hne, and_iff_left hne]
      exact h.apps other
  · intro id owner ip hip
    rw [Cloud.perform, Dict.get?_filter] at hip
    exact h.ipIds id owner ip (Option.filter_eq_some_iff.mp hip).1

/-- The next address is given out for an application. -/
theorem Depicts.withIp (h : c.Depicts e) (app : String) :
    ({ c with
        ips := c.ips.insert (newIp (c.issued + 1)).id (app, newIp (c.issued + 1))
        issued := c.issued + 1 } : Cloud).Depicts
      (e.setIp (newIp (c.issued + 1)).id (.held app (newIp (c.issued + 1)))) := by
  refine ⟨h.apps, h.machines.mono, h.ips.mono.insert ⟨_, Nat.le_refl _, rfl⟩ app _,
    fun id owner ip hip => ?_⟩
  by_cases hne : id = (newIp (c.issued + 1)).id
  · rw [hne, Dict.get?_insert_self] at hip
    cases hip
    exact hne.symm
  · rw [Dict.get?_insert_ne _ hne] at hip
    exact h.ipIds id owner ip hip

theorem Depicts.withoutIp (h : c.Depicts e) (id : String) :
    ({ c with ips := c.ips.erase id } : Cloud).Depicts (e.setIp id (e.ips id).clear) := by
  refine ⟨h.apps, h.machines, h.ips.erase id, fun other owner ip hip => ?_⟩
  by_cases hne : other = id
  · rw [hne, Dict.get?_erase_self] at hip
    cases hip
  · rw [Dict.get?_erase_ne _ hne] at hip
    exact h.ipIds other owner ip hip

/-- A machine that is stored may change as long as it stays where it is. -/
theorem Depicts.changed (h : c.Depicts e) {id owner : String} {old : Machine}
    (hheld : e.machines id = .held owner old) (m : Machine) :
    ({ c with machines := c.machines.insert id (owner, m) } : Cloud).Depicts
      (e.setMachine id (.held owner m)) := by
  have hnumbered : Numbered "m" c.issued id := by
    refine h.machines.numbered id ?_
    rw [hheld]
    exact Slot.held_ne_unissued owner old
  exact ⟨h.apps, h.machines.insert hnumbered owner m, h.ips, h.ipIds⟩

/-- Every answer of a cloud is one that may be expected. -/
theorem Depicts.perform (h : c.Depicts e) (call : ProviderCall) :
    ∃ e', e.Answers call (c.perform call).1 e' ∧ (c.perform call).2.Depicts e' := by
  cases call with
  | ensureApp app org => exact ⟨_, rfl, h.withApp app⟩
  | deleteApp app => exact ⟨_, rfl, h.withoutApp app⟩
  | createMachine app input =>
      rw [Cloud.perform]
      split
      · rename_i happ
        refine ⟨_, ⟨(h.apps app).mpr happ, h.machines.unissued, ⟨rfl, rfl, rfl⟩, rfl⟩, ?_⟩
        exact ⟨h.apps, h.machines.mono.insert ⟨_, Nat.le_refl _, rfl⟩ app _, h.ips.mono, h.ipIds⟩
      · exact ⟨e, Or.inl rfl, h⟩
  | getMachine app id =>
      rw [Cloud.perform]
      split
      · rename_i m hm
        exact ⟨e, ⟨(h.machineOf? app id).trans hm, rfl⟩, h⟩
      · exact ⟨e, Or.inl rfl, h⟩
  | updateMachine app id input =>
      rw [Cloud.perform]
      split
      · rename_i m hm
        have hold := (h.machineOf? app id).trans hm
        exact ⟨_, ⟨m, hold, rfl, rfl⟩, h.changed (Slot.of?_eq_some.mp hold) _⟩
      · exact ⟨e, Or.inl rfl, h⟩
  | deleteMachine app id => exact ⟨_, rfl, ⟨h.apps, h.machines.erase id, h.ips, h.ipIds⟩⟩
  | waitForMachine app id inst state seconds =>
      rw [Cloud.perform]
      split
      · rename_i owner m hm
        have hheld := (h.machines.held id owner m).mpr hm
        exact ⟨_, ⟨owner, m, hheld, rfl⟩, h.changed hheld _⟩
      · exact ⟨e, Or.inl rfl, h⟩
  | allocateIp app =>
      rw [Cloud.perform]
      split
      · rename_i happ
        exact ⟨_, ⟨(h.apps app).mpr happ, h.ips.unissued, rfl⟩, h.withIp app⟩
      · exact ⟨e, Or.inl rfl, h⟩
  | releaseIp app id => exact ⟨_, rfl, h.withoutIp id⟩
  | listIps app =>
      rw [Cloud.perform]
      split
      · rename_i happ
        exact ⟨e, ⟨(h.apps app).mpr happ, h.mem_listed app, rfl⟩, h⟩
      · exact ⟨e, Or.inl rfl, h⟩

/-- A call that fails has no effect. -/
theorem perform_of_error {call : ProviderCall} {x : ProviderError}
    (h : (c.perform call).1 = .error x) : (c.perform call).2 = c := by
  cases call with
  | ensureApp | deleteApp | deleteMachine | releaseIp => cases h
  | createMachine | getMachine | updateMachine | waitForMachine | allocateIp | listIps =>
      revert h
      rw [perform]
      split
      · intro hok
        cases hok
      · intro _
        rfl

/-- Every answer of a cloud is one that may be expected where calls that fail have no effect. -/
theorem Depicts.perform_honest (h : c.Depicts e) (call : ProviderCall) :
    ∃ e', e.Answers call (c.perform call).1 e' ∧ (c.perform call).2.Depicts e' ∧
      ∀ x, (c.perform call).1 = .error x → e' = e := by
  cases hr : (c.perform call).1 with
  | error x =>
      rw [perform_of_error hr]
      exact ⟨e, Or.inl rfl, h, fun _ _ => rfl⟩
  | ok a =>
      obtain ⟨e', hanswers, hdepicts⟩ := h.perform call
      rw [hr] at hanswers
      exact ⟨e', hanswers, hdepicts, nofun⟩

end Cloud

/-! ### Sites and worlds -/

/-- What exists on a site is what exists in the realm. -/
def Site.Depicts (s : Site) (w : Realm) : Prop :=
  s.cloud.Depicts w.estate ∧ w.cluster = s.cluster

/-- Every answer on a site is one that may be expected. -/
theorem Site.Depicts.perform {s : Site} {w : Realm} (h : s.Depicts w) (c : Call) :
    ∃ w', w.Honest c (Site.perform c s).1 w' ∧ (Site.perform c s).2.Depicts w' := by
  obtain ⟨hcloud, hcluster⟩ := h
  cases c with
  | provider pc =>
      obtain ⟨e', hanswers, hdepicts, hunharmed⟩ := hcloud.perform_honest pc
      refine ⟨⟨e', w.cluster⟩, ⟨⟨hanswers, rfl⟩, fun hfails => ?_⟩, hdepicts, hcluster⟩
      obtain ⟨x, hx⟩ := hfails
      exact hunharmed x hx
  | providerWithin limit pc =>
      obtain ⟨e', hanswers, hdepicts, hunharmed⟩ := hcloud.perform_honest pc
      refine ⟨⟨e', w.cluster⟩, ⟨⟨hanswers, rfl⟩, fun hfails => ?_⟩, hdepicts, hcluster⟩
      obtain ⟨x, hx⟩ := hfails
      exact hunharmed x (Option.some.inj hx)
  | workload wc =>
      refine ⟨⟨w.estate, w.cluster.performWorkload wc⟩, ⟨⟨rfl, Or.inl rfl⟩, fun _ => rfl⟩, hcloud,
        ?_⟩
      rw [hcluster]
      rfl
  | service sc =>
      refine ⟨⟨w.estate, (w.cluster.performService sc).2⟩, ⟨⟨rfl, Or.inl ?_⟩, fun _ => rfl⟩,
        hcloud, ?_⟩
      · rw [hcluster]
        rfl
      · rw [hcluster]
        rfl

/-- Every answer in a world is one that may be expected, whether a rule lets the call fail, the
operator gives it up, or it goes through. Changes by others that wait for a look-up come on top. -/
theorem World.perform_honest {v : World} {w : Realm} (h : v.site.Depicts w) (hhooks : v.hooks = [])
    (c : Call) :
    ∃ w', w.Honest c (World.perform c v).1 w' ∧ (World.perform c v).2.site.Depicts w' ∧
      (World.perform c v).2.hooks = [] := by
  obtain ⟨cloud, cluster, providerRules, clusterRules, startDelay, hooks, log⟩ := v
  subst hhooks
  obtain ⟨w', hhonest, hdepicts⟩ := h.perform c
  cases c with
  | provider pc =>
      simp only [World.perform, World.performProvider, World.consultProvider, World.note]
      cases Rule.consult pc.name providerRules with
      | mk fault rules =>
          cases fault with
          | none => exact ⟨w', hhonest, hdepicts, rfl⟩
          | some e => exact ⟨w, ⟨⟨Or.inl rfl, rfl⟩, fun _ => rfl⟩, h, rfl⟩
  | providerWithin limit pc =>
      simp only [World.perform, World.performWithin, World.consultProvider, World.note]
      cases Rule.consult pc.name providerRules with
      | mk fault rules =>
          cases fault with
          | none =>
              dsimp only
              split
              · exact ⟨w, ⟨⟨Or.inl rfl, rfl⟩, fun _ => rfl⟩, h, rfl⟩
              · exact ⟨w', hhonest, hdepicts, rfl⟩
          | some e => exact ⟨w, ⟨⟨Or.inl rfl, rfl⟩, fun _ => rfl⟩, h, rfl⟩
  | workload wc =>
      simp only [World.perform, World.performWorkload, World.consultCluster, World.note]
      cases Rule.consult wc.name clusterRules with
      | mk fault rules =>
          cases fault with
          | none => exact ⟨w', hhonest, hdepicts, rfl⟩
          | some e => exact ⟨w, ⟨⟨rfl, Or.inr ⟨⟨e, rfl⟩, Or.inl rfl⟩⟩, fun _ => rfl⟩, h, rfl⟩
  | service sc =>
      simp only [World.perform, World.performService, World.consultCluster, World.note]
      cases Rule.consult sc.name clusterRules with
      | mk fault rules =>
          cases fault with
          | none => cases sc <;> exact ⟨w', hhonest, hdepicts, rfl⟩
          | some e => exact ⟨w, ⟨⟨rfl, Or.inr ⟨⟨e, rfl⟩, Or.inl rfl⟩⟩, fun _ => rfl⟩, h, rfl⟩

end Simulation

/-! ### Runs as scenes -/

namespace Program

variable {I : Interface} {α σ : Type}

/-- Runs a program for at most `n` calls, and gives what is left of it. -/
def advance (handle : (c : I.Call) → σ → I.Reply c × σ) :
    Nat → Program I α → σ → Program I α × σ
  | 0, p, s => (p, s)
  | _ + 1, .done a, s => (.done a, s)
  | n + 1, .call c next, s => (next (handle c s).1).advance handle n (handle c s).2

/-- The call that a program makes next. -/
def next? : Program I α → Option I.Call
  | .done _ => none
  | .call c _ => some c

end Program

namespace Scene

open Simulation

variable {config : TunnelConfig} {cls : String} {R : Regime} {s₀ : Scene}

/-- A pass over a Service goes on, call by call, as it does on the site. -/
theorem Reach.advance {key : ObjectKey} {flights : ObjectKey → Option Flight}
    {seen : Option Service} {p : Operation (Except OperatorError Unit)} {site : Site} {w : Realm}
    (hR : ∀ s s' c (t : Site), R s (.call key c (Site.perform c t).1) s')
    (hreach : Reach config cls R s₀ ⟨w, flights⟩) (hdepicts : site.Depicts w)
    (hflight : flights key = some ⟨seen, p⟩) (n : Nat) :
    ∃ w' seen', (p.advance Site.perform n site).2.Depicts w' ∧
      Reach config cls R s₀ ⟨w', Function.update flights key
        (some ⟨seen', (p.advance Site.perform n site).1⟩)⟩ := by
  have hstay : Function.update flights key (some ⟨seen, p⟩) = flights := by
    rw [← hflight, Function.update_eq_self]
  have hstopped : Reach config cls R s₀
      ⟨w, Function.update flights key (some ⟨seen, p⟩)⟩ := by
    rw [hstay]
    exact hreach
  induction n generalizing flights seen p site w with
  | zero => exact ⟨w, seen, hdepicts, hstopped⟩
  | succ n ih =>
      cases p with
      | done a => exact ⟨w, seen, hdepicts, hstopped⟩
      | call c next =>
          obtain ⟨w', hhonest, hdepicts'⟩ := hdepicts.perform c
          have hstep : Step config cls ⟨w, flights⟩ (.call key c (Site.perform c site).1) _ :=
            .call key seen c next _ w' hflight hhonest.answers
          have hnext := hreach.step hstep (hR _ _ c site)
          obtain ⟨w'', seen', hends, hreach'⟩ := ih hnext hdepicts' (Function.update_self _ _ _)
            (Function.update_idem _ _ _) (by rw [Function.update_idem]; exact hnext)
          rw [Function.update_idem] at hreach'
          exact ⟨w'', seen', hends, hreach'⟩

/-- A pass that is not over makes its next call, and is answered as on the site. -/
theorem exists_call {key : ObjectKey} {flights : ObjectKey → Option Flight} {seen : Option Service}
    {p : Operation (Except OperatorError Unit)} {site : Site} {w : Realm} {c : Call}
    (hdepicts : site.Depicts w) (hflight : flights key = some ⟨seen, p⟩)
    (hnext : p.next? = some c) :
    ∃ s', Step config cls ⟨w, flights⟩ (.call key c (Site.perform c site).1) s' := by
  cases p with
  | done a => cases hnext
  | call c' next =>
      cases hnext
      obtain ⟨w', hhonest, -⟩ := hdepicts.perform c
      exact ⟨_, .call key seen c next _ w' hflight hhonest.answers⟩

/-- A pass over a Service begins, and goes on as it does on the site. -/
theorem Reach.pass (key : ObjectKey) {flights : ObjectKey → Option Flight} {site : Site}
    {w : Realm} (hbegins : ∀ s s', R s (.begin key) s')
    (hR : ∀ s s' c (t : Site), R s (.call key c (Site.perform c t).1) s')
    (hreach : Reach config cls R s₀ ⟨w, flights⟩) (hdepicts : site.Depicts w)
    (hidle : flights key = none) (n : Nat) :
    ∃ w' seen, ((Reconcile.pass config cls key.ns key.name).advance Site.perform n site).2.Depicts
        w' ∧
      Reach config cls R s₀ ⟨w', Function.update flights key (some ⟨seen,
        ((Reconcile.pass config cls key.ns key.name).advance Site.perform n site).1⟩)⟩ := by
  have hstep : Step config cls ⟨w, flights⟩ (.begin key) _ := .begin key hidle
  obtain ⟨w', seen, hends, hreach'⟩ := (hreach.step hstep (hbegins _ _)).advance hR hdepicts
    (Function.update_self _ _ _) n
  rw [Function.update_idem] at hreach'
  exact ⟨w', seen, hends, hreach'⟩

/-! ### Scenes to begin with -/

/-- A scene with nothing at the provider, and no pass under way. -/
def untouched (cluster : Cluster) : Scene where
  realm := ⟨⟨∅, fun _ => .unissued, fun _ => .unissued⟩, cluster⟩
  flights _ := none

theorem depicts_untouched (cluster : Cluster) :
    Site.Depicts ⟨{}, cluster⟩ (untouched cluster).realm := by
  refine ⟨⟨fun app => iff_of_false id nofun, ⟨?_, ?_⟩, ⟨?_, ?_⟩, nofun⟩, rfl⟩
  · exact fun id app m => iff_of_false nofun nofun
  · exact fun id hid => absurd rfl hid
  · exact fun id app ip => iff_of_false nofun nofun
  · exact fun id hid => absurd rfl hid

theorem not_bears_untouched (cluster : Cluster) (app : String) :
    ¬ (untouched cluster).realm.estate.Bears app := by
  intro hbears
  rcases hbears with happ | ⟨id, m, hm⟩ | ⟨id, ip, hip⟩
  · exact happ
  · cases hm
  · cases hip

theorem fresh_untouched {cluster : Cluster}
    (hnamed : ∀ key service, cluster.services.get? key = some service →
      service.ns = key.ns ∧ service.name = key.name)
    (hunrecorded : ∀ key service, cluster.services.get? key = some service →
      TunnelRecord.ofService service = {}) : (untouched cluster).Fresh :=
  ⟨fun _ => rfl, rfl, fun _ _ => rfl, fun _ _ => rfl, hnamed, hunrecorded⟩

/-- The sample Services are as their users have made them. -/
theorem fresh_sample (names : List String) : (untouched (.sample names)).Fresh := by
  have hstored : ∀ (names : List String) (c : Cluster),
      (∀ key service, c.services.get? key = some service →
        ∃ name v, key = ⟨"default", name⟩ ∧ service = (sampleService name).stamped v) →
      ∀ key service, (names.foldl (fun c name =>
          c.store ⟨"default", name⟩ (sampleService name)) c).services.get? key = some service →
        ∃ name v, key = ⟨"default", name⟩ ∧ service = (sampleService name).stamped v := by
    intro names
    induction names with
    | nil => exact fun _ hc => hc
    | cons name rest ih =>
        refine fun c hc => ih _ fun key service hservice => ?_
        by_cases hkey : key = ⟨"default", name⟩
        · rw [hkey, Cluster.services_store, Dict.get?_insert_self, Option.some.injEq] at hservice
          exact ⟨name, _, hkey, hservice.symm⟩
        · rw [Cluster.services_store, Dict.get?_insert_ne _ hkey] at hservice
          exact hc key service hservice
  have hsample := hstored names {} fun key service h => by
    rw [show ({} : Cluster).services.get? key = none from rfl] at h
    cases h
  rw [← Cluster.sample] at hsample
  refine fresh_untouched (fun key service h => ?_) fun key service h => ?_
  · obtain ⟨name, v, rfl, rfl⟩ := hsample key service h
    exact ⟨rfl, rfl⟩
  · obtain ⟨name, v, rfl, rfl⟩ := hsample key service h
    rfl

end Scene

end ServiceTunnel
