import ServiceTunnel.Proofs.Derived
import ServiceTunnel.Proofs.Ledger
import ServiceTunnel.Proofs.Shown
import ServiceTunnel.Proofs.Standing
import ServiceTunnel.Proofs.Simulated

/-!
# ServiceTunnel.Proofs.WrittenOnce

**A record is written whole, and once.** The record of a tunnel is made of five annotations, written
by one call after everything else has been made. Only passes over a Service record anything on it,
and there is one at a time, so nothing is recorded as long as a pass is at making something
(`Ledger.Kept`). That is why the five are of one tunnel, made in one pass, whatever failed on the
way, and why no pass makes anything once they are there (`record_written_once`).
-/

namespace ServiceTunnel

open Kube Simulation

/-! ### What happens to one Service -/

/-- The Service that an act is about. -/
def Act.key : Act → ObjectKey
  | .begin key | .call key _ _ | .finish key | .change key => key

/-- A pass over the Service has something made at the provider. -/
def Act.Makes (key : ObjectKey) : Act → Prop
  | .call other c _ => other = key ∧ ∃ pc, c.provider? = some pc ∧ pc.Makes
  | _ => False

/-- Identifiers and addresses that are given out are not empty. -/
def Call.Filled : (c : Call) → c.Reply → Prop
  | .provider (.createMachine _ _), .ok machine => machine.id ≠ ""
  | .provider (.allocateIp _), .ok ip => ip.id ≠ "" ∧ ip.address ≠ ""
  | _, _ => True

/-- What stands under the keys of the record is left alone, and a new Service has nothing there. -/
def Realm.Spares (key : ObjectKey) (w w' : Realm) : Prop :=
  ∀ service', w'.cluster.services.get? key = some service' →
    match w.cluster.services.get? key with
    | some service => service.Spared service'
    | none => service'.Blank

namespace Ledger

/-- The pass that is under way over the Service has had a machine made. -/
def HasMade (key : ObjectKey) (machine : Machine) (acts : List Act) : Prop :=
  ∃ before input after, acts = before ++
      .call key (.provider (.createMachine (appOf key) input)) (.ok machine) :: after ∧
    .finish key ∉ after

/-- One pass over the Service has had a machine made and an address allocated, and the tunnel is the
one that it made of them. -/
def MadeIn (key : ObjectKey) (acts : List Act) (t : Tunnel) : Prop :=
  ∃ machine ip first after, HasMade key machine first ∧
    acts = first ++ .call key (.provider (.allocateIp (appOf key))) (.ok ip) :: after ∧
    t = Lifecycle.tunnelOf (appOf key) (deploymentOf key) machine ip

/-- The provider gives out nothing empty, and others leave the record of the Service alone. -/
def regime (key : ObjectKey) : Scene.Regime := fun s a s' =>
  match a with
  | .call _ c r => c.Filled r
  | .change other => other = key → s.realm.Spares key s'.realm
  | _ => True

variable {config : TunnelConfig} {cls : String} {R : Scene.Regime} {key : ObjectKey}
  {acts : List Act} {a : Act} {stage : Stage} {entry entry' : Option Service}

theorem HasMade.snoc {machine : Machine} (h : HasMade key machine acts) (ha : a ≠ .finish key) :
    HasMade key machine (acts ++ [a]) := by
  obtain ⟨before, input, after, rfl, hopen⟩ := h
  refine ⟨before, input, after ++ [a], by simp only [List.append_assoc, List.cons_append], ?_⟩
  rw [List.mem_append, List.mem_singleton]
  exact not_or.mpr ⟨hopen, fun hfinish => ha hfinish.symm⟩

theorem MadeIn.snoc {t : Tunnel} (h : MadeIn key acts t) (a : Act) :
    MadeIn key (acts ++ [a]) t := by
  obtain ⟨machine, ip, first, after, hmade, rfl, ht⟩ := h
  exact ⟨machine, ip, first, after ++ [a], hmade,
    by simp only [List.append_assoc, List.cons_append], ht⟩

/-! ### What is recorded, and what is to be -/

/-- What is recorded was made in one pass, and whatever a pass has in hand was made by it while
nothing is recorded. -/
structure Kept (key : ObjectKey) (acts : List Act) (stage : Stage) (entry : Option Service) :
    Prop where
  recorded : ∀ service, entry = some service → service.Blank ∨
    ∃ t : Tunnel, t.Complete ∧ MadeIn key acts t ∧ service.Records t
  blank : stage ≠ .idle → ∀ service, entry = some service → service.Blank
  made : ∀ machine, stage = .made machine → machine.id ≠ "" ∧ HasMade key machine acts
  ready : ∀ machine ip, stage = .ready machine ip →
    (Lifecycle.tunnelOf (appOf key) (deploymentOf key) machine ip).Complete ∧
      MadeIn key acts (Lifecycle.tunnelOf (appOf key) (deploymentOf key) machine ip)

/-- What is stored then is new and blank, or has the record of what was stored before. -/
def Follows (entry entry' : Option Service) : Prop :=
  ∀ service', entry' = some service' →
    service'.Blank ∨ ∃ service, entry = some service ∧ service.Spared service'

theorem Kept.intact (h : Kept key acts stage entry) : Intact entry := by
  intro service hservice
  obtain hblank | ⟨t, ht, -, hrecords⟩ := h.recorded service hservice
  · exact Or.inl hblank
  · exact Or.inr ⟨t, ht, hrecords⟩

theorem Kept.idle (h : Kept key acts stage entry) : Kept key acts .idle entry :=
  ⟨h.recorded, fun hidle => absurd rfl hidle, nofun, nofun⟩

theorem Kept.recorded_snoc (h : Kept key acts stage entry) (a : Act)
    (hfollows : Follows entry entry') : ∀ service', entry' = some service' → service'.Blank ∨
      ∃ t : Tunnel, t.Complete ∧ MadeIn key (acts ++ [a]) t ∧ service'.Records t := by
  intro service' hservice'
  obtain hblank | ⟨service, hservice, hspared⟩ := hfollows service' hservice'
  · exact Or.inl hblank
  obtain hblank | ⟨t, ht, hmade, hrecords⟩ := h.recorded service hservice
  · exact Or.inl (hblank.spared hspared)
  · exact Or.inr ⟨t, ht, hmade.snoc a, hrecords.spared hspared⟩

theorem Kept.blank_follows (h : Kept key acts stage entry) (hstage : stage ≠ .idle)
    (hfollows : Follows entry entry') : ∀ service', entry' = some service' → service'.Blank := by
  intro service' hservice'
  obtain hblank | ⟨service, hservice, hspared⟩ := hfollows service' hservice'
  · exact hblank
  · exact (h.blank hstage service hservice).spared hspared

/-- An act that leaves the record and the stage alone. -/
theorem Kept.snoc (h : Kept key acts stage entry) (ha : a ≠ .finish key)
    (hfollows : Follows entry entry') : Kept key (acts ++ [a]) stage entry' where
  recorded := h.recorded_snoc a hfollows
  blank hstage := h.blank_follows hstage hfollows
  made machine hmade := ⟨(h.made machine hmade).1, (h.made machine hmade).2.snoc ha⟩
  ready machine ip hready := ⟨(h.ready machine ip hready).1, (h.ready machine ip hready).2.snoc a⟩

theorem Kept.finish (h : Kept key acts stage entry) :
    Kept key (acts ++ [.finish key]) .idle entry where
  recorded := h.recorded_snoc _ fun s hs => Or.inr ⟨s, hs, fun _ _ => rfl⟩
  blank hidle := absurd rfl hidle
  made := nofun
  ready := nofun

/-- Whoever sees that nothing is recorded may make something. -/
theorem Kept.seeing {service : Service} (h : Kept key acts stage (some service)) :
    Kept key acts (.seeing service) (some service) := by
  unfold Stage.seeing
  split
  · exact h.idle
  · rename_i hunrecorded
    refine ⟨h.recorded, fun _ service' hservice' => ?_, nofun, nofun⟩
    obtain rfl := Option.some.inj hservice'
    obtain hblank | ⟨t, ht, -, hrecords⟩ := h.recorded service rfl
    · exact hblank
    · rw [hrecords.ofService ht] at hunrecorded
      exact absurd rfl hunrecorded

theorem complete_tunnelOf {machine : Machine} {ip : IpAddress} (hmachine : machine.id ≠ "")
    (hip : ip.id ≠ "" ∧ ip.address ≠ "") :
    (Lifecycle.tunnelOf (appOf key) (deploymentOf key) machine ip).Complete where
  appName := by
    unfold Lifecycle.tunnelOf appOf
    exact Name.derive_ne_empty (by decide) key.ns key.name
  machineId := hmachine
  deploymentName := by
    unfold Lifecycle.tunnelOf deploymentOf
    exact Name.derive_ne_empty (by decide) key.ns key.name
  ipId := hip.1
  publicIp := hip.2

theorem Kept.made_machine {machine : Machine} (h : Kept key acts .making entry)
    (hfollows : Follows entry entry') (hid : machine.id ≠ "") (input : MachineInput) :
    Kept key (acts ++ [.call key (.provider (.createMachine (appOf key) input)) (.ok machine)])
      (.made machine) entry' := by
  refine ⟨h.recorded_snoc _ hfollows, fun _ => h.blank_follows nofun hfollows, ?_, nofun⟩
  intro machine' hmachine'
  cases hmachine'
  exact ⟨hid, acts, input, [], rfl, List.not_mem_nil⟩

theorem Kept.allocated_ip {machine : Machine} {ip : IpAddress}
    (h : Kept key acts (.made machine) entry) (hfollows : Follows entry entry')
    (hip : ip.id ≠ "" ∧ ip.address ≠ "") :
    Kept key (acts ++ [.call key (.provider (.allocateIp (appOf key))) (.ok ip)])
      (.ready machine ip) entry' := by
  refine ⟨h.recorded_snoc _ hfollows, fun _ => h.blank_follows nofun hfollows, nofun, ?_⟩
  intro machine' ip' hready'
  cases hready'
  obtain ⟨hid, hmade⟩ := h.made machine rfl
  exact ⟨complete_tunnelOf hid hip, machine, ip, acts, [], hmade, rfl, rfl⟩

section Calls

variable {w w' : Realm} {c : Call} {r : c.Reply}

/-- A call that records nothing leaves the record alone. -/
theorem spared_call (hanswers : w.Answers c r w')
    (hc : ∀ ns name version annotations,
      c ≠ .service (.patchAnnotations ns name version annotations))
    {service' : Service} (hservice' : w'.cluster.services.get? key = some service') :
    ∃ service, w.cluster.services.get? key = some service ∧ service.Spared service' := by
  obtain ⟨service, version, hservice, rfl | ⟨sc, rfl, -, rfl⟩⟩ := hanswers.stored_before hservice'
  · exact ⟨service, hservice, fun _ _ => rfl⟩
  · refine ⟨service, hservice, ?_⟩
    cases sc with
    | patchAnnotations ns name version annotations => exact absurd rfl (hc _ _ _ _)
    | get | setFinalizers | patchIngress => exact fun _ _ => rfl

theorem follows_call (hanswers : w.Answers c r w')
    (hc : ∀ ns name version annotations,
      c ≠ .service (.patchAnnotations ns name version annotations)) :
    Follows (w.cluster.services.get? key) (w'.cluster.services.get? key) :=
  fun _ hservice' => Or.inr (spared_call hanswers hc hservice')

/-- The one call that records something, and only where nothing is recorded. -/
theorem Kept.record {machine : Machine} {ip : IpAddress} {version : Option String}
    {r : Except OperatorError Unit}
    (h : Kept key acts (.ready machine ip) (w.cluster.services.get? key))
    (hanswers : w.Answers (.service (.patchAnnotations key.ns key.name version
      (TunnelRecord.ofTunnel (Lifecycle.tunnelOf (appOf key) (deploymentOf key) machine
        ip)).toAnnotations)) r w') (a : Act) :
    Kept key (acts ++ [a]) .idle (w'.cluster.services.get? key) := by
  refine ⟨fun service' hservice' => ?_, fun hidle => absurd rfl hidle, nofun, nofun⟩
  obtain ⟨ht, hmade⟩ := h.ready machine ip rfl
  obtain ⟨service, stamp, hservice, rfl | ⟨sc, hsc, -, rfl⟩⟩ := hanswers.stored_before hservice'
  · exact Or.inl ((h.blank nofun service hservice).spared fun _ _ => rfl)
  · cases hsc
    exact Or.inr ⟨_, ht, hmade.snoc a, (service.records_merge _).spared fun _ _ => rfl⟩

/-- Every call of a pass leaves things as they should be. -/
theorem Kept.call (h : Kept key acts stage (w.cluster.services.get? key))
    (hanswers : w.Answers c r w') (hpermits : (contract key).permits stage c)
    (hfilled : c.Filled r) : Kept key (acts ++ [.call key c r]) (stage.next c r)
      (w'.cluster.services.get? key) := by
  have hseen : ∀ ns name service, (⟨ns, name⟩ : ObjectKey) = key →
      w.cluster.services.get? ⟨ns, name⟩ = some service →
      Kept key acts (.seeing service) (w.cluster.services.get? key) := by
    rintro ns name service rfl hfound
    rw [hfound] at h ⊢
    exact h.seeing
  unfold Stage.next
  split
  · rename_i ns name service
    exact (hseen ns name service hpermits hanswers.found.1).snoc nofun
      (follows_call hanswers nofun)
  · rename_i ns name service
    exact (hseen ns name service hpermits hanswers.found.1).snoc nofun
      (follows_call hanswers nofun)
  · obtain ⟨-, rfl⟩ := hpermits
    exact h.made_machine (follows_call hanswers nofun) hfilled _
  · obtain ⟨-, rfl⟩ := hpermits
    exact h.allocated_ip (follows_call hanswers nofun) hfilled
  · obtain ⟨rfl, _, _, hready, rfl⟩ := hpermits
    cases hready
    exact h.record hanswers _
  · rename_i hrecording
    refine h.snoc nofun (follows_call hanswers fun ns name version annotations hc => ?_)
    subst hc
    obtain ⟨-, machine, ip, rfl, -⟩ := hpermits
    exact hrecording machine ip ns name version annotations r rfl rfl HEq.rfl

end Calls

/-! ### What every run keeps -/

section Runs

variable {st st' : ObjectKey → Stage} {s s' : Scene}

/-- What happens to other Services is nothing to this one. -/
theorem aside (hmoves : (rules config cls R).Moves st a st') (hstep : Scene.Step config cls s a s')
    (ha : a.key ≠ key) : st' key = st key ∧ s'.flights key = s.flights key ∧
      s'.realm.cluster.services.get? key = s.realm.cluster.services.get? key := by
  have hother : key ≠ a.key := fun h => ha h.symm
  cases hstep with
  | begin other hidle =>
      cases hmoves
      exact ⟨rfl, Function.update_of_ne hother _ _, rfl⟩
  | call other seen c next r realm hflight hanswers =>
      cases hmoves with
      | call _ _ _ x hpermits hyields =>
          refine ⟨Function.update_of_ne hother _ _, Function.update_of_ne hother _ _, ?_⟩
          obtain hsame | ⟨sc, service, rfl, hsc, -⟩ := hanswers.entry key
          · exact hsame
          · exact absurd (hsc.symm.trans (key_of_permits hpermits)) hother
  | finish other flight hflight =>
      cases hmoves
      exact ⟨Function.update_of_ne hother _ _, Function.update_of_ne hother _ _, rfl⟩
  | change other cluster hchanges =>
      cases hmoves
      exact ⟨rfl, rfl, hchanges.elsewhere hother⟩

/-- As long as nobody else has changed the Service since the pass under way began, the pass leaves
the recorded address in the status if it succeeds. -/
def Calm (cls : String) (key : ObjectKey) (acts : List Act) (s : Scene) : Prop :=
  ∀ before during flight, acts = before ++ .begin key :: during → .change key ∉ during →
    s.flights key = some flight → flight.rest.Keeps (Shown.contract key)
      (Program.Outcome (fun _ => Shown.Shows cls) fun _ => True)
      (s.realm.cluster.services.get? key)

theorem kept_step (h : Kept key acts (st key) (s.realm.cluster.services.get? key))
    (hstep : Scene.Step config cls s a s') (hR : regime key s a s')
    (hmoves : (rules config cls R).Moves st a st') :
    Kept key (acts ++ [a]) (st' key) (s'.realm.cluster.services.get? key) := by
  have hstill : Follows (s.realm.cluster.services.get? key)
      (s.realm.cluster.services.get? key) :=
    fun service hservice => Or.inr ⟨service, hservice, fun _ _ => rfl⟩
  by_cases ha : a.key = key
  · subst ha
    cases hstep with
    | begin key hidle =>
        cases hmoves
        exact h.snoc nofun hstill
    | call key seen c next r realm hflight hanswers =>
        cases hmoves with
        | call _ _ _ x hpermits hyields =>
            obtain ⟨rfl, -⟩ := hyields
            simp only [Act.key, Function.update_self]
            exact h.call hanswers hpermits hR
    | finish key flight hflight =>
        cases hmoves
        simp only [Act.key, Function.update_self]
        exact h.finish
    | change key cluster hchanges =>
        cases hmoves
        refine h.snoc nofun fun service' hservice' => ?_
        have hspares := hR rfl service' hservice'
        split at hspares
        · rename_i service hservice
          exact Or.inr ⟨service, hservice, hspares⟩
        · exact Or.inl hspares
  · obtain ⟨hst, -, hentry⟩ := aside hmoves hstep ha
    rw [hst, hentry]
    exact h.snoc (fun hfinish => ha (by rw [hfinish]; rfl)) hstill

theorem calm_step (h : Calm cls key acts s) (hintact : Intact (s.realm.cluster.services.get? key))
    (hstep : Scene.Step config cls s a s') (hmoves : (rules config cls R).Moves st a st') :
    Calm cls key (acts ++ [a]) s' := by
  intro before during flight hacts hchange hflight
  by_cases hbegin : a = .begin key
  · -- a pass that begins has all of it before it
    subst hbegin
    cases hstep with
    | begin _ hidle =>
        simp only [Function.update_self, Option.some.injEq] at hflight
        rw [← hflight]
        exact Shown.keeps_pass
  obtain rfl | ⟨earlier, last, rfl⟩ := during.eq_nil_or_concat
  · exact absurd (List.append_singleton_inj.mp hacts).2 hbegin
  rw [List.concat_eq_append] at hacts hchange
  rw [← List.cons_append, ← List.append_assoc, List.append_singleton_inj] at hacts
  obtain ⟨rfl, rfl⟩ := hacts
  rw [List.mem_append, List.mem_singleton, not_or] at hchange
  have hcalm := fun flight => h before earlier flight rfl hchange.1
  by_cases ha : a.key = key
  · subst ha
    cases hstep with
    | begin key hidle => exact absurd rfl hbegin
    | call key seen c next r realm hflight' hanswers =>
        simp only [Act.key, Function.update_self, Option.some.injEq] at hflight
        rw [← hflight]
        exact (hcalm _ hflight').2 r _ ⟨hintact, s.realm, realm, rfl, rfl, hanswers⟩
    | finish key flight' hflight' =>
        simp only [Act.key, Function.update_self, reduceCtorEq] at hflight
    | change key cluster hchanges => exact absurd rfl hchange.2
  · obtain ⟨-, hsame, hentry⟩ := aside hmoves hstep ha
    rw [hentry]
    exact hcalm flight (hsame ▸ hflight)

/-! ### Once there is a record -/

/-- As in `regime`, and the Service stays. -/
def staying (key : ObjectKey) : Scene.Regime := fun s a s' =>
  regime key s a s' ∧ ∃ service, s'.realm.cluster.services.get? key = some service

/-- A pass that has nothing in hand has nothing made. -/
theorem not_makes_of_idle {c : Call} (hpermits : (contract key).permits .idle c)
    {pc : ProviderCall} (hpc : c.provider? = some pc) : ¬ pc.Makes := by
  intro hmakes
  cases c with
  | provider =>
      cases hpc
      cases pc with
      | ensureApp => cases hpermits
      | createMachine => cases hpermits.1
      | allocateIp =>
          obtain ⟨⟨machine, hmade⟩, -⟩ := hpermits
          cases hmade
      | _ => exact hmakes
  | providerWithin =>
      cases hpc
      exact hpermits hmakes
  | workload => cases hpc
  | service => cases hpc

/-- A pass that has nothing in hand and sees a record goes on so. -/
theorem next_idle {w w' : Realm} {c : Call} {r : c.Reply} {t : Tunnel} {service : Service}
    (hanswers : w.Answers c r w') (hpermits : (contract key).permits .idle c)
    (hservice : w.cluster.services.get? key = some service) (ht : t.Complete)
    (hrecords : service.Records t) : Stage.idle.next c r = .idle := by
  unfold Stage.next
  split
  · rename_i ns name found _
    obtain rfl : (⟨ns, name⟩ : ObjectKey) = key := hpermits
    rw [hanswers.found.1, Option.some.injEq] at hservice
    rw [hservice, Stage.seeing, hrecords.ofService ht]
    rfl
  all_goals first | rfl | (rename_i hidle; cases hidle)

/-- The tunnel is recorded, and no pass has anything in hand. -/
structure Standing (key : ObjectKey) (t : Tunnel) (stage : Stage) (entry : Option Service) :
    Prop where
  idle : stage = .idle
  recorded : ∃ service, entry = some service ∧ service.Records t

/-- What is recorded stays, and nothing is made for it. -/
theorem standing_step {t : Tunnel} (ht : t.Complete)
    (h : Standing key t (st key) (s.realm.cluster.services.get? key))
    (hstep : Scene.Step config cls s a s') (hR : staying key s a s')
    (hmoves : (rules config cls R).Moves st a st') :
    Standing key t (st' key) (s'.realm.cluster.services.get? key) ∧ ¬ a.Makes key := by
  obtain ⟨hidle, service, hservice, hrecords⟩ := h
  obtain ⟨hR, service', hservice'⟩ := hR
  by_cases ha : a.key = key
  · subst ha
    cases hstep with
    | begin key hnone =>
        cases hmoves
        exact ⟨⟨hidle, service, hservice, hrecords⟩, id⟩
    | call key seen c next r realm hflight hanswers =>
        cases hmoves with
        | call _ _ _ x hpermits hyields =>
            obtain ⟨rfl, -⟩ := hyields
            simp only [Act.key, Function.update_self] at hidle hservice hservice' ⊢
            rw [hidle] at hpermits ⊢
            refine ⟨⟨next_idle hanswers hpermits hservice ht hrecords, service', hservice', ?_⟩,
              fun hmakes => ?_⟩
            · obtain ⟨old, hold, hspared⟩ := spared_call hanswers (fun _ _ _ _ hc => by
                subst hc
                obtain ⟨-, machine, ip, hready, -⟩ := hpermits
                cases hready) hservice'
              rw [hservice, Option.some.injEq] at hold
              exact (hold ▸ hrecords).spared hspared
            · obtain ⟨-, pc, hpc, hpcMakes⟩ := hmakes
              exact not_makes_of_idle hpermits hpc hpcMakes
    | finish key flight hflight =>
        cases hmoves
        exact ⟨⟨Function.update_self _ _ _, service, hservice, hrecords⟩, id⟩
    | change key cluster hchanges =>
        cases hmoves
        have hspared := hR rfl service' hservice'
        rw [hservice] at hspared
        exact ⟨⟨hidle, service', hservice', hrecords.spared hspared⟩, id⟩
  · obtain ⟨hst, -, hentry⟩ := aside hmoves hstep ha
    rw [hst, hentry]
    refine ⟨⟨hidle, service, hservice, hrecords⟩, fun hmakes => ?_⟩
    cases a with
    | call other c r => exact ha hmakes.1
    | begin | finish | change => exact hmakes

end Runs

end Ledger

/-! ### All together -/

/-- The record of the Service is all or nothing, and is written once. -/
structure WrittenOnce (config : TunnelConfig) (cls : String) (key : ObjectKey) (acts : List Act)
    (s : Scene) : Prop where
  /-- Nothing is recorded, or a tunnel no part of which is empty, made in one pass. -/
  whole : ∀ service, s.realm.cluster.services.get? key = some service → service.Blank ∨
    ∃ t : Tunnel, t.Complete ∧ Ledger.MadeIn key acts t ∧ service.Records t
  /-- What is recorded stays as long as the Service does, and no pass has anything made for it. -/
  once : ∀ service t later s', s.realm.cluster.services.get? key = some service →
    service.Records t → Scene.Run config cls (Ledger.staying key) s later s' →
    (∃ service', s'.realm.cluster.services.get? key = some service' ∧ service'.Records t) ∧
      ∀ a ∈ later, ¬ a.Makes key
  /-- A pass over the Service that was not disturbed and succeeded leaves the recorded address in
  the status. -/
  shown : ∀ before during seen, acts = before ++ .begin key :: during → .change key ∉ during →
    s.flights key = some ⟨seen, .done (.ok ())⟩ →
    Shown.Shows cls (s.realm.cluster.services.get? key)

/-- **All or nothing, and once.** Begin with nothing recorded on a Service. Let passes over all
Services go on, one at a time over each, with failures anywhere and with changes by others that
leave the record alone. Then at any time all of the record is there or nothing of it, and what is
there was made in one pass; it stays, and nothing is made for the Service any more; and a pass that
succeeds undisturbed shows the recorded address. -/
theorem record_written_once {config : TunnelConfig} {cls : String} {key : ObjectKey}
    {s₀ s : Scene} {acts : List Act} (hidle : ∀ other, s₀.flights other = none)
    (hnamed : s₀.realm.Named)
    (hblank : ∀ service, s₀.realm.cluster.services.get? key = some service → service.Blank)
    (hrun : Scene.Run config cls (Ledger.regime key) s₀ acts s) :
    WrittenOnce config cls key acts s := by
  have hbegun : (Ledger.rules config cls (Ledger.regime key)).Holds (fun _ => .idle) s₀ :=
    Scene.Rules.holds_idle _ hidle hnamed
  have hfirst : Ledger.Kept key [] .idle (s₀.realm.cluster.services.get? key) :=
    ⟨fun service hservice => Or.inl (hblank service hservice), fun h => absurd rfl h, nofun, nofun⟩
  have hcalm : Ledger.Calm cls key [] s₀ := by
    intro before during flight hacts
    cases before <;> cases hacts
  obtain ⟨st, hholds, hkept, hcalm⟩ := hbegun.run
    (E := fun acts st s => Ledger.Kept key acts (st key) (s.realm.cluster.services.get? key) ∧
      Ledger.Calm cls key acts s)
    (fun _ h hstep hR hmoves => ⟨Ledger.kept_step h.1 hstep hR hmoves,
      Ledger.calm_step h.2 h.1.intact hstep hmoves⟩) ⟨hfirst, hcalm⟩ hrun
  refine ⟨hkept.recorded, fun service t later s' hservice hrecords hlater => ?_,
    fun before during seen hacts hchange hflight =>
      hcalm before during _ hacts hchange hflight⟩
  obtain hblank | ⟨t', ht, -, hrecords'⟩ := hkept.recorded service hservice
  · exact absurd hrecords hblank.not_records
  obtain rfl := hrecords.unique hrecords'
  have hst : st key = .idle := by
    by_contra hbusy
    exact (hkept.blank hbusy service hservice).not_records hrecords
  have hholds' : (Ledger.rules config cls (Ledger.staying key)).Holds st s :=
    ⟨hholds.inv, hholds.idle, hholds.keeps⟩
  obtain ⟨st', -, hstanding, hmakes⟩ := hholds'.run
    (E := fun acts st s => Ledger.Standing key t (st key) (s.realm.cluster.services.get? key) ∧
      ∀ a ∈ acts, ¬ a.Makes key)
    (fun _ h hstep hR hmoves => by
      obtain ⟨hstanding, hmakes⟩ := Ledger.standing_step ht h.1 hstep hR hmoves
      refine ⟨hstanding, fun a ha => ?_⟩
      obtain ha | ha := List.mem_append.mp ha
      · exact h.2 a ha
      · rw [List.mem_singleton.mp ha]
        exact hmakes)
    ⟨⟨hst, service, hservice, hrecords⟩, List.forall_mem_nil _⟩ hlater
  exact ⟨hstanding.recorded, hmakes⟩

/-- The cloud gives out nothing empty. -/
theorem Call.filled_perform (c : Call) (site : Site) : c.Filled (Site.perform c site).1 := by
  cases c with
  | provider pc =>
      cases pc with
      | createMachine app input =>
          simp only [Site.perform, Cloud.perform]
          split
          · exact Cloud.id_newMachine_ne_empty _ _
          · exact trivial
      | allocateIp app =>
          simp only [Site.perform, Cloud.perform]
          split
          · exact ⟨Cloud.id_newIp_ne_empty _, Cloud.address_newIp_ne_empty _⟩
          · exact trivial
      | _ => exact trivial
  | providerWithin | workload | service => exact trivial

/-- A pass sets a tunnel up, and the record of it is there. -/
theorem record_written_once_web :
    let key : ObjectKey := ⟨"default", "web"⟩
    ∃ acts s, Scene.Run sampleConfig "fly" (Ledger.regime key)
        (Scene.untouched (.sample ["web"])) acts s ∧
      (∃ service t, s.realm.cluster.services.get? key = some service ∧ service.Records t) ∧
      WrittenOnce sampleConfig "fly" key acts s := by
  intro key
  have hstored : (Cluster.sample ["web"]).services.get? key =
      some ((sampleService "web").stamped (some (toString 1))) := Dict.get?_insert_self _ _ _
  have hblank : ∀ service, (Cluster.sample ["web"]).services.get? key = some service →
      service.Blank := by
    intro service hservice
    rw [hstored, Option.some.injEq] at hservice
    rw [← hservice]
    exact fun _ _ => rfl
  have hstart : Scene.Reach sampleConfig "fly" (Ledger.regime key)
      (Scene.untouched (.sample ["web"])) (Scene.untouched (.sample ["web"])) := .refl
  obtain ⟨w, seen, hdepicts, hreach⟩ := Scene.Reach.pass key (fun _ _ => trivial)
    (fun _ _ c site => c.filled_perform site) hstart (Scene.depicts_untouched _) rfl 20
  obtain ⟨acts, hrun⟩ := hreach.run
  have honce := record_written_once (fun _ => rfl) (Scene.fresh_sample ["web"]).named hblank hrun
  refine ⟨acts, _, hrun, ?_, honce⟩
  have hends : ((w.cluster.services.get? key).filter fun service =>
      (TunnelRecord.ofService service).isProvisioned).isSome = true := by
    rw [hdepicts.2]
    decide +kernel
  obtain ⟨service, hservice⟩ := Option.isSome_iff_exists.mp hends
  obtain ⟨hfound, hprovisioned⟩ := Option.filter_eq_some_iff.mp hservice
  obtain hempty | ⟨t, -, -, hrecords⟩ := honce.whole service hfound
  · rw [hempty.not_provisioned] at hprovisioned
    cases hprovisioned
  · exact ⟨service, t, hfound, hrecords⟩

end ServiceTunnel
