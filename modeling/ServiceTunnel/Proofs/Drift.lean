import ServiceTunnel.Proofs.Runs

/-!
# ServiceTunnel.Proofs.Drift

**A machine is changed exactly if it is not as its Service asks.** Keeping in step compares region,
image, listeners and size of the machine that it finds with those that are asked for, and leaves the
machine alone if they agree. The environment and what runs in place of the image's entry point are
not compared. They need not be: they are the same in everything that the operator ever asks for, so
no machine that was made and changed by its requests alone differs in them
(`MachineInput.matchesMachine_iff`).

Where machines come from is a property of the provider's whole past (`Estate.Furnished`). Every call
of a pass keeps it, whatever the settings of the operator are at the time.
-/

namespace ServiceTunnel

open Kube Simulation Program

/-! ### Machines as they are asked for -/

/-- The machine is where it is asked for, with the configuration that is asked for. -/
structure Machine.Follows (m : Machine) (input : MachineInput) : Prop where
  region : m.region = input.region
  config : m.config = input.config

instance (m : Machine) (input : MachineInput) : Decidable (m.Follows input) :=
  decidable_of_iff (m.region = input.region ∧ m.config = input.config)
    ⟨fun h => ⟨h.1, h.2⟩, fun h => ⟨h.region, h.config⟩⟩

namespace MachineInput

/-- What is asked for is what some Service asks for under some settings. -/
def Tailored (input : MachineInput) : Prop :=
  ∃ service config, input = ofService service config

theorem tailored_ofService (service : Service) (config : TunnelConfig) :
    (ofService service config).Tailored := ⟨service, config, rfl⟩

/-- What is not compared is the same in everything that is asked for. -/
theorem Tailored.uncompared {a b : MachineInput} (ha : a.Tailored) (hb : b.Tailored) :
    a.config.env = b.config.env ∧ a.config.init = b.config.init := by
  obtain ⟨service, config, rfl⟩ := ha
  obtain ⟨service', config', rfl⟩ := hb
  exact ⟨rfl, rfl⟩

/-- Of a machine that follows an earlier request, what is compared tells all. -/
theorem matchesMachine_iff {asked earlier : MachineInput} {m : Machine} (hasked : asked.Tailored)
    (hearlier : earlier.Tailored) (hm : m.Follows earlier) :
    asked.matchesMachine m = true ↔ m.Follows asked := by
  obtain ⟨henv, hinit⟩ := hasked.uncompared hearlier
  rw [← hm.config] at henv hinit
  constructor
  · intro hmatches
    simp only [matchesMachine, Bool.and_eq_true, beq_iff_eq] at hmatches
    obtain ⟨⟨⟨hregion, himage⟩, hservices⟩, hguest⟩ := hmatches
    refine ⟨hregion, ?_⟩
    rw [MachineConfig.mk.injEq]
    exact ⟨himage, henv.symm, hservices, hguest, hinit.symm⟩
  · intro h
    simp [matchesMachine, h.region, h.config]

end MachineInput

/-! ### Where machines come from -/

namespace ProviderCall

/-- What a call asks for, if it has a machine made or changed. -/
def input? : ProviderCall → Option MachineInput
  | .createMachine _ input | .updateMachine _ _ input => some input
  | _ => none

end ProviderCall

namespace Estate

theorem held_setMachine {e : Estate} {id other app : String} {s : Slot Machine} {m : Machine}
    (h : (e.setMachine id s).machines other = .held app m) :
    s = .held app m ∨ e.machines other = .held app m := by
  by_cases hid : other = id
  · rw [hid, machines_setMachine_self] at h
    exact Or.inl h
  · rw [machines_setMachine_ne e hid] at h
    exact Or.inr h

/-- A machine after a call is where it was before, as it was configured before, or it follows what
the call asks for. -/
theorem Carries.follows {e e' : Estate} {c : ProviderCall} {r : c.Result} (h : e.Carries c r e')
    {id app : String} {m : Machine} (hm : e'.machines id = .held app m) :
    (∃ id' m', e.machines id' = .held app m' ∧ m.region = m'.region ∧ m.config = m'.config) ∨
      ∃ input, c.input? = some input ∧ m.Follows input := by
  cases c with
  | ensureApp app' org => cases h; exact Or.inl ⟨id, m, hm, rfl, rfl⟩
  | deleteApp app' =>
      cases h
      exact Or.inl ⟨id, m, (Slot.clearOf_eq_held.mp hm).1, rfl, rfl⟩
  | createMachine app' input =>
      obtain ⟨-, -, hmade, rfl⟩ := h
      rcases held_setMachine hm with hnew | hold
      · cases hnew
        exact Or.inr ⟨input, rfl, hmade.2.1, hmade.2.2⟩
      · exact Or.inl ⟨id, m, hold, rfl, rfl⟩
  | getMachine app' at_ => obtain ⟨-, rfl⟩ := h; exact Or.inl ⟨id, m, hm, rfl, rfl⟩
  | updateMachine app' at_ input =>
      obtain ⟨old, -, rfl, rfl⟩ := h
      rcases held_setMachine hm with hnew | hold
      · cases hnew
        exact Or.inr ⟨input, rfl, rfl, rfl⟩
      · exact Or.inl ⟨id, m, hold, rfl, rfl⟩
  | deleteMachine app' at_ =>
      cases h
      rcases held_setMachine hm with hgone | hold
      · exact absurd hgone (Slot.clear_ne_held _ _ _)
      · exact Or.inl ⟨id, m, hold, rfl, rfl⟩
  | waitForMachine app' at_ inst state seconds =>
      obtain ⟨owner, old, hheld, rfl⟩ := h
      rcases held_setMachine hm with hstarted | hold
      · cases hstarted
        exact Or.inl ⟨at_, old, hheld, rfl, rfl⟩
      · exact Or.inl ⟨id, m, hold, rfl, rfl⟩
  | allocateIp app' => obtain ⟨-, -, rfl⟩ := h; exact Or.inl ⟨id, m, hm, rfl, rfl⟩
  | releaseIp app' at_ => cases h; exact Or.inl ⟨id, m, hm, rfl, rfl⟩
  | listIps app' => obtain ⟨-, -, rfl⟩ := h; exact Or.inl ⟨id, m, hm, rfl, rfl⟩

/-- The estates that come about from those without machines, where machines are made and changed
only as some Service asks under some settings. Calls come from anyone, and any may fail, whether or
not it was carried out. -/
inductive Furnished : Estate → Prop where
  | bare {e : Estate} (hbare : ∀ id app m, e.machines id ≠ .held app m) : Furnished e
  | call {e e' : Estate} {c : ProviderCall} {r : Except ProviderError c.Result}
    (h : Furnished e) (hc : ∀ input, c.input? = some input → input.Tailored)
    (hanswers : e.Answers c r e') : Furnished e'

/-- Every machine follows a request made for some Service. -/
theorem Furnished.follows {e : Estate} (h : e.Furnished) {id app : String} {m : Machine}
    (hm : e.machines id = .held app m) : ∃ input, input.Tailored ∧ m.Follows input := by
  induction h generalizing id app m with
  | bare hbare => exact absurd hm (hbare id app m)
  | call _ hc hanswers ih =>
      obtain rfl | ⟨a, hcarries⟩ := hanswers.effect
      · exact ih hm
      · obtain ⟨id', m', hm', hregion, hconfig⟩ | ⟨input, hinput, hfollows⟩ := hcarries.follows hm
        · obtain ⟨input, htailored, hfollows⟩ := ih hm'
          exact ⟨input, htailored, hregion.trans hfollows.region, hconfig.trans hfollows.config⟩
        · exact ⟨input, hc input hinput, hfollows⟩

end Estate

/-! ### What passes ask for -/

/-- The call has a machine made or changed only as some Service asks. -/
def Call.Tailors (c : Call) : Prop :=
  ∀ pc input, c.provider? = some pc → pc.input? = some input → input.Tailored

theorem Realm.Answers.furnished {w w' : Realm} {c : Call} {r : c.Reply} (h : w.Answers c r w')
    (hc : c.Tailors) (hw : w.estate.Furnished) : w'.estate.Furnished := by
  obtain hsame | ⟨pc, a, hpc, hcarries⟩ := h.estate
  · rw [hsame]
    exact hw
  · have hanswers : w.estate.Answers pc (.ok a) w'.estate := hcarries
    exact hw.call (fun input => hc pc input hpc) hanswers

namespace Drift

variable {config : TunnelConfig} {service : Service} {ns name : String}

theorem allows_call {c : Call} (hc : ∀ pc, c.provider? = some pc → pc.input? = none) :
    (only Call.Tailors).Allows (fun _ => True) c := by
  refine allows_only fun pc input hpc hinput => ?_
  rw [hc pc hpc] at hinput
  cases hinput

theorem allows_provider {pc : ProviderCall} (h : pc.input? = none) :
    (only Call.Tailors).Allows (fun _ => True) (.provider pc) :=
  allows_call fun pc' hpc' => by
    cases hpc'
    exact h

theorem allows_request {pc : ProviderCall} (h : pc.input? = some (.ofService service config)) :
    (only Call.Tailors).Allows (fun _ => True) (.provider pc) := by
  refine allows_only fun pc' input hpc hinput => ?_
  cases hpc
  rw [h, Option.some.injEq] at hinput
  rw [← hinput]
  exact MachineInput.tailored_ofService service config

theorem allows_workload (c : WorkloadCall) :
    (only Call.Tailors).Allows (fun _ => True) (.workload c) :=
  allows_call nofun

theorem stable_service (c : ServiceCall) :
    (Operation.service c).Stable (only Call.Tailors) (fun _ => True) :=
  Operation.stable_service (allows_call nofun)

theorem stable_provision :
    (Lifecycle.provision config service).Stable (only Call.Tailors) (fun _ => True) :=
  Lifecycle.stable_provision_of_calls rfl (allows_provider rfl) (allows_request rfl)
    (fun _ => allows_call fun _ hpc => by cases hpc; rfl) (allows_provider rfl) allows_workload
    (fun _ => allows_provider rfl) (fun _ => allows_provider rfl) (allows_provider rfl)

theorem stable_teardown :
    (Lifecycle.teardown config service).Stable (only Call.Tailors) (fun _ => True) :=
  Lifecycle.stable_teardown_of_calls allows_workload (fun _ _ => allows_provider rfl)
    (fun _ => allows_provider rfl) (fun _ _ => allows_provider rfl) fun _ => allows_provider rfl

theorem stable_update :
    (Lifecycle.update config service).Stable (only Call.Tailors) (fun _ => True) :=
  Lifecycle.stable_update
    (fun _ _ _ _ _ _ => Lifecycle.stable_applyWorkload (allows_workload _) (allows_workload _))
    fun _ _ _ _ => Lifecycle.stable_updateMachine (allows_provider rfl) (allows_request rfl)

theorem stable_finalize :
    (Reconcile.finalize config service ns name).Stable (only Call.Tailors) (fun _ => True) := by
  refine stable_teardown.bind fun _ => ?_
  split
  · exact stable_service _
  · exact stable_done _ _

theorem stable_establish :
    (Reconcile.establish config service ns name).Stable (only Call.Tailors) (fun _ => True) := by
  refine Reconcile.stable_andThen stable_provision fun tunnel => ?_
  refine Reconcile.stable_andThen (stable_service (.get ns name)) fun found => ?_
  cases found with
  | none => exact stable_teardown.bind fun _ => stable_done _ _
  | some current => exact Reconcile.stable_andThen (stable_service _) fun _ => stable_service _

theorem stable_serve :
    (Reconcile.serve config service ns name).Stable (only Call.Tailors) (fun _ => True) := by
  unfold Reconcile.serve
  split
  · exact Reconcile.stable_maintain (fun _ _ _ => allows_call nofun) stable_update
  · exact stable_establish

/-- Whatever a pass finds, it has machines made and changed only as Services ask. -/
theorem keeps_pass (config : TunnelConfig) (cls ns name : String) :
    (Reconcile.pass config cls ns name).Keeps (only Call.Tailors) (fun _ _ => True) () := by
  have hservice : ∀ c : ServiceCall, Call.Tailors (.service c) := fun _ _ _ hpc => by cases hpc
  refine Reconcile.keeps_pass (hservice _) (fun _ _ _ _ => stable_finalize _ trivial)
    (fun _ _ _ _ _ => stable_serve _ trivial) fun _ _ _ _ _ => ?_
  refine ⟨hservice _, fun (r : Except OperatorError Unit) _ _ => ?_⟩
  cases r with
  | ok => exact ⟨hservice _, fun _ _ _ => stable_serve _ trivial⟩
  | error e => exact trivial

/-- Passes over all Services of a class, under settings that stay the same. -/
def rules (config : TunnelConfig) (cls : String) (R : Scene.Regime) :
    Scene.Rules config cls R Unit where
  contract _ := only Call.Tailors
  idle := ()
  inv _ s := s.realm.estate.Furnished
  pass_keeps key := keeps_pass config cls key.ns key.name
  begin_inv h hstep _ _ := by cases hstep; exact h
  call_inv h hstep _ hpermits := by
    cases hstep with
    | call key seen c next r realm hflight hanswers =>
        exact ⟨(), trivial, hanswers.furnished hpermits h⟩
  finish_inv h hstep _ _ := by cases hstep; exact h
  change_inv h hstep _ := by cases hstep; exact h

end Drift

/-- While an operator runs, machines are made and changed only as Services ask. With other settings
another operator may go on from there. -/
theorem Scene.Reach.furnished {config : TunnelConfig} {cls : String} {R : Scene.Regime}
    {s₀ s : Scene} (h : Scene.Reach config cls R s₀ s) (hidle : ∀ key, s₀.flights key = none)
    (h₀ : s₀.realm.estate.Furnished) : s.realm.estate.Furnished := by
  obtain ⟨_, hholds⟩ := (Drift.rules config cls R).sound hidle h₀ h
  exact hholds.inv

/-! ### Keeping in step -/

/-- The change of a machine that is asked for in a call. -/
def Drift.changeAsked? : Call.interface.Event → Option ProviderCall
  | ⟨.provider (.updateMachine app id input), _⟩
  | ⟨.providerWithin _ (.updateMachine app id input), _⟩ => some (.updateMachine app id input)
  | _ => none

namespace Lifecycle

variable {σ : Type} {answers : σ → (c : Call) → c.Reply → σ → Prop} {s t : σ}
  {events : List Call.interface.Event} {config : TunnelConfig} {service : Service}

theorem runs_applyWorkload_ok {w : Workload}
    (h : (applyWorkload w).Runs answers s events (.ok ()) t) :
    ∃ m, events = [⟨.workload (.applyConfigMap w.configMap), (.ok () : Except OperatorError Unit)⟩,
        ⟨.workload (.applyDeployment w.deployment), (.ok () : Except OperatorError Unit)⟩] ∧
      answers s (.workload (.applyConfigMap w.configMap)) (.ok ()) m ∧
      answers m (.workload (.applyDeployment w.deployment)) (.ok ()) t := by
  obtain ⟨first, rest, _, m, rfl, hfirst, hrest⟩ := runs_bind_ok h fun e => ⟨e, rfl⟩
  obtain ⟨rfl, hmap⟩ := Operation.runs_workload.mp hfirst
  obtain ⟨rfl, hdeployment⟩ := Operation.runs_workload.mp hrest
  exact ⟨m, rfl, hmap, hdeployment⟩

/-- Keeping in step succeeds if the client is stored and the recorded machine, if there is one, is
looked after. -/
theorem runs_update_ok (h : (update config service).Runs answers s events (.ok ()) t) :
    ∃ address name app requirements first rest m,
      (TunnelRecord.ofService service).publicIp = some address ∧
      (TunnelRecord.ofService service).frpcDeployment = some name ∧
      (TunnelRecord.ofService service).flyApp = some app ∧
      Lifecycle.requirements service = .ok requirements ∧ events = first ++ rest ∧
      (applyWorkload (workload config service name address requirements)).Runs answers s first
        (.ok ()) m ∧
      ∀ id, (TunnelRecord.ofService service).machineId = some id →
        (updateMachine config service app id).Runs answers m rest (.ok ()) t := by
  unfold update at h
  dsimp only at h
  split at h
  · rename_i address name app haddress hname happ
    split at h
    · obtain ⟨-, hr, -⟩ := runs_done.mp h
      cases hr
    rename_i requirements hrequirements
    obtain ⟨first, rest, _, m, rfl, hfirst, hrest⟩ := runs_bind_ok h fun e => ⟨e, rfl⟩
    refine ⟨address, name, app, requirements, first, rest, m, haddress, hname, happ,
      hrequirements, rfl, hfirst, fun id hid => ?_⟩
    rw [hid] at hrest
    exact hrest
  · obtain ⟨-, hr, -⟩ := runs_done.mp h
    cases hr

/-- Looking after a machine succeeds if the machine is found, and changed where it does not
match. -/
theorem runs_updateMachine_ok {app id : String}
    (h : (updateMachine config service app id).Runs answers s events (.ok ()) t) :
    ∃ (machine : Machine) (rest : List Call.interface.Event) (m : σ),
      events = ⟨.provider (.getMachine app id), (.ok machine : Except ProviderError Machine)⟩
        :: rest ∧
      answers s (.provider (.getMachine app id)) (.ok machine) m ∧
      if (MachineInput.ofService service config).matchesMachine machine then rest = [] ∧ t = m
      else ∃ changed : Machine,
        rest = [⟨.provider (.updateMachine app id (.ofService service config)),
          (.ok changed : Except ProviderError Machine)⟩] ∧
        answers m (.provider (.updateMachine app id (.ofService service config))) (.ok changed)
          t := by
  obtain ⟨first, rest, machine, m, rfl, hfirst, hrest⟩ := runs_bind_ok h fun e => ⟨e, rfl⟩
  obtain ⟨rfl, hget⟩ := Operation.runs_provider_ok hfirst
  refine ⟨machine, rest, m, rfl, hget, ?_⟩
  dsimp only at hrest
  split at hrest
  · rename_i hmatches
    obtain ⟨rfl, -, rfl⟩ := runs_done.mp hrest
    rw [if_pos hmatches]
    exact ⟨rfl, rfl⟩
  · rename_i hdiffers
    rw [if_neg hdiffers]
    obtain ⟨second, last, changed, n, rfl, hsecond, hlast⟩ :=
      runs_bind_ok hrest fun e => ⟨e, rfl⟩
    obtain ⟨rfl, hchange⟩ := Operation.runs_provider_ok hsecond
    obtain ⟨rfl, -, rfl⟩ := runs_done.mp hlast
    exact ⟨changed, rfl, hchange⟩

end Lifecycle

/-- Writing a client changes nothing at the provider. -/
theorem Lifecycle.estate_of_runs_applyWorkload {w w' : Realm} {load : Workload}
    {events : List Call.interface.Event}
    (h : (applyWorkload load).Runs Realm.Answers w events (.ok ()) w') :
    w'.estate = w.estate ∧ events.filterMap Drift.changeAsked? = [] := by
  obtain ⟨m, rfl, hmap, hdeployment⟩ := runs_applyWorkload_ok h
  exact ⟨hdeployment.1.trans hmap.1, rfl⟩

/-- A machine that has come about by requests for Services is changed exactly if it does not follow
the present one, and follows it afterwards. -/
theorem Lifecycle.machine_of_runs_updateMachine {config : TunnelConfig} {service : Service}
    {app id : String} {w w' : Realm} {events : List Call.interface.Event}
    (hfurnished : w.estate.Furnished)
    (h : (updateMachine config service app id).Runs Realm.Answers w events (.ok ()) w') :
    let input := MachineInput.ofService service config
    ∃ before, w.estate.machineOf? app id = some before ∧
      w'.estate.machineOf? app id =
        some { before with region := input.region, config := input.config } ∧
      events.filterMap Drift.changeAsked? =
        if before.Follows input then [] else [.updateMachine app id input] := by
  intro input
  obtain ⟨before, rest, m, rfl, ⟨⟨hbefore, hsame⟩, -⟩, hrest⟩ := runs_updateMachine_ok h
  obtain ⟨earlier, hearlier, hfollows⟩ := hfurnished.follows (Slot.of?_eq_some.mp hbefore)
  have hmatches : input.matchesMachine before = true ↔ before.Follows input :=
    MachineInput.matchesMachine_iff (MachineInput.tailored_ofService service config) hearlier
      hfollows
  refine ⟨before, hbefore, ?_⟩
  by_cases hin : before.Follows input
  · rw [if_pos (hmatches.mpr hin)] at hrest
    obtain ⟨rfl, rfl⟩ := hrest
    rw [if_pos hin, hsame, hbefore, ← hin.region, ← hin.config]
    exact ⟨rfl, rfl⟩
  · rw [if_neg (mt hmatches.mp hin)] at hrest
    obtain ⟨changed, rfl, ⟨old, hold, rfl, hchanged⟩, -⟩ := hrest
    rw [hsame] at hold
    obtain rfl := Option.some.inj (hbefore.symm.trans hold)
    rw [if_neg hin, hchanged, Estate.machineOf?, Estate.machines_setMachine_self]
    exact ⟨Slot.of?_held_self app _, rfl⟩

/-- **A machine is changed exactly if it is not as its Service asks.** All machines at the provider
were made and changed only as Services ask, each under the settings of its time, and keeping in step
succeeds for a Service with a recorded machine. Then that machine was there, and is afterwards where
the Service asks for it under the present settings, with the configuration that it asks for, and
otherwise as it was. A change was asked for if it had been elsewhere or configured in any other way,
and none if not. -/
theorem machine_follows_service {config : TunnelConfig} {service : Service} {id : String}
    {w w' : Realm} {events : List Call.interface.Event} (hfurnished : w.estate.Furnished)
    (hid : (TunnelRecord.ofService service).machineId = some id)
    (hrun : (Lifecycle.update config service).Runs Realm.Answers w events (.ok ()) w') :
    let input := MachineInput.ofService service config
    ∃ app before, (TunnelRecord.ofService service).flyApp = some app ∧
      w.estate.machineOf? app id = some before ∧
      w'.estate.machineOf? app id =
        some { before with region := input.region, config := input.config } ∧
      events.filterMap Drift.changeAsked? =
        if before.Follows input then [] else [.updateMachine app id input] := by
  intro input
  obtain ⟨address, name, app, requirements, first, rest, m, -, -, happ, -, rfl, hfirst, hrest⟩ :=
    Lifecycle.runs_update_ok hrun
  obtain ⟨hsame, hnone⟩ := Lifecycle.estate_of_runs_applyWorkload hfirst
  rw [← hsame] at hfurnished
  obtain ⟨before, hbefore, hafter, hcalls⟩ :=
    Lifecycle.machine_of_runs_updateMachine hfurnished (hrest id hid)
  refine ⟨app, before, happ, hsame ▸ hbefore, hafter, ?_⟩
  rw [List.filterMap_append, hnone, List.nil_append]
  exact hcalls

/-- A pass sets a tunnel up, and the operator comes back with another region and another image: the
machine is moved, and has the new image. -/
theorem machine_follows_service_moved :
    let key : ObjectKey := ⟨"default", "web"⟩
    let tunnel : Tunnel :=
      ⟨"fly-tunnel-default-web", "m1", "137.66.0.2", "ip2", "frpc-default-web"⟩
    let service :=
      (sampleService "web").withAnnotations (TunnelRecord.ofTunnel tunnel).toAnnotations
    let pass := Reconcile.pass sampleConfig "fly" key.ns key.name
    let left := ((World.sample ["web"]).run pass).2
    let moved := { sampleConfig with flyRegion := "ams", frpsImage := "frps:2" }
    let keepUp := Lifecycle.update moved service
    ∃ w w' before, Scene.Reach sampleConfig "fly" (fun _ _ _ => True)
        (Scene.untouched (.sample ["web"])) ⟨w, fun _ => none⟩ ∧
      w.estate.Furnished ∧ (TunnelRecord.ofService service).machineId = some "m1" ∧
      keepUp.Runs Realm.Answers w (left.events keepUp) (.ok ()) w' ∧
      w.estate.machineOf? "fly-tunnel-default-web" "m1" = some before ∧
      w'.estate.machineOf? "fly-tunnel-default-web" "m1" =
        some { before with
          region := "ams"
          config := (MachineInput.ofService service moved).config } ∧
      (left.events keepUp).filterMap Drift.changeAsked? =
        [.updateMachine "fly-tunnel-default-web" "m1" (.ofService service moved)] := by
  intro key tunnel service pass left moved keepUp
  obtain ⟨w, hpass, hdepicts, hfree⟩ :=
    World.runs_of_result (v := World.sample ["web"]) (Scene.depicts_untouched _) rfl pass rfl
  have hreach : Scene.Reach sampleConfig "fly" (fun _ _ _ => True)
      (Scene.untouched (.sample ["web"])) ⟨w, fun _ => none⟩ :=
    Scene.Reach.whole hpass (fun _ _ => trivial) (fun _ _ _ _ => trivial) (fun _ _ _ _ => trivial)
      .refl rfl
  have hfurnished : w.estate.Furnished := hreach.furnished (fun _ => rfl) (.bare nofun)
  obtain ⟨hok, hasked⟩ : (left.run keepUp).1 = .ok () ∧
      (left.events keepUp).filterMap Drift.changeAsked? ≠ [] := by decide +kernel
  obtain ⟨hfound, hid⟩ :
      (TunnelRecord.ofService service).flyApp = some "fly-tunnel-default-web" ∧
        (TunnelRecord.ofService service).machineId = some "m1" := by decide +kernel
  have hregion : (MachineInput.ofService service moved).region = "ams" := by decide +kernel
  obtain ⟨w', hrun, -, -⟩ := World.runs_of_result hdepicts hfree keepUp hok
  obtain ⟨app, before, happ, hbefore, hafter, hcalls⟩ :=
    machine_follows_service hfurnished hid hrun
  obtain rfl := Option.some.inj (hfound.symm.trans happ)
  rw [hregion] at hafter
  refine ⟨w, w', before, hreach, hfurnished, hid, hrun, hbefore, hafter, ?_⟩
  split_ifs at hcalls
  · exact absurd hcalls hasked
  · exact hcalls

end ServiceTunnel
