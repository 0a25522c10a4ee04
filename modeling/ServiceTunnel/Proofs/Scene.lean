import ServiceTunnel.Proofs.Contract
import ServiceTunnel.Proofs.Estate
import ServiceTunnel.Proofs.Storage
import ServiceTunnel.Reconcile

/-!
# ServiceTunnel.Proofs.Scene

**Passes over many Services at once, call by call.** A scene is what exists at the provider and in
the cluster, together with what is left to do of every pass under way. There is at most one pass
over a Service at a time. Between any two calls other passes may make theirs, and users may change
Services; any call may fail, whether or not it was carried out, and a pass may be broken off.

`Rules.sound` is the induction over runs: a contract for the passes of each Service, and an
invariant that ties the states of the contracts to the scene, hold in every scene that comes about.
`Rules.Holds.run` is the same induction for what depends on all that has happened (`Scene.Run`).
-/

namespace ServiceTunnel

open Kube Simulation

/-! ### The world of a pass -/

/-- What exists at the provider and in the cluster. -/
@[ext] structure Realm where
  estate : Estate
  cluster : Cluster

/-- A call that ends as it should, or with an error, carried out or not. -/
def Ends {α σ : Type} (truth : Except OperatorError α × σ) (before : σ)
    (reply : Except OperatorError α) (after : σ) : Prop :=
  (reply, after) = truth ∨ (∃ e, reply = .error e) ∧ (after = before ∨ after = truth.2)

/-- However a call ends, things are as before, or as the call leaves them. -/
theorem Ends.effect {α σ : Type} {truth : Except OperatorError α × σ} {before after : σ}
    {reply : Except OperatorError α} (h : Ends truth before reply after) :
    after = before ∨ after = truth.2 := by
  obtain rfl | ⟨-, h⟩ := h
  · exact Or.inr rfl
  · exact h

theorem Ends.of_ok {α σ : Type} {truth : Except OperatorError α × σ} {before after : σ} {a : α}
    (h : Ends truth before (.ok a) after) : truth = (.ok a, after) := by
  obtain h | ⟨⟨e, he⟩, -⟩ := h
  · exact h.symm
  · cases he

namespace Realm

/-- A call is answered, and leaves the realm `w'`. A call that is given up fails like any other. -/
def Answers (w : Realm) : (c : Call) → c.Reply → Realm → Prop
  | .provider c, r, w' => w.estate.Answers c r w'.estate ∧ w'.cluster = w.cluster
  | .providerWithin _ c, r, w' =>
    match r with
    | some r => w.estate.Answers c r w'.estate ∧ w'.cluster = w.cluster
    | none => (w'.estate = w.estate ∨ ∃ a, w.estate.Carries c a w'.estate) ∧ w'.cluster = w.cluster
  | .workload c, r, w' =>
    w'.estate = w.estate ∧ Ends (.ok (), w.cluster.performWorkload c) w.cluster r w'.cluster
  | .service c, r, w' =>
    w'.estate = w.estate ∧ Ends (w.cluster.performService c) w.cluster r w'.cluster

end Realm

namespace Call

/-- What a call asks the provider for. -/
def provider? : Call → Option ProviderCall
  | .provider c | .providerWithin _ c => some c
  | _ => none

/-- A call is answered with an error. One that is given up has no answer. -/
def Fails : (c : Call) → c.Reply → Prop
  | .provider _, r => ∃ e, r = .error e
  | .providerWithin _ _, r => ∃ e, r = some (.error e)
  | .workload _, r => ∃ e, r = .error e
  | .service _, r => ∃ e, r = .error e

end Call

namespace Realm

/-- A call changes the estate only as the provider carries it out. -/
theorem Answers.estate {w w' : Realm} {c : Call} {r : c.Reply} (h : w.Answers c r w') :
    w'.estate = w.estate ∨
      ∃ pc a, c.provider? = some pc ∧ w.estate.Carries pc a w'.estate := by
  cases c with
  | provider pc =>
      obtain hsame | ⟨a, ha⟩ := h.1.effect
      · exact Or.inl hsame
      · exact Or.inr ⟨pc, a, rfl, ha⟩
  | providerWithin limit pc =>
      have heffect : w'.estate = w.estate ∨ ∃ a, w.estate.Carries pc a w'.estate := by
        cases r with
        | none => exact h.1
        | some r => exact h.1.effect
      obtain hsame | ⟨a, ha⟩ := heffect
      · exact Or.inl hsame
      · exact Or.inr ⟨pc, a, rfl, ha⟩
  | workload wc => exact Or.inl h.1
  | service sc => exact Or.inl h.1

/-- What belongs to an application once belongs to it for good. -/
theorem Answers.owns {w w' : Realm} {c : Call} {r : c.Reply} (h : w.Answers c r w')
    {app : String} {t : Title} (ht : w.estate.Owns app t) : w'.estate.Owns app t := by
  obtain hsame | ⟨pc, a, -, hcarries⟩ := h.estate
  · rw [hsame]
    exact ht
  · exact hcarries.owns ht

/-- A call about one application takes no title out of it. -/
theorem Answers.within {w w' : Realm} {c : Call} {r : c.Reply} {app : String}
    (h : w.Answers c r w') (hc : ∀ pc, c.provider? = some pc → pc.app = app) {t : Title}
    (ht : w.estate.Within app t) : w'.estate.Within app t := by
  obtain hsame | ⟨pc, a, hpc, hcarries⟩ := h.estate
  · rw [hsame]
    exact ht
  · obtain rfl := hc pc hpc
    exact hcarries.within ht

/-- A call about one application, acting on titles of that application only, leaves what exists
of the others. -/
theorem Answers.beside {w w' : Realm} {c : Call} {r : c.Reply} {app : String}
    (h : w.Answers c r w') (hc : ∀ pc, c.provider? = some pc →
      pc.app = app ∧ ∀ t ∈ pc.uses, w.estate.Within app t) : w.estate.Beside app w'.estate := by
  obtain hsame | ⟨pc, a, hpc, hcarries⟩ := h.estate
  · rw [hsame]
    exact .refl app _
  · obtain ⟨rfl, huses⟩ := hc pc hpc
    exact hcarries.beside huses

/-- A call changes the cluster only as the cluster carries it out. -/
theorem Answers.cluster {w w' : Realm} {c : Call} {r : c.Reply} (h : w.Answers c r w') :
    w'.cluster = w.cluster ∨
      (∃ wc, c = .workload wc ∧ w'.cluster = w.cluster.performWorkload wc) ∨
      ∃ sc, c = .service sc ∧ w'.cluster = (w.cluster.performService sc).2 := by
  cases c with
  | provider pc => exact Or.inl h.2
  | providerWithin limit pc => cases r <;> exact Or.inl h.2
  | workload wc =>
      obtain hsame | hdone := h.2.effect
      · exact Or.inl hsame
      · exact Or.inr (Or.inl ⟨wc, rfl, hdone⟩)
  | service sc =>
      obtain hsame | hdone := h.2.effect
      · exact Or.inl hsame
      · exact Or.inr (Or.inr ⟨sc, rfl, hdone⟩)

/-- A Service stays as it is, unless a call about it writes it. -/
theorem Answers.entry {w w' : Realm} {c : Call} {r : c.Reply} (h : w.Answers c r w')
    (key : ObjectKey) : w'.cluster.services.get? key = w.cluster.services.get? key ∨
      ∃ sc s, c = .service sc ∧ sc.key = key ∧ w.cluster.services.get? key = some s ∧
        Cluster.Written sc.edit s (w'.cluster.services.get? key) := by
  obtain hsame | ⟨wc, -, hdone⟩ | ⟨sc, hc, hdone⟩ := h.cluster
  · exact Or.inl (by rw [hsame])
  · exact Or.inl (by rw [hdone, Cluster.services_performWorkload])
  · rw [hdone]
    by_cases hkey : key = sc.key
    · subst hkey
      obtain hsame | ⟨s, hs, hwritten⟩ := w.cluster.performService_entry sc
      · exact Or.inl (by rw [hsame])
      · exact Or.inr ⟨sc, s, hc, rfl, hs, hwritten⟩
    · exact Or.inl ((w.cluster.performService_elsewhere sc).1 key hkey)

/-- A Service that is stored after a call was stored before it. It is the same but for its version,
and for what a call about it has made of it. -/
theorem Answers.stored_before {w w' : Realm} {c : Call} {r : c.Reply} {key : ObjectKey}
    {s' : Service} (h : w.Answers c r w') (hs' : w'.cluster.services.get? key = some s') :
    ∃ s v, w.cluster.services.get? key = some s ∧ (s' = s.stamped v ∨
      ∃ sc, c = .service sc ∧ sc.key = key ∧ s' = (sc.edit s).stamped v) := by
  obtain hsame | ⟨sc, s, hc, hkey, hs, hwritten⟩ := h.entry key
  · exact ⟨s', s'.metadata.resourceVersion, hsame ▸ hs', Or.inl rfl⟩
  · rw [hs'] at hwritten
    obtain ⟨v, rfl⟩ := hwritten.of_some
    exact ⟨s, v, hs, Or.inr ⟨sc, hc, hkey, rfl⟩⟩

/-- A look-up that succeeds tells what is stored, and changes nothing. -/
theorem Answers.found {w w' : Realm} {ns name : String} {found : Option Service}
    (h : w.Answers (.service (.get ns name)) (.ok found) w') :
    w.cluster.services.get? ⟨ns, name⟩ = found ∧ w'.cluster = w.cluster := by
  have htruth : (Except.ok (w.cluster.services.get? ⟨ns, name⟩), w.cluster) =
      (Except.ok found, w'.cluster) := h.2.of_ok
  rw [Prod.mk.injEq, Except.ok.injEq] at htruth
  exact ⟨htruth.1, htruth.2.symm⟩

/-- A write of a client that succeeds is what the cluster makes of it. -/
theorem Answers.cluster_of_ok {w w' : Realm} {c : WorkloadCall}
    (h : w.Answers (.workload c) (.ok ()) w') : w'.cluster = w.cluster.performWorkload c :=
  (congrArg Prod.snd h.2.of_ok).symm

/-- A call is answered, and has no effect at the provider if it fails. -/
structure Honest (w : Realm) (c : Call) (r : c.Reply) (w' : Realm) : Prop where
  answers : w.Answers c r w'
  unharmed : c.Fails r → w'.estate = w.estate

/-- A write to a Service that succeeds has written. -/
theorem Answers.wrote {w w' : Realm} {c : ServiceCall} {a : c.Result}
    (h : w.Answers (.service c) (.ok a) w') (hwrite : ∀ ns name, c ≠ .get ns name) :
    ∃ s, w.cluster.services.get? c.key = some s ∧
      Cluster.Written c.edit s (w'.cluster.services.get? c.key) := by
  have htruth := h.2.of_ok
  obtain ⟨s, hs, hwritten⟩ :=
    w.cluster.performService_wrote hwrite (congrArg Prod.fst htruth)
  rw [htruth] at hwritten
  exact ⟨s, hs, hwritten⟩

end Realm

/-! ### Scenes -/

/-- A pass under way. -/
structure Flight where
  /-- The Service as the pass first saw it. -/
  seen : Option Service := none
  /-- What is left to do. -/
  rest : Operation (Except OperatorError Unit)

namespace Flight

/-- The Service that a pass has first seen, after one more answer. -/
def see (seen : Option Service) : (c : Call) → c.Reply → Option Service
  | .service (.get _ _), .ok found => seen.or found
  | _, _ => seen

end Flight

/-- What exists, and the pass under way over each Service. -/
structure Scene where
  realm : Realm
  flights : ObjectKey → Option Flight

/-- What can happen in a scene. -/
inductive Act where
  | begin (key : ObjectKey)
  | call (key : ObjectKey) (c : Call) (r : c.Reply)
  /-- A pass is over, done or broken off. -/
  | finish (key : ObjectKey)
  /-- Others change a Service. -/
  | change (key : ObjectKey)

namespace Scene

/-- What passes begin as, in a scene of an operator with the settings `config` that cares for the
Services of the class `cls`. -/
def start (config : TunnelConfig) (cls : String) (key : ObjectKey) : Flight where
  rest := Reconcile.pass config cls key.ns key.name

/-- One thing happens in a scene. -/
inductive Step (config : TunnelConfig) (cls : String) (s : Scene) : Act → Scene → Prop where
  | begin (key : ObjectKey) (hidle : s.flights key = none) :
    Step config cls s (.begin key)
      { s with flights := Function.update s.flights key (some (start config cls key)) }
  | call (key : ObjectKey) (seen : Option Service) (c : Call)
    (next : c.Reply → Operation (Except OperatorError Unit)) (r : c.Reply) (realm : Realm)
    (hflight : s.flights key = some ⟨seen, .call c next⟩) (hanswers : s.realm.Answers c r realm) :
    Step config cls s (.call key c r)
      ⟨realm, Function.update s.flights key (some ⟨Flight.see seen c r, next r⟩)⟩
  | finish (key : ObjectKey) (flight : Flight) (hflight : s.flights key = some flight) :
    Step config cls s (.finish key) { s with flights := Function.update s.flights key none }
  | change (key : ObjectKey) (cluster : Cluster) (hchanges : s.realm.cluster.Changes key cluster) :
    Step config cls s (.change key) { s with realm := { s.realm with cluster := cluster } }

/-- What a run may do, beyond what every run obeys. -/
abbrev Regime := Scene → Act → Scene → Prop

/-- The scenes that come about from `s₀` under a regime. -/
inductive Reach (config : TunnelConfig) (cls : String) (R : Regime) (s₀ : Scene) :
    Scene → Prop where
  | refl : Reach config cls R s₀ s₀
  | step {s s' : Scene} {a : Act} (hreach : Reach config cls R s₀ s)
    (hstep : Step config cls s a s') (hR : R s a s') : Reach config cls R s₀ s'

/-- The scenes that come about from `s₀` under a regime, each with what has happened. -/
inductive Run (config : TunnelConfig) (cls : String) (R : Regime) (s₀ : Scene) :
    List Act → Scene → Prop where
  | refl : Run config cls R s₀ [] s₀
  | step {acts : List Act} {s s' : Scene} {a : Act} (hrun : Run config cls R s₀ acts s)
    (hstep : Step config cls s a s') (hR : R s a s') : Run config cls R s₀ (acts ++ [a]) s'

theorem Reach.run {config : TunnelConfig} {cls : String} {R : Regime} {s₀ s : Scene}
    (h : Reach config cls R s₀ s) : ∃ acts, Run config cls R s₀ acts s := by
  induction h with
  | refl => exact ⟨[], .refl⟩
  | step _ hstep hR ih =>
      obtain ⟨acts, hrun⟩ := ih
      exact ⟨_, hrun.step hstep hR⟩

/-- Nothing exists at the provider, nothing is recorded on a Service, and no pass is under way. -/
structure Fresh (s : Scene) : Prop where
  idle : ∀ key, s.flights key = none
  noApps : s.realm.estate.apps = ∅
  noMachines : ∀ app id, s.realm.estate.machineOf? app id = none
  noIps : ∀ app id, s.realm.estate.ipOf? app id = none
  named : ∀ key service, s.realm.cluster.services.get? key = some service →
    service.ns = key.ns ∧ service.name = key.name
  unrecorded : ∀ key service, s.realm.cluster.services.get? key = some service →
    TunnelRecord.ofService service = {}

/-! ### Contracts over runs -/

/-- A contract for the passes over each Service, and how its states keep step with the scene. -/
structure Rules (config : TunnelConfig) (cls : String) (R : Regime) (σ : Type) where
  contract : ObjectKey → Contract Call.interface σ
  /-- The state of a Service without a pass. -/
  idle : σ
  /-- What holds between the states and the scene. -/
  inv : (ObjectKey → σ) → Scene → Prop
  /-- What holds of the state of a pass that is done. -/
  post : Except OperatorError Unit → σ → Prop := fun _ _ => True
  pass_keeps : ∀ key,
    (Reconcile.pass config cls key.ns key.name).Keeps (contract key) post idle
  begin_inv : ∀ {st s s' key}, inv st s → Step config cls s (.begin key) s' →
    R s (.begin key) s' → st key = idle → inv st s'
  call_inv : ∀ {st s s' key c r}, inv st s → Step config cls s (.call key c r) s' →
    R s (.call key c r) s' → (contract key).permits (st key) c →
    ∃ x, (contract key).yields (st key) c r x ∧ inv (Function.update st key x) s'
  finish_inv : ∀ {st s s' key}, inv st s → Step config cls s (.finish key) s' →
    R s (.finish key) s' → (∀ seen r, s.flights key = some ⟨seen, .done r⟩ → post r (st key)) →
    inv (Function.update st key idle) s'
  change_inv : ∀ {st s s' key}, inv st s → Step config cls s (.change key) s' →
    R s (.change key) s' → inv st s'

namespace Rules

variable {config : TunnelConfig} {cls : String} {R : Regime} {σ : Type}

/-- The states are as the rules say, and every pass under way keeps its contract. -/
structure Holds (rules : Rules config cls R σ) (st : ObjectKey → σ) (s : Scene) : Prop where
  inv : rules.inv st s
  idle : ∀ key, s.flights key = none → st key = rules.idle
  keeps : ∀ key f, s.flights key = some f →
    f.rest.Keeps (rules.contract key) rules.post (st key)

/-- The state and the pass of one Service are replaced, and the rest of the scene as it may be. -/
theorem Holds.moved {rules : Rules config cls R σ} {st : ObjectKey → σ} {s : Scene}
    (h : rules.Holds st s) {key : ObjectKey} {x : σ} {flight : Option Flight} {realm : Realm}
    (hinv : rules.inv (Function.update st key x) ⟨realm, Function.update s.flights key flight⟩)
    (hidle : flight = none → x = rules.idle)
    (hkeeps : ∀ f, flight = some f → f.rest.Keeps (rules.contract key) rules.post x) :
    rules.Holds (Function.update st key x) ⟨realm, Function.update s.flights key flight⟩ := by
  refine ⟨hinv, fun other hother => ?_, fun other f hf => ?_⟩
  · by_cases hk : other = key
    · subst hk
      simp only [Function.update_self] at hother ⊢
      exact hidle hother
    · simp only [Function.update_of_ne hk] at hother ⊢
      exact h.idle other hother
  · by_cases hk : other = key
    · subst hk
      simp only [Function.update_self] at hf ⊢
      exact hkeeps f hf
    · simp only [Function.update_of_ne hk] at hf ⊢
      exact h.keeps other f hf

/-- How the states move on with one thing that happens. -/
inductive Moves (rules : Rules config cls R σ) (st : ObjectKey → σ) :
    Act → (ObjectKey → σ) → Prop where
  | begin (key : ObjectKey) : Moves rules st (.begin key) st
  | call (key : ObjectKey) (c : Call) (r : c.Reply) (x : σ)
    (hpermits : (rules.contract key).permits (st key) c)
    (hyields : (rules.contract key).yields (st key) c r x) :
    Moves rules st (.call key c r) (Function.update st key x)
  | finish (key : ObjectKey) : Moves rules st (.finish key) (Function.update st key rules.idle)
  | change (key : ObjectKey) : Moves rules st (.change key) st

/-- One thing that happens leaves the states as the rules say, with one state moved on. -/
theorem Holds.step {rules : Rules config cls R σ} {st : ObjectKey → σ} {s s' : Scene} {a : Act}
    (h : rules.Holds st s) (hstep : Step config cls s a s') (hR : R s a s') :
    ∃ st', rules.Moves st a st' ∧ rules.Holds st' s' := by
  cases hstep with
  | begin key hidle =>
      have hst := h.idle key hidle
      have hsame : Function.update st key rules.idle = st := by
        rw [← hst, Function.update_eq_self]
      refine ⟨st, .begin key, ?_⟩
      rw [← hsame]
      refine h.moved (x := rules.idle) ?_ (fun _ => rfl) fun f hf => ?_
      · rw [hsame]
        exact rules.begin_inv h.inv (.begin key hidle) hR hst
      · rw [← Option.some.inj hf]
        exact rules.pass_keeps key
  | call key seen c next r realm hflight hanswers =>
      have hkeeps := h.keeps key _ hflight
      obtain ⟨x, hyields, hinv⟩ :=
        rules.call_inv h.inv (.call key seen c next r realm hflight hanswers) hR hkeeps.1
      -- the rest of the pass keeps the contract from `x`, whatever the answer was
      refine ⟨_, .call key c r x hkeeps.1 hyields,
        h.moved hinv (fun hnone => by cases hnone) fun f hf => ?_⟩
      rw [← Option.some.inj hf]
      exact hkeeps.2 r x hyields
  | finish key flight hflight =>
      have hinv := rules.finish_inv h.inv (.finish key flight hflight) hR fun _ _ hdone =>
        h.keeps key _ hdone
      exact ⟨_, .finish key, h.moved hinv (fun _ => rfl) fun f hf => by cases hf⟩
  | change key cluster hchanges =>
      exact ⟨st, .change key, rules.change_inv h.inv (.change key cluster hchanges) hR, h.idle,
        h.keeps⟩

/-- Where no pass is under way, the states are idle. -/
theorem holds_idle (rules : Rules config cls R σ) {s : Scene}
    (hidle : ∀ key, s.flights key = none) (hinv : rules.inv (fun _ => rules.idle) s) :
    rules.Holds (fun _ => rules.idle) s :=
  ⟨hinv, fun _ _ => rfl, fun key f hf => by rw [hidle key] at hf; cases hf⟩

/-- In every scene that comes about the states are as the rules say, once they are at first. -/
theorem sound (rules : Rules config cls R σ) {s₀ s : Scene} (hfirst : ∀ key, s₀.flights key = none)
    (hinv : rules.inv (fun _ => rules.idle) s₀) (h : Reach config cls R s₀ s) :
    ∃ st, rules.Holds st s := by
  induction h with
  | refl => exact ⟨_, rules.holds_idle hfirst hinv⟩
  | step _ hstep hR ih =>
      obtain ⟨st, hst⟩ := ih
      obtain ⟨st', -, hst'⟩ := hst.step hstep hR
      exact ⟨st', hst'⟩

/-- What one act keeps of the history, the states and the scene, a whole run keeps. -/
theorem Holds.run {rules : Rules config cls R σ} {E : List Act → (ObjectKey → σ) → Scene → Prop}
    (hstep : ∀ {acts st s a st' s'}, rules.Holds st s → E acts st s → Step config cls s a s' →
      R s a s' → rules.Moves st a st' → E (acts ++ [a]) st' s')
    {st : ObjectKey → σ} {s s' : Scene} {acts : List Act} (h : rules.Holds st s) (hE : E [] st s)
    (hrun : Run config cls R s acts s') : ∃ st', rules.Holds st' s' ∧ E acts st' s' := by
  induction hrun with
  | refl => exact ⟨st, h, hE⟩
  | step _ hact hR ih =>
      obtain ⟨st₁, hholds, hkept⟩ := ih
      obtain ⟨st₂, hmoves, hholds'⟩ := hholds.step hact hR
      exact ⟨st₂, hholds', hstep hholds hkept hact hR hmoves⟩

end Rules

end Scene

end ServiceTunnel
