import ServiceTunnel.Proofs.Simulated

/-!
# ServiceTunnel.Proofs.Runs

**Whole runs of one program.** A program runs over whatever answers its calls: from a state, through
the calls that it makes with their answers, to its result and a last state. A run of a composed
program is a run of its first part and a run of the rest (`runs_bind`), so what a program asks for
and in which order is read off its parts. A program that keeps a contract ends its runs as the
contract says, when the contract is ready for every answer (`Runs.keeps`). In a scene, a run of a
whole pass is a run of the scene (`Scene.Reach.whole`).
-/

namespace ServiceTunnel

/-- A call with its answer. -/
structure Interface.Event (I : Interface) where
  call : I.Call
  reply : I.Reply call

namespace Program

variable {I : Interface} {α β σ τ : Type} {answers : σ → (c : I.Call) → I.Reply c → σ → Prop}

/-- A program makes calls, each of which is answered as it may be, and ends. -/
inductive Runs (answers : σ → (c : I.Call) → I.Reply c → σ → Prop) :
    Program I α → σ → List I.Event → α → σ → Prop where
  | done (a : α) (s : σ) : Runs answers (.done a) s [] a s
  | call {c : I.Call} {next : I.Reply c → Program I α} {r : I.Reply c} {s s' t : σ}
    {events : List I.Event} {a : α} (hanswers : answers s c r s')
    (hrest : Runs answers (next r) s' events a t) :
    Runs answers (.call c next) s (⟨c, r⟩ :: events) a t

theorem runs_done {a b : α} {s t : σ} {events : List I.Event} :
    (Program.done a : Program I α).Runs answers s events b t ↔ events = [] ∧ b = a ∧ t = s := by
  constructor
  · intro h
    cases h
    exact ⟨rfl, rfl, rfl⟩
  · rintro ⟨rfl, rfl, rfl⟩
    exact .done _ _

theorem runs_call {c : I.Call} {next : I.Reply c → Program I α} {a : α} {s t : σ}
    {events : List I.Event} :
    (Program.call c next).Runs answers s events a t ↔
      ∃ r s' rest, events = ⟨c, r⟩ :: rest ∧ answers s c r s' ∧
        (next r).Runs answers s' rest a t := by
  constructor
  · intro h
    cases h with
    | call hanswers hrest => exact ⟨_, _, _, rfl, hanswers, hrest⟩
  · rintro ⟨r, s', rest, rfl, hanswers, hrest⟩
    exact .call hanswers hrest

/-- A composed program makes the calls of its first part, then those of the rest. -/
theorem runs_bind {p : Program I α} {f : α → Program I β} {b : β} {s t : σ}
    {events : List I.Event} :
    (p.bind f).Runs answers s events b t ↔
      ∃ first rest a m, events = first ++ rest ∧ p.Runs answers s first a m ∧
        (f a).Runs answers m rest b t := by
  constructor
  · intro h
    induction p generalizing s events with
    | done a => exact ⟨[], events, a, s, rfl, .done a s, h⟩
    | call c next ih =>
        obtain ⟨r, s', later, rfl, hanswers, hlater⟩ := runs_call.mp h
        obtain ⟨first, rest, a, m, rfl, hfirst, hrest⟩ := ih r hlater
        exact ⟨⟨c, r⟩ :: first, rest, a, m, rfl, .call hanswers hfirst, hrest⟩
  · rintro ⟨first, rest, a, m, rfl, hfirst, hrest⟩
    induction hfirst with
    | done a s => exact hrest
    | call hanswers _ ih => exact .call hanswers (ih hrest)

/-- A program whose second part passes errors of the first on, and which succeeds, has succeeded in
its first part. -/
theorem runs_bind_ok {ε ε' : Type} {p : Program I (Except ε α)}
    {f : Except ε α → Program I (Except ε' β)} {b : β} {s t : σ} {events : List I.Event}
    (h : (p.bind f).Runs answers s events (.ok b) t)
    (hf : ∀ e, ∃ e', f (.error e) = .done (.error e')) :
    ∃ first rest a m, events = first ++ rest ∧ p.Runs answers s first (.ok a) m ∧
      (f (.ok a)).Runs answers m rest (.ok b) t := by
  obtain ⟨first, rest, r, m, rfl, hfirst, hrest⟩ := runs_bind.mp h
  cases r with
  | ok a => exact ⟨first, rest, a, m, rfl, hfirst, hrest⟩
  | error e =>
      obtain ⟨e', he'⟩ := hf e
      rw [he'] at hrest
      obtain ⟨-, hr, -⟩ := runs_done.mp hrest
      cases hr

theorem Runs.mono {answers' : σ → (c : I.Call) → I.Reply c → σ → Prop} {p : Program I α} {s t : σ}
    {events : List I.Event} {a : α} (h : p.Runs answers s events a t)
    (himp : ∀ s c r s', answers s c r s' → answers' s c r s') : p.Runs answers' s events a t := by
  induction h with
  | done a s => exact .done a s
  | call hanswers _ ih => exact .call (himp _ _ _ _ hanswers) ih

/-- The answers of a run may be held to whatever is known of its calls. -/
theorem Runs.restrict {P : I.Event → Prop} {p : Program I α} {s t : σ} {events : List I.Event}
    {a : α} (h : p.Runs answers s events a t) (hP : ∀ event ∈ events, P event) :
    p.Runs (fun s c r s' => answers s c r s' ∧ P ⟨c, r⟩) s events a t := by
  induction h with
  | done a s => exact .done a s
  | call hanswers _ ih =>
      obtain ⟨hfirst, hrest⟩ := List.forall_mem_cons.mp hP
      exact .call ⟨hanswers, hfirst⟩ (ih hrest)

/-- A program that keeps a contract makes only calls that it permits, and ends as it says, if the
contract is ready for every answer. -/
theorem Runs.keeps {C : Contract I τ} {Sees : τ → σ → Prop} {post : α → τ → Prop}
    {p : Program I α} {x : τ} {s t : σ} {events : List I.Event} {a : α}
    (h : p.Runs answers s events a t) (hkeeps : p.Keeps C post x) (hsees : Sees x s)
    (hready : ∀ x s c r s', Sees x s → C.permits x c → answers s c r s' →
      ∃ x', C.yields x c r x' ∧ Sees x' s') :
    ∃ x', post a x' ∧ Sees x' t := by
  induction h generalizing x with
  | done a s => exact ⟨x, hkeeps, hsees⟩
  | call hanswers _ ih =>
      obtain ⟨x', hyields, hsees'⟩ := hready x _ _ _ _ hsees hkeeps.1 hanswers
      exact ih (hkeeps.2 _ x' hyields) hsees'

/-- A contract over the states of the run itself. -/
theorem Runs.keeps_self {C : Contract I σ} {post : α → σ → Prop} {p : Program I α} {s t : σ}
    {events : List I.Event} {a : α} (h : p.Runs answers s events a t) (hkeeps : p.Keeps C post s)
    (hyields : ∀ s c r s', C.permits s c → answers s c r s' → C.yields s c r s') : post a t := by
  obtain ⟨x, hpost, rfl⟩ := h.keeps hkeeps rfl fun x s c r s' hsees hpermits hanswers =>
    ⟨s', hyields x c r s' hpermits (by rw [hsees]; exact hanswers), rfl⟩
  exact hpost

/-! ### Runs with their history -/

/-- Every call is permitted, and the state keeps all calls made so far with their answers. -/
def logging (answers : σ → (c : I.Call) → I.Reply c → σ → Prop) :
    Contract I (σ × List I.Event) where
  permits _ _ := True
  yields x c r x' := answers x.1 c r x'.1 ∧ x'.2 = x.2 ++ [⟨c, r⟩]

/-- A run ends as is proved of the program with the history of the run at hand. -/
theorem Runs.keeps_logging {post : α → σ × List I.Event → Prop} {p : Program I α} {s t : σ}
    {past events : List I.Event} {a : α} (h : p.Runs answers s events a t)
    (hkeeps : p.Keeps (logging answers) post (s, past)) : post a (t, past ++ events) := by
  induction h generalizing past with
  | done a s => rw [List.append_nil]; exact hkeeps
  | call hanswers _ ih =>
      rw [List.append_cons]
      exact ih (hkeeps.2 _ (_, past ++ [⟨_, _⟩]) ⟨hanswers, rfl⟩)

/-! ### The calls of a run -/

/-- Only some calls are permitted, and any answer may come. -/
def only (P : I.Call → Prop) : Contract I Unit where
  permits _ c := P c
  yields _ _ _ _ := True

theorem allows_only {P : Call → Prop} {c : Call} (h : P c) :
    (only (I := Call.interface) P).Allows (fun _ => True) c :=
  fun _ _ => ⟨h, fun _ _ _ => trivial⟩

/-- A run makes no calls but those that its program keeps to. -/
theorem Runs.only {P : I.Call → Prop} {post : α → Unit → Prop} {p : Program I α} {s t : σ}
    {events : List I.Event} {a : α} (h : p.Runs answers s events a t)
    (hkeeps : p.Keeps (Program.only P) post ()) : ∀ event ∈ events, P event.call := by
  induction h with
  | done a s => exact List.forall_mem_nil _
  | call _ _ ih => exact List.forall_mem_cons.mpr ⟨hkeeps.1, ih (hkeeps.2 _ () trivial)⟩

/-! ### Runs over a handler -/

/-- The calls that a program makes over a handler, with their answers. -/
def events (handle : (c : I.Call) → σ → I.Reply c × σ) : Program I α → σ → List I.Event
  | .done _, _ => []
  | .call c next, s => ⟨c, (handle c s).1⟩ :: (next (handle c s).1).events handle (handle c s).2

/-- A program keeps the contract of a handler if it makes only permitted calls, and ends as is asked
of it. -/
theorem keeps_handling {handle : (c : I.Call) → σ → I.Reply c × σ} {permitted : I.Call → Prop}
    {p : Program I α} {post : α → σ → Prop} {s : σ} :
    p.Keeps (handling handle permitted) post s ↔
      (∀ event ∈ p.events handle s, permitted event.call) ∧
        post (p.run handle s).1 (p.run handle s).2 := by
  induction p generalizing s with
  | done a => exact (and_iff_right (List.forall_mem_nil _)).symm
  | call c next ih =>
      have hone : (∀ r s', handle c s = (r, s') →
            (next r).Keeps (handling handle permitted) post s') ↔
          (next (handle c s).1).Keeps (handling handle permitted) post (handle c s).2 := by
        refine ⟨fun h => h _ _ rfl, fun h r s' hr => ?_⟩
        rw [hr] at h
        exact h
      rw [keeps_call, events, List.forall_mem_cons, and_assoc]
      exact and_congr_right fun _ => hone.trans (ih _)

/-- Running a program over a handler is a run, if the handler answers as may be. -/
theorem exists_runs {handle : (c : I.Call) → τ → I.Reply c × τ} {Sees : τ → σ → Prop}
    (hhandle : ∀ c x s, Sees x s →
      ∃ s', answers s c (handle c x).1 s' ∧ Sees (handle c x).2 s')
    (p : Program I α) {x : τ} {s : σ} (hsees : Sees x s) :
    ∃ t, p.Runs answers s (p.events handle x) (p.run handle x).1 t ∧
      Sees (p.run handle x).2 t := by
  induction p generalizing x s with
  | done a => exact ⟨s, .done a s, hsees⟩
  | call c next ih =>
      obtain ⟨s', hanswers, hsees'⟩ := hhandle c x s hsees
      obtain ⟨t, hruns, hends⟩ := ih (handle c x).1 hsees'
      exact ⟨t, .call hanswers hruns, hends⟩

end Program

/-! ### Runs of single calls -/

namespace Operation

open Program

variable {σ : Type} {answers : σ → (c : Call) → c.Reply → σ → Prop} {s t : σ}
  {events : List Call.interface.Event}

theorem runs_provider {c : ProviderCall} {a : Except OperatorError c.Result} :
    (provider c).Runs answers s events a t ↔ ∃ r : Except ProviderError c.Result,
      events = [⟨.provider c, r⟩] ∧ a = r.mapError .provider ∧ answers s (.provider c) r t := by
  constructor
  · intro h
    obtain ⟨r, s', rest, rfl, hanswers, hrest⟩ := runs_call.mp h
    obtain ⟨rfl, rfl, rfl⟩ := runs_done.mp hrest
    exact ⟨r, rfl, rfl, hanswers⟩
  · rintro ⟨r, rfl, rfl, hanswers⟩
    exact .call hanswers (.done _ _)

theorem runs_provider_ok {c : ProviderCall} {a : c.Result}
    (h : (provider c).Runs answers s events (.ok a) t) :
    events = [⟨.provider c, (.ok a : Except ProviderError c.Result)⟩] ∧
      answers s (.provider c) (.ok a : Except ProviderError c.Result) t := by
  obtain ⟨r, rfl, hr, hanswers⟩ := runs_provider.mp h
  cases r with
  | ok b =>
      cases hr
      exact ⟨rfl, hanswers⟩
  | error e => cases hr

theorem runs_workload {c : WorkloadCall} {r : Except OperatorError Unit} :
    (workload c).Runs answers s events r t ↔
      events = [⟨.workload c, r⟩] ∧ answers s (.workload c) r t := by
  constructor
  · intro h
    obtain ⟨r, s', rest, rfl, hanswers, hrest⟩ := runs_call.mp h
    obtain ⟨rfl, rfl, rfl⟩ := runs_done.mp hrest
    exact ⟨rfl, hanswers⟩
  · rintro ⟨rfl, hanswers⟩
    exact .call hanswers (.done _ _)

theorem runs_service {c : ServiceCall} {r : Except OperatorError c.Result} :
    (service c).Runs answers s events r t ↔
      events = [⟨.service c, r⟩] ∧ answers s (.service c) r t := by
  constructor
  · intro h
    obtain ⟨r, s', rest, rfl, hanswers, hrest⟩ := runs_call.mp h
    obtain ⟨rfl, rfl, rfl⟩ := runs_done.mp hrest
    exact ⟨rfl, hanswers⟩
  · rintro ⟨rfl, hanswers⟩
    exact .call hanswers (.done _ _)

end Operation

/-- A program that goes on unless it failed has failed, or has gone on. -/
theorem Reconcile.runs_andThen {α β σ : Type} {answers : σ → (c : Call) → c.Reply → σ → Prop}
    {p : Operation (Except OperatorError α)} {f : α → Operation (Except OperatorError β)} {s t : σ}
    {events : List Call.interface.Event} {r : Except OperatorError β} :
    (andThen p f).Runs answers s events r t ↔
      (∃ e, r = .error e ∧ p.Runs answers s events (.error e) t) ∨
        ∃ first rest a m, events = first ++ rest ∧ p.Runs answers s first (.ok a) m ∧
          (f a).Runs answers m rest r t := by
  refine Program.runs_bind.trans ⟨?_, ?_⟩
  · rintro ⟨first, rest, outcome, m, rfl, hfirst, hrest⟩
    cases outcome with
    | ok a => exact Or.inr ⟨first, rest, a, m, rfl, hfirst, hrest⟩
    | error e =>
        obtain ⟨rfl, rfl, rfl⟩ := Program.runs_done.mp hrest
        exact Or.inl ⟨e, rfl, by rwa [List.append_nil]⟩
  · rintro (⟨e, rfl, h⟩ | ⟨first, rest, a, m, rfl, hfirst, hrest⟩)
    · exact ⟨events, [], .error e, t, (List.append_nil _).symm, h, .done _ _⟩
    · exact ⟨first, rest, .ok a, m, rfl, hfirst, hrest⟩

/-! ### Runs in worlds -/

namespace Simulation.World

/-- The calls that a program makes in a world, with their answers. -/
def events {α : Type} (v : World) (p : Operation α) : List Call.interface.Event :=
  p.events perform v

/-- Whatever is proved of runs in the realm holds of runs in worlds without changes by others. -/
theorem runs {α : Type} {v : World} {w : Realm} (h : v.site.Depicts w) (hhooks : v.hooks = [])
    (p : Operation α) :
    ∃ w', p.Runs Realm.Honest w (v.events p) (v.run p).1 w' ∧ (v.run p).2.site.Depicts w' ∧
      (v.run p).2.hooks = [] := by
  have hhandle : ∀ c (v : World) (w : Realm), v.site.Depicts w ∧ v.hooks = [] →
      ∃ w', w.Honest c (perform c v).1 w' ∧
        (perform c v).2.site.Depicts w' ∧ (perform c v).2.hooks = [] :=
    fun c _ _ h => World.perform_honest h.1 h.2 c
  exact Program.exists_runs hhandle p ⟨h, hhooks⟩

/-- A program that is seen to end so in a world runs so in the realm that the world depicts. -/
theorem runs_of_result {α : Type} {v : World} {w : Realm} (h : v.site.Depicts w)
    (hhooks : v.hooks = []) (p : Operation α) {a : α} (ha : (v.run p).1 = a) :
    ∃ w', p.Runs Realm.Answers w (v.events p) a w' ∧ (v.run p).2.site.Depicts w' ∧
      (v.run p).2.hooks = [] := by
  obtain ⟨w', hruns, hends⟩ := World.runs h hhooks p
  rw [ha] at hruns
  exact ⟨w', hruns.mono fun _ _ _ _ => Realm.Honest.answers, hends⟩

/-- What is proved of runs in the realm holds as well of a program that runs after another. -/
theorem runs_after {α β : Type} {v : World} {w : Realm} (h : v.site.Depicts w)
    (hhooks : v.hooks = []) (p : Operation α) (q : Operation β) :
    ∃ w₁ w₂, (v.run p).2.site.Depicts w₁ ∧
      q.Runs Realm.Honest w₁ ((v.run p).2.events q) ((v.run p).2.run q).1 w₂ ∧
      ((v.run p).2.run q).2.site.Depicts w₂ := by
  obtain ⟨w₁, -, hdepicts, hfree⟩ := World.runs h hhooks p
  obtain ⟨w₂, hruns, hends, -⟩ := World.runs hdepicts hfree q
  exact ⟨w₁, w₂, hdepicts, hruns, hends⟩

end Simulation.World

/-! ### Runs in scenes -/

namespace Scene

open Kube

variable {config : TunnelConfig} {cls : String} {R : Regime} {s₀ : Scene} {key : ObjectKey}
  {flights : ObjectKey → Option Flight} {w w' : Realm} {events : List Call.interface.Event}
  {r : Except OperatorError Unit}

/-- What is left of a pass runs to its end, call by call. -/
theorem Reach.runs {seen : Option Service} {p : Operation (Except OperatorError Unit)}
    (hruns : p.Runs Realm.Answers w events r w')
    (hR : ∀ event ∈ events, ∀ s s', R s (.call key event.call event.reply) s')
    (hreach : Reach config cls R s₀ ⟨w, flights⟩) (hflight : flights key = some ⟨seen, p⟩) :
    ∃ seen', Reach config cls R s₀
      ⟨w', Function.update flights key (some ⟨seen', .done r⟩)⟩ := by
  induction hruns generalizing flights seen with
  | done a w =>
      refine ⟨seen, ?_⟩
      rw [← hflight, Function.update_eq_self]
      exact hreach
  | call hanswers _ ih =>
      obtain ⟨hfirst, hrest⟩ := List.forall_mem_cons.mp hR
      have hnext := hreach.step (.call key seen _ _ _ _ hflight hanswers) (hfirst _ _)
      obtain ⟨seen', hends⟩ := ih hrest hnext (Function.update_self _ _ _)
      rw [Function.update_idem] at hends
      exact ⟨seen', hends⟩

/-- A pass begins, runs to its end, and is over. -/
theorem Reach.whole
    (hruns : (Reconcile.pass config cls key.ns key.name).Runs Realm.Answers w events r w')
    (hbegins : ∀ s s', R s (.begin key) s')
    (hR : ∀ event ∈ events, ∀ s s', R s (.call key event.call event.reply) s')
    (hends : ∀ s s' seen, s.flights key = some ⟨seen, .done r⟩ → R s (.finish key) s')
    (hreach : Reach config cls R s₀ ⟨w, flights⟩) (hidle : flights key = none) :
    Reach config cls R s₀ ⟨w', flights⟩ := by
  have hbegun := hreach.step (.begin key hidle) (hbegins _ _)
  obtain ⟨seen, hdone⟩ := hbegun.runs hruns hR (Function.update_self _ _ _)
  have hover := hdone.step (.finish key ⟨seen, .done r⟩ (Function.update_self _ _ _))
    (hends _ _ seen (Function.update_self _ _ _))
  rw [Function.update_idem, Function.update_idem, ← hidle, Function.update_eq_self] at hover
  exact hover

end Scene

end ServiceTunnel
