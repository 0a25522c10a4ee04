import ServiceTunnel.Saga

/-!
# ServiceTunnel.Proofs.Contract

**What a program owes its surroundings and what it may count on.** A `Contract` says which calls
are permitted and which answers may come, in terms of a state that a proof chooses: what exists,
what is known, or how far a pass has come. `Program.Keeps` says that a program makes only permitted
calls, whatever answers come, and ends in a state that satisfies a condition.

A program is read call by call (`keeps_call`), and composed programs by their parts
(`keeps_bind`, and `keeps_step` for the steps of a saga), so no proof about a program unfolds
another one.
-/

namespace ServiceTunnel

/-- The calls that a program may make, and the answers that it must be ready for, each with the
state after it. -/
structure Contract (I : Interface) (σ : Type) where
  permits : σ → I.Call → Prop
  yields : σ → (c : I.Call) → I.Reply c → σ → Prop

namespace Program

variable {I : Interface} {α β σ : Type} {C : Contract I σ}

/-- Every call of the program is permitted, whatever answers come, and `post` holds in the end. -/
def Keeps (C : Contract I σ) : Program I α → (α → σ → Prop) → σ → Prop
  | .done a, post, s => post a s
  | .call c next, post, s =>
    C.permits s c ∧ ∀ r s', C.yields s c r s' → (next r).Keeps C post s'

@[simp] theorem keeps_done (a : α) (post : α → σ → Prop) (s : σ) :
    (Program.done a : Program I α).Keeps C post s ↔ post a s := Iff.rfl

@[simp] theorem keeps_call (c : I.Call) (next : I.Reply c → Program I α) (post : α → σ → Prop)
    (s : σ) : (Program.call c next).Keeps C post s ↔
      C.permits s c ∧ ∀ r s', C.yields s c r s' → (next r).Keeps C post s' := Iff.rfl

/-- A composed program keeps a contract if its first part does, and its second part from wherever
the first may end. -/
theorem keeps_bind (p : Program I α) (f : α → Program I β) (post : β → σ → Prop) (s : σ) :
    (p.bind f).Keeps C post s ↔ p.Keeps C (fun a s' => (f a).Keeps C post s') s := by
  induction p generalizing s with
  | done a => rfl
  | call c next ih =>
      refine and_congr_right fun _ => ?_
      exact forall_congr' fun r => forall_congr' fun s' => imp_congr_right fun _ => ih r s'

/-- A weaker condition holds in the end as well. -/
theorem Keeps.imp {p : Program I α} {post post' : α → σ → Prop} {s : σ}
    (h : p.Keeps C post s) (himp : ∀ a s', post a s' → post' a s') : p.Keeps C post' s := by
  induction p generalizing s with
  | done a => exact himp a s h
  | call c next ih => exact ⟨h.1, fun r s' hr => ih r (h.2 r s' hr)⟩

/-- A program that keeps a contract, followed by one that keeps it from wherever the first ends. -/
theorem Keeps.bind {p : Program I α} {f : α → Program I β} {mid : α → σ → Prop}
    {post : β → σ → Prop} {s : σ} (h : p.Keeps C mid s)
    (hf : ∀ a s', mid a s' → (f a).Keeps C post s') : (p.bind f).Keeps C post s :=
  (keeps_bind p f post s).mpr (h.imp hf)

/-- Where every call is permitted, every program keeps the contract. -/
theorem keeps_true (h : ∀ s c, C.permits s c) (p : Program I α) (s : σ) :
    p.Keeps C (fun _ _ => True) s := by
  induction p generalizing s with
  | done a => exact trivial
  | call c next ih => exact ⟨h s c, fun r s' _ => ih r s'⟩

/-- Wherever `inv` holds, the program keeps the contract, and `inv` holds in the end. -/
def Stable (C : Contract I σ) (inv : σ → Prop) (p : Program I α) : Prop :=
  ∀ s, inv s → p.Keeps C (fun _ s' => inv s') s

theorem stable_done (inv : σ → Prop) (a : α) : (Program.done a : Program I α).Stable C inv :=
  fun _ h => h

theorem stable_call {inv : σ → Prop} {c : I.Call} {next : I.Reply c → Program I α}
    (hc : ∀ s, inv s → C.permits s c ∧ ∀ r s', C.yields s c r s' → inv s')
    (hnext : ∀ r, (next r).Stable C inv) : (Program.call c next).Stable C inv := by
  intro s hs
  obtain ⟨hpermits, hyields⟩ := hc s hs
  exact ⟨hpermits, fun r s' hr => hnext r s' (hyields r s' hr)⟩

theorem Stable.bind {inv : σ → Prop} {p : Program I α} {f : α → Program I β}
    (hp : p.Stable C inv) (hf : ∀ a, (f a).Stable C inv) : (p.bind f).Stable C inv :=
  fun s hs => (hp s hs).bind fun a s' hs' => hf a s' hs'

/-- `ok` holds after a success, `failed` after a failure. -/
def Outcome {ε : Type} (ok : α → σ → Prop) (failed : σ → Prop) : Except ε α → σ → Prop
  | .ok a, s => ok a s
  | .error _, s => failed s

/-! ### Programs over a handler

A handler leaves no choice: there is one answer to each call. A program that keeps its contract runs
with it as the contract says. -/

/-- The contract of a handler, with the calls restricted to those of `permitted`. -/
def handling (handle : (c : I.Call) → σ → I.Reply c × σ) (permitted : I.Call → Prop) :
    Contract I σ where
  permits _ c := permitted c
  yields s c r s' := handle c s = (r, s')

end Program

/-! ### Steps that are undone -/

section Steps

variable {I : Interface} {α β σ : Type} {C : Contract I σ}

open Program

namespace Saga

/-- From wherever `inv` holds, everything registered is undone, and `undone` holds in the end. -/
def Undoes (C : Contract I σ) (g : Saga I) (inv undone : σ → Prop) : Prop :=
  ∀ s, inv s → g.unwind.Keeps C (fun _ => undone) s

theorem undoes_empty (inv : σ → Prop) : Undoes C {} inv inv := fun _ h => h

/-- What is registered last is undone first. -/
theorem Undoes.compensate {g : Saga I} {label : String}
    {undo : Program I (Except OperatorError Unit)} {inv mid undone : σ → Prop}
    (h : g.Undoes C mid undone) (hundo : ∀ s, inv s → undo.Keeps C (fun _ => mid) s) :
    (g.compensate label undo).Undoes C inv undone :=
  fun s hs => (hundo s hs).bind fun _ s' hs' => h s' hs'

end Saga

namespace SagaM

/-- A step, and what follows it: the action fails and everything registered is undone, or it
succeeds and the rest is done. -/
theorem keeps_step {label : String} {action : Program I (Except OperatorError α)}
    {f : α → SagaM I β} {g : Saga I} {ok : α → σ → Prop} {failed undone : σ → Prop}
    {post : Except OperatorError β × Saga I → σ → Prop} {s : σ}
    (haction : action.Keeps C (Outcome ok failed) s) (hundo : g.Undoes C failed undone)
    (hok : ∀ a s', ok a s' → (f a g).Keeps C post s')
    (hundone : ∀ e s', undone s' → post (.error e, {}) s') :
    ((SagaM.step label action >>= f : SagaM I β) g).Keeps C post s := by
  refine (Program.keeps_bind (SagaM.step label action g) _ post s).mpr ?_
  refine haction.bind fun r s' hr => ?_
  cases r with
  | ok a => exact hok a s' hr
  | error e => exact (hundo s' hr).bind fun _ s'' h => hundone _ s'' h

theorem keeps_compensate {label : String} {undo : Program I (Except OperatorError Unit)}
    {f : Unit → SagaM I β} {g : Saga I} {post : Except OperatorError β × Saga I → σ → Prop} {s : σ}
    (h : (f () (g.compensate label undo)).Keeps C post s) :
    ((SagaM.compensate label undo >>= f : SagaM I β) g).Keeps C post s := h

theorem keeps_perform (m : SagaM I α) (post : Except OperatorError α → σ → Prop) (s : σ) :
    m.perform.Keeps C post s ↔ (m {}).Keeps C (fun r s' => post r.1 s') s :=
  Program.keeps_bind (m {}) _ post s

end SagaM

end Steps

end ServiceTunnel
