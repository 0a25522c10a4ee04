/-!
# ServiceTunnel.Program

**Computations that ask for things to be done.** A program is finished, or it makes one call and
goes on with the reply. What a call does is not part of the program: a handler decides it, and the
same program can be run over any handler, or be stopped between two calls.

`run_bind` says that running one program after another is running their composition.
-/

namespace ServiceTunnel

/-- What can be asked for, and what each call is answered with. -/
structure Interface where
  Call : Type
  Reply : Call → Type

/-- A computation over an interface with a result in `α`. -/
inductive Program (I : Interface) (α : Type) where
  | done (a : α)
  | call (c : I.Call) (next : I.Reply c → Program I α)

namespace Program

variable {I : Interface} {α β σ : Type}

/-- Goes on with the result of a program. -/
def bind : Program I α → (α → Program I β) → Program I β
  | .done a, f => f a
  | .call c next, f => .call c fun r => (next r).bind f

instance : Monad (Program I) where
  pure := .done
  bind := bind

/-- The program of one call. -/
def ask (c : I.Call) : Program I (I.Reply c) := .call c .done

/-! ### Running -/

/-- Runs a program with a handler that keeps a state. -/
def run (handle : (c : I.Call) → σ → I.Reply c × σ) : Program I α → σ → α × σ
  | .done a, s => (a, s)
  | .call c next, s => (next (handle c s).1).run handle (handle c s).2

theorem run_bind (handle : (c : I.Call) → σ → I.Reply c × σ) (p : Program I α)
    (f : α → Program I β) (s : σ) :
    (p.bind f).run handle s = (f (p.run handle s).1).run handle (p.run handle s).2 := by
  induction p generalizing s with
  | done a => rfl
  | call c next ih => exact ih _ _

/-- Runs a program with a handler that may break it off. -/
def runWhile (handle : (c : I.Call) → σ → Option (I.Reply c) × σ) :
    Program I α → σ → Option α × σ
  | .done a, s => (some a, s)
  | .call c next, s =>
    match (handle c s).1 with
    | some r => (next r).runWhile handle (handle c s).2
    | none => (none, (handle c s).2)

end Program

end ServiceTunnel
