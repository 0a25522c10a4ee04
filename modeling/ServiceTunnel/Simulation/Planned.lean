/-!
# ServiceTunnel.Simulation.Planned

**Things planned for a later occasion.** Each waits for the n-th occasion of its kind, is given out
there once, and is gone.
-/

namespace ServiceTunnel.Simulation

/-- Something that waits for the `after`-th occasion `occasion`. -/
structure Planned (κ α : Type) where
  occasion : κ
  after : Nat
  what : α
deriving Repr

namespace Planned

variable {κ α : Type} [DecidableEq κ]

/-- Counts the occasion `k`. -/
def count (k : κ) (p : Planned κ α) : Planned κ α :=
  if p.occasion = k then { p with after := p.after - 1 } else p

/-- Whether the thing, once counted, is due at the occasion `k`. -/
def isDue (k : κ) (p : Planned κ α) : Bool := p.occasion == k && p.after == 0

/-- What is due at the occasion `k`, and what still waits after it. -/
def occur (k : κ) (plans : List (Planned κ α)) : List α × List (Planned κ α) :=
  let counted := plans.map (count k)
  ((counted.filter (isDue k)).map (·.what), counted.filter (!isDue k ·))

end Planned

end ServiceTunnel.Simulation
