import ServiceTunnel.Dict
import ServiceTunnel.Error

/-!
# ServiceTunnel.Backoff

**How long to wait before a pass is tried again.** Each failure of a key doubles its delay, from
`base` up to `limit`; a success starts anew. Failures are counted in words of 32 bits, and delays
are durations, so there are bounds on both: a count stays at its greatest value, the number of
doublings is limited, and a product that is no duration gives way to `limit`.
-/

namespace ServiceTunnel

/-! ### Durations -/

/-- A span of time: whole seconds and a part of a second. -/
structure Duration where
  seconds : UInt64
  nanoseconds : Fin 1000000000
deriving DecidableEq, Repr

namespace Duration

/-- The length in nanoseconds. -/
def total (d : Duration) : Nat := d.seconds.toNat * 1000000000 + d.nanoseconds

/-- What no duration reaches: 2^64 seconds in nanoseconds. -/
def horizon : Nat := UInt64.size * 1000000000

/-- The duration of a length in nanoseconds, if there is one. -/
def ofTotal? (n : Nat) : Option Duration :=
  if n < horizon then some ⟨.ofNat (n / 1000000000), .ofNat 1000000000 n⟩ else none

/-- A multiple of a duration, if it is a duration. -/
def times? (d : Duration) (n : UInt32) : Option Duration := ofTotal? (d.total * n.toNat)

instance : LE Duration := ⟨fun a b => a.total ≤ b.total⟩

instance (a b : Duration) : Decidable (a ≤ b) := inferInstanceAs (Decidable (a.total ≤ b.total))

instance : Min Duration := minOfLe

/-- The length in milliseconds, rounded down. -/
def milliseconds (d : Duration) : Nat := d.total / 1000000

end Duration

/-- When the next pass over a Service is made. -/
inductive NextPass where
  /-- Once the Service has changed. -/
  | awaitChange
  /-- After a delay, or once the Service has changed. -/
  | after (delay : Duration)
deriving DecidableEq, Repr

/-! ### Counting failures -/

/-- The delays and the number of failures of every key since its last success. -/
structure Backoff where
  base : Duration := ⟨5, 0⟩
  limit : Duration := ⟨300, 0⟩
  failures : Dict String UInt32 := ∅
deriving DecidableEq

namespace Backoff

instance : Inhabited Backoff := ⟨{}⟩

/-- The number of failures beyond which the delay no longer doubles. -/
def maxDoublings : UInt32 := 16

/-- How often a delay is doubled after `count` failures. -/
def doublings (count : UInt32) : UInt32 := min count maxDoublings

/-- The delay after a failure that `count` failures precede. -/
def delay (b : Backoff) (count : UInt32) : Duration :=
  (b.base.times? (1 <<< doublings count)).elim b.limit (min · b.limit)

/-- One failure more, as far as the word goes. -/
def countOn (count : UInt32) : UInt32 := if count + 1 = 0 then count else count + 1

/-- The failures of a key since its last success. -/
def count (b : Backoff) (key : String) : UInt32 := (b.failures.get? key).getD 0

/-- Counts a failure of a key, and gives the delay before the next attempt. -/
def fail (b : Backoff) (key : String) : Backoff × Duration :=
  ({ b with failures := b.failures.insert key (countOn (b.count key)) }, b.delay (b.count key))

/-- Forgets the failures of a key. -/
def reset (b : Backoff) (key : String) : Backoff :=
  { b with failures := b.failures.erase key }

/-- When the next pass is made after one that failed, whatever the error. -/
def retry (b : Backoff) (key : String) (_error : OperatorError) : Backoff × NextPass :=
  let (b, delay) := b.fail key
  (b, .after delay)

end Backoff

end ServiceTunnel
