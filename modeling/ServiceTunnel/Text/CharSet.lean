/-!
# ServiceTunnel.Text.CharSet

**Sets of characters by their flips.** A property of characters is kept as the ascending list of
code points at which it turns on or off: a character has the property iff an odd number of flips
lie at or below it.
-/

namespace ServiceTunnel.Text

/-- A set of characters. -/
structure CharSet where
  /-- The code points at which membership changes, ascending; membership starts as false. -/
  flips : List Nat

namespace CharSet

/-- Whether an odd number of the ascending flips lie at or below `n`. -/
def flipped (n : Nat) : List Nat → Bool
  | [] => false
  | f :: rest => if n < f then false else !flipped n rest

/-- Membership. -/
def contains (s : CharSet) (c : Char) : Bool := flipped c.toNat s.flips

end CharSet

end ServiceTunnel.Text
