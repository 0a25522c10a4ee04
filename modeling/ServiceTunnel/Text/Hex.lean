/-!
# ServiceTunnel.Text.Hex

**Hexadecimal digits** in upper and in lower case.
-/

namespace ServiceTunnel.Text

/-- The value of a hexadecimal digit. -/
def hexValue? (c : Char) : Option Nat :=
  if c.isDigit then some (c.toNat - 48)
  else if 'a' ≤ c ∧ c ≤ 'f' then some (c.toNat - 87)
  else if 'A' ≤ c ∧ c ≤ 'F' then some (c.toNat - 55)
  else none

/-- The number that the hexadecimal digits of a text spell. -/
def hexNumber (cs : List Char) : Nat := (cs.filterMap hexValue?).foldl (fun n d => 16 * n + d) 0

end ServiceTunnel.Text
