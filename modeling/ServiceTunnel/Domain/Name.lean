import ServiceTunnel.Domain.Direction
import ServiceTunnel.Domain.Joining
import ServiceTunnel.Domain.Mapping
import ServiceTunnel.Text.Normal
import ServiceTunnel.Text.Punycode

/-!
# ServiceTunnel.Domain.Name

**Domain names in any script.** A name is brought into one spelling, and its labels, the parts
between its points, are checked. A label with other characters than those of ASCII is then written
in ASCII, behind the mark `xn--`; a label that has this mark is read and checked in the same way.
-/

namespace ServiceTunnel.Domain

/-- What a label in ASCII that stands for another one begins with. -/
def mark : List Char := ['x', 'n', '-', '-']

/-- Whether a character is one of ASCII. -/
def isAscii (c : Char) : Bool := c.toNat < 0x80

/-- Characters of ASCII that cannot stand in a domain name. -/
def isReserved (c : Char) : Bool :=
  c.toNat ≤ 0x20 || c.toNat == 0x7f || "%#/:<>?@[\\]^|".toList.contains c

/-! ### Labels -/

/-- Whether a label holds what it may, and where it may. -/
def isSound (label : List Char) : Bool :=
  label.all isPlain && !label.head?.any Text.isMark && joinersFit [] label

/-- The label that a label with the mark stands for. It must need the mark. -/
def revealed? (tail : List Char) : Option (List Char) :=
  match Text.Punycode.decode? tail with
  | some label =>
    -- What could stand there without the mark, or would be marked twice, is refused.
    if label.all isAscii || mark.isPrefixOf label || Text.normalize label != label then none
    else some label
  | none => none

/-- The label that is meant by one as it is written, if there is one. -/
def meant? (label : List Char) : Option (List Char) :=
  let meant := if mark.isPrefixOf label then revealed? (label.drop mark.length) else some label
  meant.filter isSound

/-- A label in ASCII. -/
def inAscii (label : List Char) : List Char :=
  if label.all isAscii then label else mark ++ Text.Punycode.encode label

/-! ### Names -/

/-- A name in its one spelling, if none of its characters is forbidden. -/
def spelled? (name : List Char) : Option (List Char) :=
  (name.mapM mapped?).map fun parts => Text.normalize parts.flatten

/-- The name in ASCII, if it is one. -/
def toAscii? (name : List Char) : Option (List Char) := do
  let spelled ← spelled? name
  let labels ← (Text.splitAt (· == '.') spelled).mapM meant?
  if spelled.any isReserved || !directionsFit labels then none
  else some (['.'].intercalate (labels.map inAscii))

end ServiceTunnel.Domain
