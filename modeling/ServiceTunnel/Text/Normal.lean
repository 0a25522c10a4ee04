import ServiceTunnel.Text.CombiningClass
import ServiceTunnel.Text.Composition

/-!
# ServiceTunnel.Text.Normal

**One spelling for each text.** A text is taken apart into characters that are no composites, marks
on one character are put in the order of their classes, and what makes a composite is put together
again.
-/

namespace ServiceTunnel.Text

/-! ### Taking apart -/

/-- The characters that a character is made of; `depth` bounds how often a part is a composite. -/
def decompose : Nat → Char → List Char
  | 0, c => [c]
  | depth + 1, c =>
    match pair? c with
    | some (a, b) => decompose depth a ++ decompose depth b
    | none => [c]

/-- The greatest number of times that a part of a composite is one. -/
def compositeDepth : Nat := 4

/-! ### Order -/

/-- Puts a mark before the marks of its class and above. -/
def placeMark (c : Char) : List Char → List Char
  | [] => [c]
  | d :: rest =>
    if combiningClass d ≠ 0 ∧ combiningClass d < combiningClass c then d :: placeMark c rest
    else c :: d :: rest

/-- The characters with the marks on each in the order of their classes. -/
def orderMarks (cs : List Char) : List Char := cs.foldr placeMark []

/-! ### Putting together -/

/-- Puts together what follows `base`, on which the marks `kept` (last first) stay. A mark does not
reach the base behind one of its class or above. -/
def composeOnto (base : Char) (kept : List Char) : List Char → List Char
  | [] => base :: kept.reverse
  | c :: rest =>
    let reaches := kept.head?.all fun d => combiningClass d < combiningClass c
    match if reaches then composite? base c else none with
    | some both => composeOnto both kept rest
    | none =>
      if combiningClass c = 0 then base :: kept.reverse ++ composeOnto c [] rest
      else composeOnto base (c :: kept) rest

/-- The characters with all composites put together. -/
def compose : List Char → List Char
  | [] => []
  | c :: rest => if combiningClass c = 0 then composeOnto c [] rest else c :: compose rest

/-- The one spelling of a text. -/
def normalize (cs : List Char) : List Char :=
  compose (orderMarks (cs.flatMap (decompose compositeDepth)))

end ServiceTunnel.Text
