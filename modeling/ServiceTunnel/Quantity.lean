import ServiceTunnel.Text.Blank
import ServiceTunnel.Text.Quoted

/-!
# ServiceTunnel.Quantity

**Amounts of a resource.** A quantity is a decimal number with an optional sign, followed by a
binary suffix (`Ki` to `Ei`), a decimal suffix (`n` to `E`) or a decimal exponent (`e3`, `E-2`).
Blanks around it do not count.
-/

namespace ServiceTunnel

/-- The text of an amount. -/
structure Quantity where
  text : String
deriving DecidableEq, Repr

namespace Quantity

/-- Why a text is no quantity. -/
inductive Reason where
  | empty
  | manyPoints
  | noDigits
  | unknownSuffix (written : String)
deriving DecidableEq, Repr

/-- The wording of a reason. -/
def Reason.message : Reason → String
  | .empty => "quantity is empty"
  | .manyPoints => "more than one decimal point"
  | .noDigits => "quantity has no digits"
  | .unknownSuffix s => s!"unknown suffix {Text.quote s}"

/-- The suffixes that name a power of two or ten; none at all is one. -/
def suffixes : List (List Char) :=
  ["", "Ki", "Mi", "Gi", "Ti", "Pi", "Ei", "n", "u", "m", "k", "M", "G", "T", "P", "E"].map
    String.toList

/-- What follows an optional sign. -/
def dropSign : List Char → List Char
  | '+' :: cs => cs
  | '-' :: cs => cs
  | cs => cs

/-- Whether the text is a decimal exponent. -/
def isExponent : List Char → Bool
  | c :: cs => (c == 'e' || c == 'E') && !(dropSign cs).isEmpty && (dropSign cs).all Char.isDigit
  | [] => false

/-- Whether the text may follow the number. -/
def isSuffix (cs : List Char) : Bool := suffixes.contains cs || isExponent cs

/-- Whether a character belongs to the number. -/
def isNumberChar (c : Char) : Bool := c.isDigit || c == '.'

/-- Checks a text without blanks at its ends. -/
def check (cs : List Char) : Except Reason Unit :=
  if cs.isEmpty then .error .empty
  else
    let number := (dropSign cs).takeWhile isNumberChar
    let rest := (dropSign cs).dropWhile isNumberChar
    if 1 < number.count '.' then .error .manyPoints
    else if !number.any Char.isDigit then .error .noDigits
    else if !isSuffix rest then .error (.unknownSuffix (String.ofList rest))
    else .ok ()

/-- Reads a quantity. -/
def parse (raw : String) : Except Reason Quantity :=
  let trimmed := Text.trim raw
  (check trimmed.toList).map fun _ => ⟨trimmed⟩

end Quantity

end ServiceTunnel
