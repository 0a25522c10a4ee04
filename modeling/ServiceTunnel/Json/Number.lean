import ServiceTunnel.Json.Double
import ServiceTunnel.Json.Fault

/-!
# ServiceTunnel.Json.Number

**Reading numbers.** A number is read by the grammar first. Unless it is only passed over, it must
then lie within the numbers of double precision. Its digits beyond 64 bits do not count for this.
-/

namespace ServiceTunnel.Json

/-! ### Numbers as written -/

/-- A number as written: its sign, its digits before and behind the point, and its exponent. -/
structure Numeral where
  negative : Bool
  whole : List Char
  fraction : List Char := []
  /-- Whether the exponent is negative, and its digits. -/
  exponent : Option (Bool × List Char) := none
deriving DecidableEq, Repr

namespace Numeral

/-- The value of a decimal digit. -/
def digit (c : Char) : Nat := c.toNat - 48

/-- The number that decimal digits spell behind `n`. -/
def spell (n : Nat) (ds : List Char) : Nat := ds.foldl (fun n d => 10 * n + digit d) n

/-- The number that digits spell behind `n` as long as it fits into 64 bits, and the other
digits. -/
def gather : Nat → List Char → Nat × List Char
  | n, [] => (n, [])
  | n, d :: ds =>
    if 18446744073709551615 < 10 * n + digit d then (n, d :: ds) else gather (10 * n + digit d) ds

/-- What follows the digit with which an exponent no longer fits into 31 bits behind `n`. -/
def overflow? : Nat → List Char → Option (List Char)
  | _, [] => none
  | n, d :: ds =>
    if 2147483647 < 10 * n + digit d then some ds else overflow? (10 * n + digit d) ds

/-- The leading digits that fit into 64 bits, and the power of ten that they are multiplied by but
for the exponent. -/
def leading (x : Numeral) : Nat × Int :=
  let (n, dropped) := gather 0 x.whole
  let (n, unread) := gather n x.fraction
  (n, (dropped.length : Int) - ((x.fraction.length - unread.length : Nat) : Int))

/-- Whether the exponent fits into 31 bits. -/
def fits (x : Numeral) : Bool := !x.exponent.any fun e => (overflow? 0 e.2).isSome

/-- The power of ten that the leading digits are multiplied by. -/
def power (x : Numeral) : Int :=
  x.leading.2 + match x.exponent with
    | none => 0
    | some (true, ds) => -(spell 0 ds : Int)
    | some (false, ds) => (spell 0 ds : Int)

/-- Whether `n` times a power of ten lies beyond the numbers of double precision. -/
def exceeds (n : Nat) (power : Int) : Bool :=
  n != 0 && 0 < power && (308 < power || Double.maxExponent < (Double.ofDecimal n power).exponent)

/-- The digits that are left unread when the number proves to be out of range. -/
def outOfRange? (x : Numeral) : Option Nat :=
  match x.exponent.bind fun e => (overflow? 0 e.2).map (e.1, ·) with
  -- Zero stays zero, and a large negative exponent makes any number zero.
  | some (negative, rest) => if x.leading.1 != 0 && !negative then some rest.length else none
  | none => if exceeds x.leading.1 x.power then some 0 else none

/-- The number of double precision as which a number in range is read. -/
def double (x : Numeral) : Double :=
  if x.fits then Double.ofDecimal x.leading.1 x.power else Double.zero

/-- The text of a number of double precision with its sign. -/
def doubleText (x : Numeral) : String := (if x.negative then "-" else "") ++ x.double.text

/-- The value of a number, `written` so; what is no integer, and a negative zero, stay as
written. -/
def value (x : Numeral) (written : List Char) : Json :=
  let n := spell 0 x.whole
  if x.fraction.isEmpty && x.exponent.isNone && !(x.negative && n == 0) then
    .int (if x.negative then -(n : Int) else n)
  else .real (String.ofList written)

end Numeral

/-! ### Reading -/

/-- The fault of a number that ends too early. -/
def cutNumber (isPassed : Bool) : Fault := if isPassed then .invalidNumber else .cutValue

/-- Reads what may follow the point or the whole digits of a number: an exponent. -/
def readExponent (isPassed : Bool) (x : Numeral) : List Char → Read Numeral
  | [] => .ok (x, [])
  | c :: cs =>
    if c = 'e' ∨ c = 'E' then
      let (negative, cs) := match cs with
        | '+' :: r => (false, r)
        | '-' :: r => (true, r)
        | r => (false, r)
      match cs with
      | [] => behind (cutNumber isPassed) []
      | d :: r =>
        if d.isDigit then
          .ok ({ x with exponent := some (negative, d :: r.takeWhile Char.isDigit) },
            r.dropWhile Char.isDigit)
        else within .invalidNumber d r
    else .ok (x, c :: cs)

/-- Reads what may follow the whole digits of a number: a fraction and an exponent. -/
def readFraction (isPassed : Bool) (x : Numeral) : List Char → Read Numeral
  | '.' :: r =>
    let fraction := r.takeWhile Char.isDigit
    let r := r.dropWhile Char.isDigit
    if fraction.isEmpty then atNext (if r.isEmpty then cutNumber isPassed else .invalidNumber) r
    else readExponent isPassed { x with fraction := fraction } r
  | cs => readExponent isPassed x cs

/-- Reads the digits of a number behind its sign. -/
def readNumeral (isPassed negative : Bool) : List Char → Read Numeral
  | [] => behind (cutNumber isPassed) []
  | c :: cs =>
    if c = '0' then
      match cs with
      -- A whole part of more digits does not begin with zero.
      | d :: r => if d.isDigit then atNext .invalidNumber (d :: r) else
          readFraction isPassed ⟨negative, [c], [], none⟩ (d :: r)
      | [] => readFraction isPassed ⟨negative, [c], [], none⟩ []
    else if c.isDigit then
      readFraction isPassed ⟨negative, c :: cs.takeWhile Char.isDigit, [], none⟩
        (cs.dropWhile Char.isDigit)
    else within .invalidNumber c cs

/-- The number of a text as it is told of: an integer of 64 bits, or its nearest number of double
precision. -/
def told (j : Json) : Json :=
  let ofText (text : String) : Json :=
    let (negative, cs) := match text.toList with
      | '-' :: cs => (true, cs)
      | cs => (false, cs)
    match readNumeral false negative cs with
    | .ok (x, _) => .real x.doubleText
    | .error _ => j
  match j with
  | .real text => ofText text
  | .int i => if -9223372036854775808 ≤ i ∧ i ≤ 18446744073709551615 then j else ofText (toString i)
  | j => j

/-- Whether a number, `written` so, lies within the numbers of double precision. -/
def isInRange (written : String) : Bool :=
  let (negative, cs) := match written.toList with
    | '-' :: cs => (true, cs)
    | cs => (false, cs)
  match readNumeral false negative cs with
  | .ok (x, _) => x.outOfRange?.isNone
  | .error _ => false

/-- Reads a number behind its sign. -/
def readNumber (isPassed negative : Bool) (cs : List Char) : Except Trouble (Json × List Char) := do
  let (x, rest) ← readNumeral isPassed negative cs
  let digits := cs.take (cs.length - rest.length)
  match if isPassed then none else x.outOfRange? with
  | some unread => .error ⟨.numberOutOfRange, byteCount rest + unread, false⟩
  | none => .ok (x.value (if negative then '-' :: digits else digits), rest)

end ServiceTunnel.Json
