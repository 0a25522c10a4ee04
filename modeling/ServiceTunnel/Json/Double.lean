/-!
# ServiceTunnel.Json.Double

**Numbers of double precision**, as a number that is no integer is told of. The text of one has the
fewest digits that stand for it and no other, of these the nearest.
-/

namespace ServiceTunnel.Json

/-- The number `mantissa` times two to the `exponent`. The mantissa has 53 bits, or fewer if the
exponent is the least one. -/
structure Double where
  mantissa : Nat
  exponent : Int
deriving DecidableEq, Repr

namespace Double

/-! ### Rounding -/

/-- The quotient nearest to `n / d`, of two equally near ones the even one. -/
def nearest (n d : Nat) : Nat :=
  let q := n / d
  if d < 2 * (n % d) ∨ (d = 2 * (n % d) ∧ q % 2 = 1) then q + 1 else q

/-- The fraction `n / d` divided by two to the `e`. -/
def scale (n d : Nat) (e : Int) : Nat × Nat :=
  if 0 ≤ e then (n, d <<< e.toNat) else (n <<< (-e).toNat, d)

/-- The least exponent. -/
def minExponent : Int := -1074

/-- The largest exponent. -/
def maxExponent : Int := 971

/-- Zero. -/
def zero : Double := ⟨0, 0⟩

/-- The number nearest to a positive fraction `n / d`. Its exponent shows if it is too large. -/
def ofRatio (n d : Nat) : Double :=
  let e : Int := (n.log2 : Int) - d.log2 - 53
  let (a, b) := scale n d e
  let e := max (if a / b < 1 <<< 53 then e else e + 1) minExponent
  let (a, b) := scale n d e
  let m := nearest a b
  if m = 1 <<< 53 then ⟨1 <<< 52, e + 1⟩ else ⟨m, e⟩

/-- The number as a fraction. -/
def ratio (x : Double) : Nat × Nat := scale x.mantissa 1 (-x.exponent)

/-- The product with a power of ten, for which the number nearest to the power is taken. -/
def timesTen (x : Double) (power : Int) : Double :=
  if x.mantissa = 0 then x
  else
    let (n, d) := x.ratio
    let (p, q) := (ofRatio (Nat.pow 10 power.natAbs) 1).ratio
    if 0 ≤ power then ofRatio (n * p) (d * q) else ofRatio (n * q) (d * p)

/-- The number that `n` of 64 bits times a power of ten is read as. -/
def ofDecimal (n : Nat) (power : Int) : Double :=
  -- A quotient too small for one step is taken in several; after two of them nothing is left.
  let steps := if power < -308 then min ((power.natAbs - 1) / 308) 2 else 0
  let x := if n = 0 then zero else ofRatio n 1
  let x := (List.range steps).foldl (fun x _ => x.timesTen (-308)) x
  x.timesTen (power + 308 * steps)

/-! ### Writing -/

/-- The decimal place of the first digit of a positive fraction `n / d`, zero for the units. -/
def firstPlace (n d : Nat) : Int :=
  if d ≤ n then ((toString (n / d)).length : Int) - 1
  else -(((List.range 400).find? fun k => d ≤ n * Nat.pow 10 k).getD 0 : Nat)

/-- The multiple of ten to the `place` nearest to the number, if it stands for this number. -/
def atPlace? (x : Double) (place : Int) : Option Nat :=
  -- Quarters of the last bit, since the numbers below a power of two lie twice as close.
  let unit := x.exponent - 2
  let below := if x.mantissa = 1 <<< 52 ∧ minExponent < x.exponent then 1 else 2
  let fraction (m : Nat) : Nat × Nat :=
    let (n, d) := scale m 1 (-unit)
    if 0 ≤ place then (n, d * Nat.pow 10 place.toNat) else (n * Nat.pow 10 place.natAbs, d)
  let (low, d) := fraction (4 * x.mantissa - below)
  let (high, _) := fraction (4 * x.mantissa + 2)
  let (n, _) := fraction (4 * x.mantissa)
  let isInside (c : Nat) : Bool :=
    if x.mantissa % 2 = 0 then low ≤ c * d && c * d ≤ high else low < c * d && c * d < high
  let c := nearest n d
  let other := if c * d ≤ n then c + 1 else c - 1
  if isInside c then some c else if isInside other then some other else none

/-- The digits of a positive number and the place of the last one. -/
def digits (x : Double) : Nat × Int :=
  let (n, d) := x.ratio
  let first := firstPlace n d
  ((List.range 18).findSome? fun (k : Nat) =>
    (x.atPlace? (first - (k : Int))).map fun c => (c, first - (k : Int))).getD (0, 0)

/-- The digits without zeros at their end, and the place of the last one. -/
def trimZeros : Nat → Nat × Int → Nat × Int
  | 0, x => x
  | fuel + 1, (c, place) =>
    if c % 10 = 0 ∧ c ≠ 0 then trimZeros fuel (c / 10, place + 1) else (c, place)

/-- The written form. A number has a point, or is less than a hundred thousandth or more than
sixteen digits long and has an exponent. -/
def text (x : Double) : String :=
  if x.mantissa = 0 then "0.0"
  else
    let (c, place) := trimZeros 20 x.digits
    let ds := (toString c).toList
    let zeros (n : Nat) : String := String.ofList (List.replicate n '0')
    let point : Int := ds.length + place
    if 0 ≤ place && point ≤ 16 then toString c ++ zeros place.toNat ++ ".0"
    else if 0 < point && point ≤ 16 then
      String.ofList (ds.take point.toNat) ++ "." ++ String.ofList (ds.drop point.toNat)
    else if -5 < point && point ≤ 0 then "0." ++ zeros point.natAbs ++ toString c
    else
      let fraction := if ds.length = 1 then "" else "." ++ String.ofList (ds.drop 1)
      String.ofList (ds.take 1) ++ fraction ++ s!"e{point - 1}"

end Double

end ServiceTunnel.Json
