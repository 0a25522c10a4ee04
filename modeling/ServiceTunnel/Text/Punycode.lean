/-!
# ServiceTunnel.Text.Punycode

**Any text in letters, digits and hyphens.** The characters of ASCII come first, then one number for
each other character in ascending order: how many places, counted over all rounds through the text,
lie between it and the one before. A number has its lowest digit first, and ends with the first
digit below a threshold that adapts to the numbers so far.
-/

namespace ServiceTunnel.Text.Punycode

/-! ### Digits -/

/-- The digit of the value `d < 36`. -/
def digitChar (d : Nat) : Char := Char.ofNat (if d < 26 then 0x61 + d else 0x16 + d)

/-- The value of a digit. -/
def digitValue? (c : Char) : Option Nat :=
  if 'a' ≤ c ∧ c ≤ 'z' then some (c.toNat - 0x61)
  else if 'A' ≤ c ∧ c ≤ 'Z' then some (c.toNat - 0x41)
  else if c.isDigit then some (c.toNat - 0x16)
  else none

/-- The threshold for the digit at the place `k`, counted in steps of 36. -/
def threshold (k bias : Nat) : Nat := max 1 (min 26 (k - bias))

theorem one_le_threshold (k bias : Nat) : 1 ≤ threshold k bias := Nat.le_max_left ..

/-- Divides `delta` until it is small, and gives 36 for each division. -/
def shrink (delta : Nat) : Nat × Nat :=
  if h : 455 < delta then ((shrink (delta / 35)).1 + 36, (shrink (delta / 35)).2) else (0, delta)
termination_by delta
decreasing_by all_goals omega

/-- The bias after the number `delta`, with which there are `count` characters. -/
def adapt (delta count : Nat) (isFirst : Bool) : Nat :=
  let delta := if isFirst then delta / 700 else delta / 2
  let (steps, delta) := shrink (delta + delta / count)
  steps + 36 * delta / (delta + 38)

/-! ### Writing -/

/-- The digits of a number. -/
def encodeNumber (bias k q : Nat) : List Char :=
  if h : q < threshold k bias then [digitChar q]
  else
    let t := threshold k bias
    digitChar (t + (q - t) % (36 - t)) :: encodeNumber bias (k + 36) ((q - t) / (36 - t))
termination_by q
decreasing_by
  have := one_le_threshold k bias
  calc (q - threshold k bias) / (36 - threshold k bias)
      ≤ q - threshold k bias := Nat.div_le_self _ _
    _ < q := by omega

/-- What is known while a text is written: the digits so far, last number first, the number to come,
the bias, and how many characters are written. -/
structure Progress where
  digits : List Char
  delta : Nat
  bias : Nat
  count : Nat

/-- Passes a character in the round for the code point `n`. -/
def pass (basics n : Nat) (p : Progress) (c : Char) : Progress :=
  if c.toNat < n then { p with delta := p.delta + 1 }
  else if c.toNat = n then
    { digits := p.digits ++ encodeNumber p.bias 36 p.delta
      delta := 0
      bias := adapt p.delta (p.count + 1) (p.count == basics)
      count := p.count + 1 }
  else p

/-- Makes a round for each of the ascending code points, of which the last passed was `before`. -/
def rounds (cs : List Char) (basics before : Nat) : List Nat → Progress → List Char
  | [], p => p.digits
  | n :: rest, p =>
    let p := { p with delta := p.delta + (n - before) * (p.count + 1) }
    let p := cs.foldl (pass basics n) p
    rounds cs basics (n + 1) rest { p with delta := p.delta + 1 }

/-- A text in letters, digits and hyphens. -/
def encode (cs : List Char) : List Char :=
  let basic := cs.filter (·.toNat < 128)
  let others := ((cs.filter (128 ≤ ·.toNat)).map Char.toNat).mergeSort.eraseReps
  basic ++ (if basic.isEmpty then [] else ['-'])
    ++ rounds cs basic.length 128 others ⟨[], 0, 72, basic.length⟩

/-! ### Reading -/

/-- Reads the digits of a number from the place `k` on, of which each unit counts `weight`. -/
def decodeNumber? (bias k weight : Nat) : List Char → Option (Nat × List Char)
  | [] => none
  | c :: rest =>
    match digitValue? c with
    | none => none
    | some d =>
      let t := threshold k bias
      if d < t then some (d * weight, rest)
      else (decodeNumber? bias (k + 36) (weight * (36 - t)) rest).map fun (n, rest) =>
        (d * weight + n, rest)

/-- Inserts the characters that at most `fuel` numbers stand for, where `n` is the least code point
and `i` the place at which the count goes on. -/
def insertAll? : Nat → Nat → Nat → Nat → List Char → List Char → Option (List Char)
  | 0, _, _, _, cs, digits => if digits.isEmpty then some cs else none
  | fuel + 1, bias, n, i, cs, digits =>
    if digits.isEmpty then some cs
    else
      match decodeNumber? bias 36 1 digits with
      | none => none
      | some (delta, rest) =>
        let count := cs.length + 1
        let n := n + (i + delta) / count
        let place := (i + delta) % count
        if n.isValidChar then
          insertAll? fuel (adapt delta count (i == 0)) n (place + 1)
            (cs.take place ++ Char.ofNat n :: cs.drop place) rest
        else none

/-- The text that letters, digits and hyphens stand for. The characters of ASCII, if there are any,
stand before the last hyphen. -/
def decode? (cs : List Char) : Option (List Char) :=
  let digits := (cs.reverse.takeWhile (· != '-')).reverse
  match cs.take (cs.length - digits.length) with
  | ['-'] => none
  | front => insertAll? digits.length 72 128 0 front.dropLast digits

end ServiceTunnel.Text.Punycode
