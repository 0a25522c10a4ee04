/-!
# ServiceTunnel.Text.Base64

**Bytes written with sixty-four characters.** Four characters stand for three bytes. The last four
may end with one or two equals signs; the bits that these leave over must be zero, so bytes have one
written form.
-/

namespace ServiceTunnel.Text.Base64

/-- Why a text is not the written form of bytes. -/
inductive Flaw where
  /-- A byte that cannot stand where it stands. -/
  | symbol (byte offset : Nat)
  /-- A character that stands for too many bits. -/
  | lastSymbol (byte offset : Nat)
  | length (n : Nat)
  | padding
deriving DecidableEq, Repr

/-- The wording. -/
def Flaw.message : Flaw → String
  | .symbol byte offset => s!"Invalid symbol {byte}, offset {offset}."
  | .lastSymbol byte offset => s!"Invalid last symbol {byte}, offset {offset}."
  | .length n => s!"Invalid input length: {n}"
  | .padding => "Invalid padding"

/-! ### Characters -/

/-- The equals sign, which fills up the last four characters. -/
def pad : Nat := 61

/-- The six bits that the character with a code stands for. -/
def sextet? (byte : Nat) : Option Nat :=
  if 65 ≤ byte ∧ byte ≤ 90 then some (byte - 65)
  else if 97 ≤ byte ∧ byte ≤ 122 then some (byte - 71)
  else if 48 ≤ byte ∧ byte ≤ 57 then some (byte + 4)
  else if byte = 43 then some 62
  else if byte = 47 then some 63
  else none

/-- The first byte from `offset` on that stands for no bits. -/
def badSymbol? (offset : Nat) : List Nat → Option Flaw
  | [] => none
  | b :: bs => if (sextet? b).isNone then some (.symbol b offset) else badSymbol? (offset + 1) bs

/-! ### The last characters -/

/-- What is wrong with the last characters, from `start` on, if they stand for the bits of `ended`
and equals signs follow these. -/
def endFlaw? (start : Nat) (ended : List Nat) (pads : Nat) : Option Flaw :=
  let last := ended.getLastD 0
  let unused := if ended.length = 2 then 16 else if ended.length = 3 then 4 else 1
  if ended.length < 2 then some (.length (start + ended.length))
  else if (ended.length + pads) % 4 ≠ 0 then some .padding
  else if ((sextet? last).getD 0) % unused ≠ 0 then
    some (.lastSymbol last (start + ended.length - 1))
  else none

/-- What is wrong with the last characters, at most four of them. -/
def lastFlaw? (start : Nat) (bytes : List Nat) : Option Flaw :=
  let bits := bytes.takeWhile (· != pad)
  let rest := bytes.drop bits.length
  let offset := start + bits.length
  match badSymbol? start bits with
  | some flaw => some flaw
  | none =>
    -- An equals sign stands third or fourth, and nothing else follows it.
    if !rest.isEmpty && (bits.length < 2 || rest.any (· != pad)) then some (.symbol pad offset)
    else endFlaw? start bits rest.length

/-! ### Whole texts -/

/-- What is wrong with bytes that should stand for other bytes. -/
def flaw? (bytes : List Nat) : Option Flaw :=
  let n := bytes.length
  let last := bytes.getLastD pad
  if n = 0 then none
  else if n % 4 = 1 && last != pad && (sextet? last).isNone then some (.symbol last (n - 1))
  else
    let start := n - (if n % 4 = 0 then 4 else n % 4)
    (badSymbol? 0 (bytes.take start)).or (lastFlaw? start (bytes.drop start))

/-- The text, if it is the written form of bytes, or why it is not. -/
def checked (text : String) : Except String String :=
  match flaw? (text.toUTF8.data.toList.map (·.toNat)) with
  | none => .ok text
  | some flaw => .error flaw.message

end ServiceTunnel.Text.Base64
