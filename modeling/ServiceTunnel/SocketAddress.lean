/-!
# ServiceTunnel.SocketAddress

**Addresses to listen on:** four octets or eight groups, and a port. An address of eight groups is
written in brackets, with `::` for its first longest run of at least two zero groups, and may name
a scope. Reading takes any of the spellings of an address, writing has one.
-/

namespace ServiceTunnel

/-- The address of a listener. -/
inductive SocketAddress where
  | v4 (octets : List Nat) (port : Nat)
  | v6 (groups : List Nat) (scope : Nat) (port : Nat)
deriving DecidableEq, Repr

namespace SocketAddress

/-! ### Reading -/

/-- The value of a digit in the numeral system of `radix`, at most sixteen. -/
def digit? (radix : Nat) (c : Char) : Option Nat :=
  let n := c.toNat
  let v := if 48 ≤ n ∧ n ≤ 57 then n - 48 else if 97 ≤ n ∧ n ≤ 102 then n - 87
    else if 65 ≤ n ∧ n ≤ 70 then n - 55 else 16
  if v < radix then some v else none

/-- The digits at the start of the text. -/
def digits (radix : Nat) : List Char → List Nat × List Char
  | [] => ([], [])
  | c :: cs =>
    match digit? radix c with
    | some d => ((digits radix cs).1.cons d, (digits radix cs).2)
    | none => ([], c :: cs)

/-- Reads a number of at least one digit that is below `bound`. -/
def number (radix bound : Nat) (cs : List Char) : Option ((List Nat × Nat) × List Char) :=
  let (ds, rest) := digits radix cs
  let n := ds.foldl (fun n d => radix * n + d) 0
  if ds.isEmpty ∨ bound ≤ n then none else some ((ds, n), rest)

/-- Reads the mark `c`. -/
def mark (c : Char) : List Char → Option (List Char)
  | d :: cs => if d = c then some cs else none
  | [] => none

/-- Reads one octet: no zero before another digit. -/
def octet (cs : List Char) : Option (Nat × List Char) :=
  match number 10 256 cs with
  | some ((ds, n), rest) => if ds.length > 1 ∧ ds.head? = some 0 then none else some (n, rest)
  | none => none

/-- Reads four octets with points between them. -/
def octets (cs : List Char) : Option (List Nat × List Char) := do
  let (a, cs) ← octet cs
  let (b, cs) ← octet (← mark '.' cs)
  let (c, cs) ← octet (← mark '.' cs)
  let (d, cs) ← octet (← mark '.' cs)
  return ([a, b, c, d], cs)

/-- Reads one group of at most four hexadecimal digits. -/
def group (cs : List Char) : Option (Nat × List Char) :=
  match number 16 65536 cs with
  | some ((ds, n), rest) => if ds.length > 4 then none else some (n, rest)
  | none => none

/-- Reads a colon, unless the piece is the first. -/
def separator (isFirst : Bool) (cs : List Char) : Option (List Char) :=
  if isFirst then some cs else mark ':' cs

/-- Reads up to `limit` groups with colons between them, the last two perhaps as four octets; says
whether they were. -/
def groups (isFirst : Bool) : Nat → List Char → (List Nat × Bool) × List Char
  | 0, cs => (([], false), cs)
  | limit + 1, cs =>
    let quad := if limit = 0 then none else (separator isFirst cs).bind octets
    match quad with
    | some ([a, b, c, d], rest) => (([256 * a + b, 256 * c + d], true), rest)
    | _ =>
      match (separator isFirst cs).bind group with
      | none => (([], false), cs)
      | some (g, rest) =>
        let ((more, quad), rest) := groups false limit rest
        ((g :: more, quad), rest)

/-- Reads eight groups, of which a run of at least one zero may be left out. -/
def eightGroups (cs : List Char) : Option (List Nat × List Char) :=
  let ((head, quad), rest) := groups true 8 cs
  if head.length = 8 then some (head, rest)
  else if quad then none
  else do
    let rest ← mark ':' rest
    let rest ← mark ':' rest
    let ((tail, _), rest) := groups true (7 - head.length) rest
    return (head ++ List.replicate (8 - head.length - tail.length) 0 ++ tail, rest)

/-- Reads a colon and a port. -/
def readPort (cs : List Char) : Option (Nat × List Char) := do
  let ((_, n), cs) ← number 10 65536 (← mark ':' cs)
  return (n, cs)

/-- Reads a scope, which is zero if none is named. -/
def readScope (cs : List Char) : Nat × List Char :=
  match (mark '%' cs).bind (number 10 4294967296) with
  | some ((_, n), rest) => (n, rest)
  | none => (0, cs)

/-- Reads four octets and a port. -/
def readV4 (cs : List Char) : Option (SocketAddress × List Char) := do
  let (os, cs) ← octets cs
  let (port, cs) ← readPort cs
  return (.v4 os port, cs)

/-- Reads eight groups in brackets and a port. -/
def readV6 (cs : List Char) : Option (SocketAddress × List Char) := do
  let (gs, cs) ← eightGroups (← mark '[' cs)
  let (scope, cs) := readScope cs
  let (port, cs) ← readPort (← mark ']' cs)
  return (.v6 gs scope port, cs)

/-- Reads an address that is the whole text. -/
def parse? (text : String) : Option SocketAddress :=
  match (readV4 text.toList).or (readV6 text.toList) with
  | some (a, []) => some a
  | _ => none

/-! ### Writing -/

/-- The octets with points between them. -/
def octetsText (os : List Nat) : String := ".".intercalate (os.map toString)

/-- The groups in hexadecimal with colons between them. -/
def groupsText (gs : List Nat) : String :=
  ":".intercalate (gs.map fun g => String.ofList (Nat.toDigits 16 g))

/-- The start and length of the first longest run of zeros, counting from `i`, where `run` zeros
stand just before and `best` is the longest run so far. -/
def longestZeros (i run : Nat) (best : Nat × Nat) : List Nat → Nat × Nat
  | [] => best
  | g :: gs =>
    if g = 0 then
      let run := run + 1
      longestZeros (i + 1) run (if best.2 < run then (i + 1 - run, run) else best) gs
    else longestZeros (i + 1) 0 best gs

/-- The groups with the first longest run of zeros left out. -/
def compressedText (gs : List Nat) : String :=
  let (start, len) := longestZeros 0 0 (0, 0) gs
  if len > 1 then groupsText (gs.take start) ++ "::" ++ groupsText (gs.drop (start + len))
  else groupsText gs

/-- The text of eight groups; the groups that embed four octets end in these. -/
def ipv6Text (gs : List Nat) : String :=
  match gs with
  | [0, 0, 0, 0, 0, 0xffff, g, h] =>
    "::ffff:" ++ octetsText [g / 256, g % 256, h / 256, h % 256]
  | gs => compressedText gs

/-- The text of an address. -/
def text : SocketAddress → String
  | .v4 os port => s!"{octetsText os}:{port}"
  | .v6 gs scope port =>
    if scope = 0 then s!"[{ipv6Text gs}]:{port}" else s!"[{ipv6Text gs}%{scope}]:{port}"

end SocketAddress

end ServiceTunnel
