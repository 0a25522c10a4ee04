import ServiceTunnel.Domain.Name
import ServiceTunnel.Http.Encoding
import ServiceTunnel.SocketAddress

/-!
# ServiceTunnel.Http.Host

**Names of hosts.** A host on the network is named by eight groups in brackets, by four octets in
any spelling, or by a domain name in any script. Elsewhere a name is any text that keeps to itself.
-/

namespace ServiceTunnel.Http.Host

/-! ### Four octets -/

/-- The value of a number in decimal, in octal after a zero, or in hexadecimal after `0x`. -/
def number? (cs : List Char) : Option Nat :=
  let value (radix : Nat) (cs : List Char) : Option Nat :=
    match SocketAddress.digits radix cs with
    | (ds, []) => some (ds.foldl (fun n d => radix * n + d) 0)
    | _ => none
  match cs with
  | [] => none
  | '0' :: 'x' :: rest | '0' :: 'X' :: rest => value 16 rest
  | '0' :: c :: rest => value 8 (c :: rest)
  | _ => value 10 cs

/-- The four octets that a host of up to four numbers stands for. -/
def octets? (parts : List (List Char)) : Option (List Nat) := do
  let ns ← parts.mapM number?
  let last ← ns.getLast?
  let front := ns.dropLast
  if 4 < ns.length ∨ front.any (255 < ·) ∨ 1 <<< (8 * (4 - front.length)) ≤ last then none
  else
    let n := front.zipIdx.foldl (fun n p => n + p.1 <<< (8 * (3 - p.2))) last
    return [n / 16777216, n / 65536 % 256, n / 256 % 256, n % 256]

/-- The parts of a name between its points, without an empty one at its end. -/
def parts (cs : List Char) : List (List Char) :=
  let ps := Text.splitAt (· == '.') cs
  if 1 < ps.length && ps.getLast? == some [] then ps.dropLast else ps

/-- Whether a name ends with a number, so that it can be no domain. -/
def endsInNumber (cs : List Char) : Bool :=
  let last := (parts cs).getLast?.getD []
  (!last.isEmpty && last.all Char.isDigit) || (number? last).isSome

/-! ### All names -/

/-- Reads eight groups in brackets behind the first of these. -/
def bracketed? (cs : List Char) : Option String :=
  match SocketAddress.eightGroups cs with
  | some (gs, [']']) => some s!"[{SocketAddress.compressedText gs}]"
  | _ => none

/-- Reads the name of a host on the network. -/
def parse? : List Char → Option String
  | '[' :: cs => bracketed? cs
  | cs => do
    let name ← Domain.toAscii? (← decode? cs)
    if name.isEmpty then none
    else if endsInNumber name then (octets? (parts name)).map SocketAddress.octetsText
    else some (String.ofList name)

/-- Characters that cannot stand in a name of any kind. -/
def reserved : List Char := '\x00' :: '\t' :: '\n' :: '\r' :: " #/:<>?@[\\]^|".toList

/-- Reads the name of a host that need not be on the network. -/
def parseAny? : List Char → Option String
  | '[' :: cs => bracketed? cs
  | cs => if cs.any reserved.contains then none else some (String.ofList (encode [] cs))

end ServiceTunnel.Http.Host
