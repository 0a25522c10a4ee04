import ServiceTunnel.Json.Fault
import ServiceTunnel.Text.Hex

/-!
# ServiceTunnel.Json.Quote

**Reading strings.** A character can be written as an escape, one beyond sixteen bits as two of
them, a surrogate pair. Half a pair is a fault, unless the string is only passed over; then the
string has no value.
-/

namespace ServiceTunnel.Json

/-! ### Escapes -/

/-- The unit that four hexadecimal digits spell. -/
def hexUnit? (a b c d : Char) : Option Nat := do
  let a ← Text.hexValue? a
  let b ← Text.hexValue? b
  let c ← Text.hexValue? c
  let d ← Text.hexValue? d
  return ((a * 16 + b) * 16 + c) * 16 + d

/-- The fault where four hexadecimal digits should stand. -/
def badUnit {α : Type} (cs : List Char) : Read α :=
  if byteCount cs < 4 then behind .cutString []
  else .error ⟨.invalidEscape, byteCount cs - 4, false⟩

/-- Whether a unit of sixteen bits is the first half of a surrogate pair. -/
def isHighSurrogate (u : Nat) : Bool := 0xd800 ≤ u && u ≤ 0xdbff

/-- Whether a unit of sixteen bits is the second half of a surrogate pair. -/
def isLowSurrogate (u : Nat) : Bool := 0xdc00 ≤ u && u ≤ 0xdfff

/-- The character of a surrogate pair. -/
def joinSurrogates (u v : Nat) : Char :=
  Char.ofNat (0x10000 + (u - 0xd800) * 0x400 + (v - 0xdc00))

/-- The character that a one-letter escape stands for. -/
def shortEscape? (c : Char) : Option Char :=
  match c with
  | '"' => some '"'
  | '\\' => some '\\'
  | '/' => some '/'
  | 'b' => some '\x08'
  | 'f' => some '\x0c'
  | 'n' => some '\n'
  | 'r' => some '\r'
  | 't' => some '\t'
  | _ => none

/-! ### Strings that are passed over -/

/-- A piece of a string: a character, or a unit of sixteen bits written as an escape. -/
inductive Piece where
  | char (c : Char)
  | unit (u : Nat)
deriving DecidableEq, Repr

/-- The text of the pieces, if every half of a surrogate pair stands beside its other half. -/
def joinPieces : List Piece → Option (List Char)
  | [] => some []
  | .char c :: rest => (joinPieces rest).map (c :: ·)
  | .unit u :: rest =>
    if isLowSurrogate u then none
    else if isHighSurrogate u then
      match rest with
      | .unit v :: rest =>
        if isLowSurrogate v then (joinPieces rest).map (joinSurrogates u v :: ·) else none
      | _ => none
    else (joinPieces rest).map (Char.ofNat u :: ·)

/-- Reads the pieces of a string that is passed over, up to its closing quote. -/
def readPieces : List Char → Except Trouble (List Piece × List Char)
  | [] => behind .cutString []
  | '"' :: cs => .ok ([], cs)
  | '\\' :: 'u' :: a :: b :: c :: d :: cs =>
    match hexUnit? a b c d with
    | none => badUnit (a :: b :: c :: d :: cs)
    | some u => do
      let (rest, cs) ← readPieces cs
      return (.unit u :: rest, cs)
  | '\\' :: 'u' :: cs => badUnit cs
  | '\\' :: e :: cs =>
    match shortEscape? e with
    | none => within .invalidEscape e cs
    | some c => do
      let (rest, cs) ← readPieces cs
      return (.char c :: rest, cs)
  | '\\' :: [] => behind .cutString []
  | c :: cs =>
    if c.toNat < 0x20 then behind .controlCharacter (c :: cs)
    else do
      let (rest, cs) ← readPieces cs
      return (.char c :: rest, cs)

/-! ### Strings with a value -/

/-- Reads the text of a string up to its closing quote. If there is a unit `high`, the text so far
ended with it, the first half of a surrogate pair. -/
def readChars (high : Option Nat) : List Char → Except Trouble (List Char × List Char)
  | [] => behind .cutString []
  | '\\' :: 'u' :: a :: b :: c :: d :: cs =>
    match hexUnit? a b c d, high with
    | none, _ => badUnit (a :: b :: c :: d :: cs)
    | some v, some u =>
      if isLowSurrogate v then do
        let (rest, cs) ← readChars none cs
        return (joinSurrogates u v :: rest, cs)
      else behind .loneSurrogate cs
    | some u, none =>
      if isLowSurrogate u then behind .loneSurrogate cs
      else if isHighSurrogate u then readChars (some u) cs
      else do
        let (rest, cs) ← readChars none cs
        return (Char.ofNat u :: rest, cs)
  | '\\' :: 'u' :: cs => badUnit cs
  | '\\' :: [] => behind .cutString []
  | '\\' :: e :: cs =>
    match shortEscape? e, high with
    | _, some _ => within .cutSurrogate e cs
    | none, none => within .invalidEscape e cs
    | some c, none => do
      let (rest, cs) ← readChars none cs
      return (c :: rest, cs)
  | c :: cs =>
    if high.isSome then within .cutSurrogate c cs
    else if c = '"' then .ok ([], cs)
    else if c.toNat < 0x20 then behind .controlCharacter cs
    else do
      let (rest, cs) ← readChars none cs
      return (c :: rest, cs)

/-- Reads a string behind its opening quote. One that is passed over has no value if half a
surrogate pair is missing. -/
def readString (isPassed : Bool) (cs : List Char) :
    Except Trouble (Option String × List Char) :=
  if isPassed then do
    let (pieces, cs) ← readPieces cs
    return ((joinPieces pieces).map String.ofList, cs)
  else do
    let (text, cs) ← readChars none cs
    return (some (String.ofList text), cs)

end ServiceTunnel.Json
