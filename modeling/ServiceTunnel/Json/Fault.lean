import ServiceTunnel.Json.Basic
import ServiceTunnel.Text.Quoted

/-!
# ServiceTunnel.Json.Fault

**What can be wrong with a JSON text, and where.** Either it is none, or it holds another value than
what is expected. A fault is placed at the byte that was taken last, or, if it was seen by looking
ahead, at the byte ahead. Lines are counted from one, and columns in bytes.
-/

namespace ServiceTunnel.Json

/-! ### Faults -/

/-- What a value is, told to someone who expected something else. -/
def described : Json → String
  | .null => "null"
  | .bool b => s!"boolean `{b}`"
  | .int i => s!"integer `{i}`"
  | .real text => s!"floating point `{text}`"
  | .str s => "string " ++ Text.quote s
  | .arr _ => "sequence"
  | .obj _ => "map"
  | .unreadable => "string"

/-- What one of several names would be. -/
def oneOf (names : List String) : String :=
  match names.map fun name => s!"`{name}`" with
  | [a, b] => s!"{a} or {b}"
  | names => "one of " ++ ", ".intercalate names

/-- What can be wrong with a text. -/
inductive Fault where
  | cutValue
  | cutList
  | cutObject
  | cutString
  | expectedColon
  | expectedListEnd
  | expectedObjectEnd
  | expectedIdent
  | expectedValue
  | invalidEscape
  | invalidNumber
  | numberOutOfRange
  | controlCharacter
  | loneSurrogate
  | cutSurrogate
  | expectedKey
  | trailingComma
  | trailingCharacters
  | tooDeep
  /-- A value of another type. -/
  | wrongType (found : Json) (expected : String)
  /-- A value of the right type that is not among those expected. -/
  | wrongValue (found : Json) (expected : String)
  /-- A name that is none of the `names`. -/
  | unknownName (found : String) (names : List String)
  /-- A text that is not of the form expected. -/
  | malformed (why : String)
deriving DecidableEq, Repr

namespace Fault

/-- The wording of a fault. -/
def message : Fault → String
  | .cutValue => "EOF while parsing a value"
  | .cutList => "EOF while parsing a list"
  | .cutObject => "EOF while parsing an object"
  | .cutString => "EOF while parsing a string"
  | .expectedColon => "expected `:`"
  | .expectedListEnd => "expected `,` or `]`"
  | .expectedObjectEnd => "expected `,` or `\x7d`"
  | .expectedIdent => "expected ident"
  | .expectedValue => "expected value"
  | .invalidEscape => "invalid escape"
  | .invalidNumber => "invalid number"
  | .numberOutOfRange => "number out of range"
  | .controlCharacter => "control character (\\u0000-\\u001F) found while parsing a string"
  | .loneSurrogate => "lone leading surrogate in hex escape"
  | .cutSurrogate => "unexpected end of hex escape"
  | .expectedKey => "key must be a string"
  | .trailingComma => "trailing comma"
  | .trailingCharacters => "trailing characters"
  | .tooDeep => "recursion limit exceeded"
  | .wrongType found expected => s!"invalid type: {described found}, expected {expected}"
  | .wrongValue found expected => s!"invalid value: {described found}, expected {expected}"
  | .unknownName found names => s!"unknown variant `{found}`, expected {oneOf names}"
  | .malformed why => why

end Fault

/-- The number of bytes of a text. -/
def byteCount (cs : List Char) : Nat := cs.foldl (fun n c => n + c.utf8Size) 0

/-- A fault, how many bytes were left to read, and whether it lies in the byte ahead. -/
structure Trouble where
  fault : Fault
  left : Nat
  ahead : Bool
deriving DecidableEq, Repr

/-- A piece read, with what is left of the text. -/
abbrev Read (α : Type) := Except Trouble (α × List Char)

/-- A fault behind all that was taken. -/
def behind {α : Type} (fault : Fault) (rest : List Char) : Read α :=
  .error ⟨fault, byteCount rest, false⟩

/-- A fault in the first byte of the character taken last. -/
def within {α : Type} (fault : Fault) (c : Char) (rest : List Char) : Read α :=
  .error ⟨fault, byteCount rest + (c.utf8Size - 1), false⟩

/-- A fault in the character ahead. -/
def atNext {α : Type} (fault : Fault) (rest : List Char) : Read α :=
  .error ⟨fault, byteCount rest, true⟩

/-! ### Places -/

/-- A fault with its line, from one, and its column, the bytes of that line up to it. -/
structure ParseError where
  fault : Fault
  line : Nat
  column : Nat
deriving DecidableEq, Repr

namespace ParseError

/-- The wording of an error. -/
def message (e : ParseError) : String :=
  s!"{e.fault.message} at line {e.line} column {e.column}"

/-- Places a fault in a text. -/
def locate (text : String) (t : Trouble) : ParseError :=
  let bytes := text.toUTF8.data.toList
  let taken := bytes.take (bytes.length - t.left + if t.ahead then 1 else 0)
  ⟨t.fault, 1 + taken.count 10, (taken.reverse.takeWhile (· != 10)).length⟩

end ParseError

end ServiceTunnel.Json
