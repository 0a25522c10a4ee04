import ServiceTunnel.Text.Hex

/-!
# ServiceTunnel.Http.Encoding

**Percent encoding.** A character that cannot stand for itself is written as the bytes of its UTF-8
form, each as a percent sign and two hexadecimal digits. Which characters those are depends on the
place. In reading, a percent sign without two digits stands for itself.
-/

namespace ServiceTunnel.Http

/-- The hexadecimal digit of `n < 16`, in upper case. -/
def upperHex (n : Nat) : Char := Char.ofNat (if n < 10 then 0x30 + n else 0x37 + n)

/-- A byte as a percent sign and two digits. -/
def percentByte (b : UInt8) : List Char := ['%', upperHex (b.toNat / 16), upperHex (b.toNat % 16)]

/-- A character as its bytes. -/
def percentChar (c : Char) : List Char := (String.utf8EncodeChar c).flatMap percentByte

/-- Characters that can be written nowhere in an address. -/
def isHidden (c : Char) : Bool := c.toNat < 0x20 || 0x7e < c.toNat

/-- A text in which the characters of `escaped`, and those that can be written nowhere, are
encoded. -/
def encode (escaped cs : List Char) : List Char :=
  cs.flatMap fun c => if isHidden c || escaped.contains c then percentChar c else [c]

/-- The bytes that an encoded text stands for. -/
def decodeBytes : List Char → List UInt8
  | '%' :: a :: b :: rest =>
    match Text.hexValue? a, Text.hexValue? b with
    | some x, some y => UInt8.ofNat (16 * x + y) :: decodeBytes rest
    | _, _ => 0x25 :: decodeBytes (a :: b :: rest)
  | c :: rest => String.utf8EncodeChar c ++ decodeBytes rest
  | [] => []

/-- The text that an encoded text stands for, if its bytes are one. -/
def decode? (cs : List Char) : Option (List Char) :=
  (String.fromUTF8? ⟨(decodeBytes cs).toArray⟩).map String.toList

/-! ### What is encoded where -/

/-- What is encoded in a path. -/
def pathEscapes : List Char := [' ', '"', '#', '<', '>', '?', '\x60', '\x7b', '\x7d']

/-- What is encoded in a query. -/
def queryEscapes : List Char := [' ', '"', '#', '<', '>']

/-- What is encoded in the query of a resource on a server. -/
def serverQueryEscapes : List Char := '\x27' :: queryEscapes

/-- What is encoded in a name or a password. -/
def userEscapes : List Char :=
  ['/', ':', ';', '=', '@', '[', '\\', ']', '^', '|'] ++ pathEscapes

/-- What is encoded in a fragment. -/
def fragmentEscapes : List Char := [' ', '"', '<', '>', '\x60']

/-! ### Forms -/

/-- Characters that stand for themselves in a form. -/
def isFormChar (c : Char) : Bool := c.isAlphanum || c == '*' || c == '-' || c == '.' || c == '_'

/-- A text as it stands in a form, with a plus sign for every space. -/
def formText (s : String) : List Char :=
  s.toList.flatMap fun c =>
    if c = ' ' then ['+'] else if isFormChar c then [c] else percentChar c

/-- Names and values as a form. -/
def formEncode (pairs : List (String × String)) : String :=
  String.ofList (['&'].intercalate (pairs.map fun p => formText p.1 ++ '=' :: formText p.2))

end ServiceTunnel.Http
