import ServiceTunnel.Json.Basic

/-!
# ServiceTunnel.Json.Writer

**The compact text of a JSON value:** no blanks, the short escapes where there is one, every other
control character as four hexadecimal digits, and all other characters as they are.
-/

namespace ServiceTunnel.Json

/-- The hexadecimal digit of `n < 16`, in lower case. -/
def hexDigit (n : Nat) : Char := Char.ofNat (if n < 10 then 0x30 + n else 0x57 + n)

/-- The written form of one character of a string. -/
def writeChar (c : Char) : List Char :=
  if c = '"' then ['\\', '"']
  else if c = '\\' then ['\\', '\\']
  else if c = '\n' then ['\\', 'n']
  else if c = '\r' then ['\\', 'r']
  else if c = '\t' then ['\\', 't']
  else if c = '\x08' then ['\\', 'b']
  else if c = '\x0c' then ['\\', 'f']
  else if c.toNat < 0x20 then
    ['\\', 'u', '0', '0', hexDigit (c.toNat / 16), hexDigit (c.toNat % 16)]
  else [c]

/-- A string between double quotes. -/
def writeString (s : String) : List Char := '"' :: (s.toList.flatMap writeChar ++ ['"'])

mutual

/-- The text of a value. -/
def write : Json → List Char
  | .null => "null".toList
  | .bool true => "true".toList
  | .bool false => "false".toList
  | .int i => (toString i).toList
  | .real text => text.toList
  | .str s => writeString s
  | .arr items => '[' :: (writeItems items ++ [']'])
  | .obj fields => '\x7b' :: (writeFields fields ++ ['\x7d'])
  | .unreadable => "\"\\ud800\"".toList

/-- The texts of the items, commas between them. -/
def writeItems : List Json → List Char
  | [] => []
  | [j] => write j
  | j :: rest => write j ++ ',' :: writeItems rest

/-- The texts of the fields, commas between them. -/
def writeFields : List (String × Json) → List Char
  | [] => []
  | [(name, j)] => writeString name ++ ':' :: write j
  | (name, j) :: rest => writeString name ++ ':' :: (write j ++ ',' :: writeFields rest)

end

/-- The text of a value as a string. -/
def compact (j : Json) : String := String.ofList j.write

end ServiceTunnel.Json
