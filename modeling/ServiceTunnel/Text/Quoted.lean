import ServiceTunnel.Text.Printable

/-!
# ServiceTunnel.Text.Quoted

**Text quoted for an error message.** A quoted text stands between double quotes. Inside, the
characters with a short escape are written so, every other character that could not be seen, or
that would merge with the one before it, as its code point, and all else as it is.
-/

namespace ServiceTunnel.Text

/-- Hexadecimal digits without padding, in lower case. -/
def hexDigits (n : Nat) : List Char := Nat.toDigits 16 n

/-- The written form of one character of a quoted text. -/
def quoteChar (c : Char) : List Char :=
  match c with
  | '\x00' => ['\\', '0']
  | '\t' => ['\\', 't']
  | '\n' => ['\\', 'n']
  | '\r' => ['\\', 'r']
  | '"' => ['\\', '"']
  | '\\' => ['\\', '\\']
  | c =>
    if graphemeExtend.contains c || unprintable.contains c || ignorable.contains c then
      ['\\', 'u', '\x7b'] ++ hexDigits c.toNat ++ ['\x7d']
    else [c]

/-- The text between double quotes, with escapes. -/
def quote (s : String) : String :=
  String.ofList ('"' :: (s.toList.flatMap quoteChar ++ ['"']))

end ServiceTunnel.Text
