import ServiceTunnel.Text.Hex

/-!
# ServiceTunnel.Text.Table

**Tables about characters.** A table is written as a text of rows with blanks between them. A row
says something of a range of characters: `41-5a:61` of those from the first code point to the last,
`100-12e/2:101` of every other one of them, `a8:20` of a single one. All numbers are hexadecimal.
-/

namespace ServiceTunnel.Text

/-- A row of a table. -/
structure Row where
  first : Nat
  last : Nat
  /-- How far apart the characters are. -/
  stride : Nat
  /-- What is said of them. -/
  entry : List Char
deriving DecidableEq, Repr

namespace Row

/-- Whether a row is about a character. -/
def covers (r : Row) (c : Char) : Bool :=
  r.first ≤ c.toNat && c.toNat ≤ r.last && (c.toNat - r.first) % r.stride == 0

/-- Reads a row. -/
def ofChars (cs : List Char) : Row :=
  let range := cs.takeWhile (· != ':')
  let bounds := range.takeWhile (· != '/')
  let first := hexNumber (bounds.takeWhile (· != '-'))
  { first
    last := if bounds.contains '-' then hexNumber (bounds.dropWhile (· != '-')) else first
    stride := if range.contains '/' then hexNumber (range.dropWhile (· != '/')) else 1
    entry := (cs.dropWhile (· != ':')).drop 1 }

end Row

/-- The parts of a text between the characters that satisfy `p`. -/
def splitAt (p : Char → Bool) (cs : List Char) : List (List Char) :=
  cs.foldr (fun c parts => if p c then [] :: parts else
    match parts with
    | part :: rest => (c :: part) :: rest
    | [] => [[c]]) [[]]

/-- A table as its rows. -/
abbrev Table := List Row

namespace Table

/-- Reads a table. -/
def ofString (text : String) : Table :=
  ((splitAt (fun c => c == ' ' || c == '\n') text.toList).filter (!·.isEmpty)).map Row.ofChars

/-- The row about a character. -/
def find? (t : Table) (c : Char) : Option Row := List.find? (·.covers c) t

/-- What a table says of a character. -/
def entry? (t : Table) (c : Char) : Option (List Char) := (t.find? c).map (·.entry)

end Table

end ServiceTunnel.Text
