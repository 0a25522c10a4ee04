/-!
# ServiceTunnel.Http.Reference

**What the first line of a request asks for:** a path, and a query if there is a question mark.
What follows a number sign is not sent. A text with a character that a request cannot carry there
is no reference.
-/

namespace ServiceTunnel.Http

/-- A path with its query. -/
structure Reference where
  path : String
  query : Option String
deriving DecidableEq, Repr

namespace Reference

/-- Characters that a query carries. -/
def inQuery (c : Char) : Bool :=
  let n := c.toNat
  n == 0x21 || (0x24 ≤ n && n ≤ 0x3b) || n == 0x3d || (0x3f ≤ n && n != 0x7f)

/-- Characters that a path carries. -/
def inPath (c : Char) : Bool := c == '"' || (inQuery c && c != '?' && c != '\x60')

/-- Reads a reference. -/
def parse? (text : String) : Option Reference :=
  let shown := text.toList.takeWhile (· != '#')
  let path := shown.takeWhile (· != '?')
  let query := (shown.dropWhile (· != '?')).tail?
  if path.all inPath && (query.getD []).all inQuery then
    some ⟨String.ofList path, query.map String.ofList⟩
  else none

end Reference

end ServiceTunnel.Http
