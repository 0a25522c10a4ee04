/-!
# ServiceTunnel.Text.Part

**Parts of a text.**
-/

namespace ServiceTunnel.Text

/-- Whether `part` stands somewhere in the text. -/
def hasPart (part : List Char) : List Char → Bool
  | [] => part.isEmpty
  | c :: rest => part.isPrefixOf (c :: rest) || hasPart part rest

end ServiceTunnel.Text
