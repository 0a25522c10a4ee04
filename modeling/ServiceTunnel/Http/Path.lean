import ServiceTunnel.Http.Encoding
import ServiceTunnel.Text.Table

/-!
# ServiceTunnel.Http.Path

**Paths in their one form.** A path is a list of segments. A segment that says "here" is dropped,
and one that says "up" drops the one before it, unless that names a drive.
-/

namespace ServiceTunnel.Http.Path

/-- A segment with every encoded point written as one. -/
def plainPoints : List Char → List Char
  | '%' :: '2' :: 'e' :: rest | '%' :: '2' :: 'E' :: rest => '.' :: plainPoints rest
  | c :: rest => c :: plainPoints rest
  | [] => []

/-- Whether a segment names a drive. -/
def isDrive : List Char → Bool
  | [c, d] => c.isAlpha && (d == ':' || d == '|')
  | _ => false

/-- The segments that are left once the last of `done`, which stand last first, is gone. -/
def up (done : List (List Char)) : List (List Char) :=
  if done.head?.any isDrive then done else done.tail

/-- A segment as it is written. The first of a file can name a drive, which is written with a
colon. -/
def written (isFirstOfFile : Bool) (s : List Char) : List Char :=
  if isFirstOfFile && isDrive s then s.take 1 ++ [':'] else encode pathEscapes s

/-- The segments that are left, last first, where `done` are those so far. -/
def settle (ofFile : Bool) (done : List (List Char)) : List (List Char) → List (List Char)
  | [] => done
  | s :: rest =>
    let isLast := rest.isEmpty
    match plainPoints s with
    | ['.', '.'] => settle ofFile (if isLast then [] :: up done else up done) rest
    | ['.'] => settle ofFile (if isLast then [] :: done else done) rest
    | _ => settle ofFile (written (ofFile && done.isEmpty) s :: done) rest

/-- The text of a path from its segments. -/
def text (segments : List (List Char)) : List Char := segments.flatMap ('/' :: ·)

/-- Whether a character parts segments. A backslash does so on servers and in files. -/
def isSlash (plain : Bool) (c : Char) : Bool := c == '/' || (!plain && c == '\\')

/-- What follows the slash at the start of a text, or the text if there is none. -/
def dropSlash (plain : Bool) : List Char → List Char
  | [] => []
  | c :: cs => if isSlash plain c then cs else c :: cs

/-- Reads the path of a resource on a server, or, if it is `plain`, of any other. -/
def read (plain : Bool) (cs : List Char) : String :=
  if plain && cs.isEmpty then ""
  else
    let segments := Text.splitAt (isSlash plain) (dropSlash plain cs)
    String.ofList (text (settle false [] segments).reverse)

/-- The segments of the path of a file. -/
def ofFile (cs : List Char) : List (List Char) :=
  (settle true [] (Text.splitAt (isSlash false) (dropSlash false cs))).reverse

/-- The path of a file, without empty segments at its start. -/
def fileText (segments : List (List Char)) : String :=
  String.ofList ('/' :: (text segments).dropWhile (· == '/'))

end ServiceTunnel.Http.Path
