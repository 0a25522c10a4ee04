import ServiceTunnel.Http.Host
import ServiceTunnel.Http.Path

/-!
# ServiceTunnel.Http.Url

**Addresses of resources.** Reading an address brings it into the one form in which it is sent and
shown: the scheme in lower case, the host in its one spelling, the port left out where it is the
usual one, the path without segments that say "here" or "up", and what cannot be written encoded.
What else holds depends on the scheme: resources are on servers, in files, or anywhere.
-/

namespace ServiceTunnel.Http

/-- Where a resource is, and in whose name it is asked for. -/
structure Authority where
  /-- The name of whoever asks, encoded. -/
  user : String := ""
  /-- The password of whoever asks, encoded. -/
  password : String := ""
  /-- The host, empty for none in particular. -/
  host : String
  /-- The port, unless it is the usual one. -/
  port : Option Nat := none
deriving DecidableEq, Repr

/-- The address of a resource. -/
structure Url where
  scheme : String
  authority : Option Authority
  path : String
  query : Option String := none
  fragment : Option String := none
deriving DecidableEq, Repr

/-! ### Writing -/

namespace Authority

/-- Whoever asks, as it stands before the host. -/
def userText (a : Authority) : String :=
  let password := if a.password = "" then "" else ":" ++ a.password
  if a.user ++ password = "" then "" else a.user ++ password ++ "@"

/-- The host with the port. -/
def hostText (a : Authority) : String := a.host ++ (a.port.map fun p => s!":{p}").getD ""

/-- The authority without whoever asks. One that spells no text stays. -/
def withoutUser (a : Authority) : Authority :=
  let spells (s : String) : Bool := (decode? s.toList).isSome
  if spells a.user && (a.user != "" || spells a.password) then { a with user := "", password := "" }
  else a

end Authority

namespace Url

/-- The text of an address. -/
def text (u : Url) : String :=
  let place := match u.authority with
    | some a => "//" ++ a.userText ++ a.hostText
    | none => if u.path.startsWith "//" then "/." else ""
  s!"{u.scheme}:" ++ place ++ u.path ++ (u.query.map ("?" ++ ·)).getD ""
    ++ (u.fragment.map ("#" ++ ·)).getD ""

/-- Where a resource is: the scheme, the host and the port. -/
def origin (u : Url) : String :=
  s!"{u.scheme}://" ++ (u.authority.map (·.hostText)).getD ""

/-- Whether the address names a host. -/
def hasHost (u : Url) : Bool := u.authority.any (·.host != "")

/-- The address without whoever asks. -/
def withoutUser (u : Url) : Url := { u with authority := u.authority.map (·.withoutUser) }

/-- The address with more fields in its query. -/
def withFields (u : Url) (pairs : List (String × String)) : Url :=
  let more := formEncode pairs
  { u with query := some (match u.query with
      | none | some "" => more
      | some q => q ++ "&" ++ more) }

/-! ### Parts of a text -/

/-- Whether addresses of a scheme are on servers. -/
def isOnServer (scheme : String) : Bool := ["http", "https", "ws", "wss", "ftp"].contains scheme

/-- The usual port of a scheme. -/
def usualPort? : String → Option Nat
  | "http" | "ws" => some 80
  | "https" | "wss" => some 443
  | "ftp" => some 21
  | _ => none

/-- Whether a character is a slash of either kind. -/
def isAnySlash (c : Char) : Bool := c == '/' || c == '\\'

/-- Whether a character ends an authority. A backslash does so on servers. -/
def isEnd (onServer : Bool) (c : Char) : Bool :=
  c == '/' || c == '?' || c == '#' || (onServer && c == '\\')

/-- The scheme of a text, in lower case, with what follows its colon. -/
def scheme? (cs : List Char) : Option (String × List Char) :=
  let word := cs.takeWhile fun c => c.isAlphanum || c == '+' || c == '-' || c == '.'
  match word, cs.drop word.length with
  | c :: _, ':' :: rest =>
    if c.isAlpha then some (String.ofList (word.map Char.toLower), rest) else none
  | _, _ => none

/-- The text without what does not count: blanks and controls around it, and line breaks and tabs
in it. -/
def visible (text : String) : List Char :=
  let isOuter (c : Char) : Bool := c.toNat ≤ 0x20
  let cs := ((text.toList.dropWhile isOuter).reverse.dropWhile isOuter).reverse
  cs.filter fun c => c != '\t' && c != '\n' && c != '\r'

/-- The path in a text, and the query and the fragment behind it. -/
def splitTail (cs : List Char) : List Char × List Char :=
  let isMark (c : Char) : Bool := c == '?' || c == '#'
  (cs.takeWhile (!isMark ·), cs.dropWhile (!isMark ·))

/-- The address with the query and the fragment that a text begins with. -/
def withTail (u : Url) (cs : List Char) : Url :=
  let query := cs.takeWhile (· != '#')
  let fragment := cs.drop query.length
  let escapes := if isOnServer u.scheme || u.scheme == "file" then serverQueryEscapes
    else queryEscapes
  { u with
    query := query.tail?.map fun q => String.ofList (encode escapes q)
    fragment := fragment.tail?.map fun f => String.ofList (encode fragmentEscapes f) }

/-! ### Authorities -/

/-- The name of a host, and what follows it from its colon on. A colon in brackets is part of the
name. -/
def splitHost (inBrackets : Bool) : List Char → List Char × List Char
  | [] => ([], [])
  | c :: cs =>
    if c = ':' ∧ !inBrackets then ([], c :: cs)
    else
      let (host, rest) := splitHost (if c = '[' then true else c != ']' && inBrackets) cs
      (c :: host, rest)

/-- Reads a port, which none is as good as the usual one, and gives what follows it. -/
def port? (usual : Option Nat) : List Char → Option (Option Nat × List Char)
  | [] => some (none, [])
  | _ :: cs =>
    let digits := cs.takeWhile Char.isDigit
    let n := digits.foldl (fun n d => 10 * n + (d.toNat - 48)) 0
    let rest := cs.drop digits.length
    if 65535 < n || !rest.head?.all (· == '\\') then none
    else some (if digits.isEmpty || usual == some n then none else some n, rest)

/-- Whoever asks, and the host behind the last at sign. -/
def splitUser (cs : List Char) : Option (List Char) × List Char :=
  let host := (cs.reverse.takeWhile (· != '@')).reverse
  (if cs.contains '@' then some (cs.take (cs.length - host.length - 1)) else none, host)

/-- Reads an authority, and gives what follows its port. -/
def authority? (scheme : String) (cs : List Char) : Option (Authority × List Char) := do
  let (user, place) := splitUser cs
  let (name, colon) := splitHost false place
  let onServer := isOnServer scheme
  let host ← if onServer then Host.parse? name else Host.parseAny? name
  let (port, rest) ← port? (usualPort? scheme) colon
  let asked := user.getD []
  let word := asked.takeWhile (· != ':')
  let a : Authority := {
    user := String.ofList (encode userEscapes word)
    password := String.ofList (encode userEscapes (asked.drop (word.length + 1)))
    host, port }
  if host = "" ∧ (a.userText ≠ "" ∨ !colon.isEmpty) then none else some (a, rest)

/-- Reads what follows the two slashes behind a scheme. -/
def ofAuthority? (scheme : String) (cs : List Char) : Option Url := do
  let onServer := isOnServer scheme
  let written := cs.takeWhile (!isEnd onServer ·)
  let rest := cs.drop written.length
  -- An at sign with a path behind it asks in no one's name for no host.
  if written == ['@'] && !rest.isEmpty then none
  else
    let (authority, more) ← authority? scheme written
    let (path, tail) := splitTail (more ++ rest)
    let u : Url := { scheme, authority := some authority, path := Path.read (!onServer) path }
    return u.withTail tail

/-! ### Files -/

/-- Reads the host of a file, and gives the path behind it. A drive is no host. -/
def fileHost? (cs : List Char) : Option (String × List Char) :=
  let name := cs.takeWhile fun c => !isAnySlash c
  if Path.isDrive name then some ("", cs)
  else if name.isEmpty then some ("", cs)
  else (Host.parse? name).map fun host =>
    (if host = "localhost" then "" else host, cs.drop name.length)

/-- Reads what follows the scheme of a file. A file on a drive is on no host. -/
def ofFile? (cs : List Char) : Option Url := do
  let (place, tail) := splitTail cs
  let (host, path) ← match place with
    | a :: b :: rest => if isAnySlash a && isAnySlash b then fileHost? rest else some ("", place)
    | _ => some ("", place)
  let segments := Path.ofFile path
  -- The host has been read, and can be wrong, even where it does not count.
  let host := if segments.head?.any Path.isDrive then "" else host
  let u : Url := {
    scheme := "file", authority := some { host }, path := Path.fileText segments }
  return u.withTail tail

/-! ### Whole addresses -/

/-- Reads what follows a scheme that is neither of servers nor of files. -/
def ofAny? (scheme : String) : List Char → Option Url
  | '/' :: '/' :: cs => ofAuthority? scheme cs
  | cs =>
    let (path, tail) := splitTail cs
    let path := if path.head? = some '/' then Path.read true path
      else String.ofList (encode [] path)
    let u : Url := { scheme, authority := none, path }
    some (u.withTail tail)

/-- Reads what follows a scheme. -/
def ofRest? (scheme : String) (cs : List Char) : Option Url :=
  if scheme = "file" then ofFile? cs
  else if isOnServer scheme then ofAuthority? scheme (cs.dropWhile isAnySlash)
  else ofAny? scheme cs

/-- Reads the text of an address. -/
def parse? (text : String) : Option Url :=
  (scheme? (visible text)).bind fun (scheme, rest) => ofRest? scheme rest

/-! ### Relative addresses -/

/-- The address of a path, a query and a fragment at the place of `u`. -/
def withPath (u : Url) (cs : List Char) : Url :=
  let (path, tail) := splitTail cs
  { u with path := Path.read false path }.withTail tail

/-- Reads an address without a scheme from `u`, which is on a server. -/
def relative? (u : Url) (cs : List Char) : Option Url :=
  match cs with
  | [] => some { u with fragment := none }
  | '?' :: _ => some (u.withTail cs)
  | '#' :: _ => some { u.withTail cs with query := u.query }
  -- A third slash would leave the host empty, so after two plain ones none is skipped.
  | '/' :: '/' :: rest => ofAuthority? u.scheme rest
  | a :: b :: rest =>
    if isAnySlash a && isAnySlash b then ofAuthority? u.scheme (rest.dropWhile isAnySlash)
    else if isAnySlash a then some (u.withPath cs)
    else some (u.withPath (folder ++ cs))
  | [a] => some (u.withPath (if isAnySlash a then cs else folder ++ cs))
where
  folder : List Char := (u.path.toList.reverse.dropWhile (· != '/')).reverse

/-- The address that a text names when it is read at `u`, which is on a server. -/
def resolve? (u : Url) (text : String) : Option Url :=
  let cs := visible text
  match scheme? cs with
  | none => u.relative? cs
  | some (scheme, rest) =>
    if scheme = u.scheme ∧ (rest.takeWhile isAnySlash).length < 2 then u.relative? rest
    else ofRest? scheme rest

end Url

end ServiceTunnel.Http
