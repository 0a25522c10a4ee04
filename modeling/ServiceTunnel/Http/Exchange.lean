import ServiceTunnel.Http.Method
import ServiceTunnel.Http.Url
import ServiceTunnel.Json.Basic
import ServiceTunnel.Program

/-!
# ServiceTunnel.Http.Exchange

**Requests over HTTP, and following where their answers lead.** An answer that says that the
resource is elsewhere is followed, ten times at most. On the way a request can become one without
content, and what authorizes it is not shown to another host.
-/

namespace ServiceTunnel.Http

/-- A request. -/
structure Request where
  method : Method
  url : Url
  authorization : Option String
  content : Option Json

/-- An answer. -/
structure Answer where
  status : Nat := 200
  location : Option String := none
  body : String := ""
deriving DecidableEq, Repr

/-- A request is answered, unless no connection can be made. -/
def exchange : Interface := ⟨Request, fun _ => Option Answer⟩

/-- A program that makes requests. -/
abbrev Conversation (α : Type) := Program exchange α

/-- Why a request has no answer. -/
inductive Breakdown where
  /-- The address or a header cannot be sent; the address is named if it could be read. -/
  | unsendable (url : Option String)
  /-- There is no connection. -/
  | unreachable (url : String)
  /-- The answers lead on and on. -/
  | tooManyRedirects (url : String)
deriving DecidableEq, Repr

/-- The wording. -/
def Breakdown.message : Breakdown → String
  | .unsendable none => "builder error"
  | .unsendable (some url) => s!"builder error for url ({url})"
  | .unreachable url => s!"error sending request for url ({url})"
  | .tooManyRedirects url => s!"error following redirect for url ({url})"

/-! ### Redirects -/

/-- How many redirects are followed. -/
def redirectLimit : Nat := 10

/-- Whether a request that was answered with `status` is made anew without content. -/
def becomesGet (status : Nat) : Method → Bool
  | .get => false
  | .post => status == 301 || status == 302 || status == 303
  | _ => status == 303

/-- Whether an address can be asked for: its host is made of characters that a request carries. -/
def isSendable (url : Url) : Bool :=
  (url.authority.map (·.host)).all fun host =>
    !host.toList.any ['"', '\x60', '\x7b', '\x7d'].contains

/-- Whether resources of a scheme are asked for over HTTP. -/
def isHttp (url : Url) : Bool := url.scheme == "http" || url.scheme == "https"

/-- The request that an answer leads to. -/
def redirected? (r : Request) (a : Answer) : Option Request :=
  if [301, 302, 303, 307, 308].contains a.status then
    ((a.location.bind r.url.resolve?).filter isSendable).map fun url =>
      let r :=
        if becomesGet a.status r.method then { r with method := .get, content := none } else r
      { r with
        url := url
        authorization := if url.origin = r.url.origin then r.authorization else none }
  else none

/-- Makes a request, and follows at most `limit` redirects. -/
def follow (limit : Nat) (r : Request) : Conversation (Except Breakdown Answer) :=
  .call r fun (reply : Option Answer) =>
    match reply with
    | none => .done (.error (.unreachable r.url.text))
    | some a =>
      match redirected? r a with
      | none => .done (.ok a)
      | some next =>
        match limit with
        | 0 => .done (.error (.tooManyRedirects r.url.text))
        | limit + 1 =>
          -- The connection is refused by the scheme, not by the answer: the new address is named.
          if isHttp next.url then follow limit next
          else .done (.error (.unsendable (some next.url.text)))

/-! ### Whole requests -/

/-- Whether a text can be the value of a header. -/
def isHeaderText (s : String) : Bool :=
  s.toList.all fun c => c == '\t' || (0x20 ≤ c.toNat && c.toNat != 0x7f)

/-- A request as it is wished for. -/
structure Wish where
  method : Method
  url : String
  /-- Fields to be added to the query. -/
  fields : List (String × String) := []
  content : Option Json := none

/-- The request that is wished for with a token. An address must name a host before the token is
looked at, and everything else about it is looked at after that. -/
def Wish.request (token : String) (w : Wish) : Except Breakdown Request :=
  match Url.parse? w.url with
  | none => .error (.unsendable none)
  | some url =>
    if !url.hasHost then .error (.unsendable (some url.text))
    else if !isHeaderText token then .error (.unsendable none)
    else
      let url := url.withoutUser
      let url := if w.fields.isEmpty then url else url.withFields w.fields
      if isHttp url && isSendable url then
        .ok {
          method := w.method
          url := url
          authorization := some ("Bearer " ++ token)
          content := w.content }
      else .error (.unsendable (some url.text))

/-- Makes the request wished for with a token. -/
def send (token : String) (w : Wish) : Conversation (Except Breakdown Answer) :=
  match w.request token with
  | .error b => .done (.error b)
  | .ok r => follow redirectLimit r

end ServiceTunnel.Http
