import ServiceTunnel.Call
import ServiceTunnel.Http.Exchange
import ServiceTunnel.Json.Reader
import ServiceTunnel.Provider.GraphQl

/-!
# ServiceTunnel.Provider.Client

**The operator's calls to the provider as requests over HTTP.** Applications and machines have
addresses of their own; addresses on the network are asked for by query. A thing to be made may be
there already, and a thing to be deleted may be gone.
-/

namespace ServiceTunnel.Provider

/-- Where the provider is reached, and with which token. -/
structure Access where
  apiUrl : String
  graphQlUrl : String
  token : String

/-- The result of a conversation. -/
abbrev Talk (α : Type) := Http.Conversation (Except ProviderError α)

namespace Talk

/-! ### Answers -/

/-- The error for an answer that cannot be read. -/
def unreadable : ProviderError := .decode "error decoding response body"

/-- An answer, if it is one of success. -/
def check (a : Http.Answer) : Except ProviderError Http.Answer :=
  if Http.isSuccess a.status then .ok a else .error (.api a.status a.body)

/-- The value that an answer of success holds. -/
def read {α : Type} (ofJson? : Json → Option α) (a : Http.Answer) : Except ProviderError α :=
  match check a with
  | .error e => .error e
  | .ok a =>
    match (Json.parse a.body).toOption.bind ofJson? with
    | some v => .ok v
    | none => .error unreadable

theorem read_of_isSuccess {α : Type} (ofJson? : Json → Option α) {a : Http.Answer}
    (h : Http.isSuccess a.status = true) :
    read ofJson? a = ((Json.parse a.body).toOption.bind ofJson?).elim (.error unreadable) .ok := by
  rw [read, check, if_pos h]
  dsimp only
  cases (Json.parse a.body).toOption.bind ofJson? <;> rfl

/-- The data of an answer to a query. The first error counts before any data. -/
def data {α : Type} (ofJson? : Json → Option α) (a : Http.Answer) : Except ProviderError α :=
  match read (QueryAnswer.ofJson? ofJson?) a with
  | .error e => .error e
  | .ok answer =>
    match answer.errors, answer.data with
    | message :: _, _ => .error (.graphQl message)
    | [], some v => .ok v
    | [], none => .error (.decode "graphql response has no data")

/-- Success without a value, where an error that `excused` excuses counts as success. -/
def settle {α : Type} (excused : ProviderError → Bool) (r : Except ProviderError α) :
    Except ProviderError Unit :=
  match r with
  | .ok _ => .ok ()
  | .error e => if excused e then .ok () else .error e

/-! ### Requests -/

/-- Makes a request, and reads the answer. -/
def ask {α : Type} (access : Access) (w : Http.Wish)
    (answer : Http.Answer → Except ProviderError α) : Talk α :=
  (Http.send access.token w).bind fun
    | .ok a => .done (answer a)
    | .error b => .done (.error (.http b.message))

/-- The address of a path at the provider, without the slashes at its start. -/
def url (access : Access) (path : String) : String :=
  let base := (access.apiUrl.toList.reverse.dropWhile (· == '/')).reverse
  String.ofList base ++ "/v1/" ++ String.ofList (path.toList.dropWhile (· == '/'))

/-- The address of a machine. -/
def machineUrl (access : Access) (app id : String) : String :=
  url access s!"apps/{app}/machines/{id}"

/-- A deletion that does not wait for anything. -/
def deletion (url : String) : Http.Wish := { method := .delete, url, fields := [("force", "true")] }

/-- A query. -/
def queryWish (access : Access) (q : Query) : Http.Wish :=
  { method := .post, url := access.graphQlUrl, content := some q.toJson }

/-- The answer to a wait. -/
def waited (id state : String) (seconds : Nat) (a : Http.Answer) : Except ProviderError Unit :=
  if a.status = 408 then
    .error (.timeout s!"machine {id} did not reach {state} within {seconds}s")
  else settle (fun _ => false) (check a)

/-- The requests of a call. -/
def ofCall (access : Access) (c : ProviderCall) : Talk c.Result :=
  match c with
  | .ensureApp app org =>
    ask access {
      method := .post
      url := url access "apps"
      content := some (.obj [("app_name", .str app), ("org_slug", .str org)]) }
      fun a => settle (·.isConflict) (check a)
  | .deleteApp app =>
    ask access (deletion (url access s!"apps/{app}")) fun a => settle (·.isNotFound) (check a)
  | .createMachine app input =>
    ask access {
      method := .post
      url := url access s!"apps/{app}/machines"
      content := some input.toJson }
      (read Machine.ofJson?)
  | .getMachine app id =>
    ask access { method := .get, url := machineUrl access app id } (read Machine.ofJson?)
  | .updateMachine app id input =>
    ask access { method := .post, url := machineUrl access app id, content := some input.toJson }
      (read Machine.ofJson?)
  | .deleteMachine app id =>
    ask access (deletion (machineUrl access app id)) fun a => settle (·.isNotFound) (check a)
  | .waitForMachine app id instanceId state seconds =>
    ask access {
      method := .get
      url := machineUrl access app id ++ "/wait"
      fields := [("instance_id", instanceId), ("state", state), ("timeout", toString seconds)] }
      (waited id state seconds)
  | .allocateIp app =>
    ask access (queryWish access (.allocateIp app)) (data QueryAnswer.allocated?)
  | .releaseIp app id =>
    ask access (queryWish access (.releaseIp app id))
      fun a => settle (·.isNotFound) (data QueryAnswer.released? a)
  | .listIps app =>
    ask access (queryWish access (.listIps app)) (data QueryAnswer.listed?)

end Talk

end ServiceTunnel.Provider
