/-!
# ServiceTunnel.Health

**Probes of the operator's health.** It is alive as long as it answers, and ready while it says so.
-/

namespace ServiceTunnel.Health

/-- The answer to a probe. -/
structure ProbeAnswer where
  status : Nat
  body : String := ""
deriving DecidableEq, Repr

/-- What the path of a probe asks for. -/
inductive Probe where
  | alive
  | ready
deriving DecidableEq, Repr

/-- The probe at a path, whatever its query. -/
def probe? (path : String) : Option Probe :=
  match String.ofList (path.toList.takeWhile fun c => c != '?' && c != '#') with
  | "/healthz" => some .alive
  | "/readyz" => some .ready
  | _ => none

/-- The answer to a look at a probe. -/
def look (ready : Bool) : Probe → ProbeAnswer
  | .alive => { status := 200, body := "ok" }
  | .ready =>
    if ready then { status := 200, body := "ok" } else { status := 503, body := "not ready" }

/-- The answer to a request. Probes can only be looked at, with or without the text. -/
def answer (ready : Bool) (method path : String) : ProbeAnswer :=
  match probe? path with
  | none => { status := 404 }
  | some p =>
    if method = "GET" then look ready p
    else if method = "HEAD" then { look ready p with body := "" }
    else { status := 405 }

end ServiceTunnel.Health
