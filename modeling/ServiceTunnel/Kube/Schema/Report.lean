import ServiceTunnel.Json.Shape

/-!
# ServiceTunnel.Kube.Schema.Report

**The shape of a report:** the cluster's account of what became of a request.
-/

namespace ServiceTunnel.Kube.Schema

open Json (Shape)
open Json.Shape (given optional)

/-- One cause of a failure. -/
def reportCause : Shape := .record "struct StatusCause" (given .text ["field", "message", "reason"])

/-- What a report is about. -/
def reportDetails : Shape := .record "struct StatusDetails" <|
  given .text ["group", "kind", "name", "uid"]
    ++ given (.list reportCause) ["causes"]
    ++ given .uint32 ["retryAfterSeconds"]

/-- A report. -/
def report : Shape := .record "struct Status" <|
  optional (.choice ["Success", "Failure"]) ["status"]
    ++ given .uint16 ["code"]
    ++ given .text ["message", "reason"]
    ++ optional reportDetails ["details"]

end ServiceTunnel.Kube.Schema
