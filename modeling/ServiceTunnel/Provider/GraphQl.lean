import ServiceTunnel.Json.Reader
import ServiceTunnel.Machine.Wire

/-!
# ServiceTunnel.Provider.GraphQl

**Queries and their answers.** An answer holds data, or errors, or both. Data must have its shape
whole: data in which a field failed and is null cannot be read, with errors beside it or without.
-/

namespace ServiceTunnel.Provider

/-! ### Queries -/

/-- A query with the values of its variables. -/
structure Query where
  text : String
  arguments : List (String × Json)

namespace Query

/-- Lines, with a line break before each. -/
def lines (l : List String) : String := String.join (l.map ("\n" ++ ·))

/-- Asks for an IPv4 address for an application. -/
def allocateIp (app : String) : Query where
  text := lines [
    "mutation($input: AllocateIPAddressInput!) \x7b",
    "  allocateIpAddress(input: $input) \x7b",
    "    ipAddress \x7b id address type region createdAt \x7d",
    "  \x7d",
    "\x7d"]
  arguments := [("input", .obj [("appId", .str app), ("type", .str "v4")])]

/-- Asks to take an address from an application. -/
def releaseIp (app id : String) : Query where
  text := lines [
    "mutation($input: ReleaseIPAddressInput!) \x7b",
    "  releaseIpAddress(input: $input) \x7b",
    "    app \x7b name \x7d",
    "  \x7d",
    "\x7d"]
  arguments := [("input", .obj [("appId", .str app), ("ipAddressId", .str id)])]

/-- Asks for the addresses of an application. -/
def listIps (app : String) : Query where
  text := lines [
    "query($appName: String!) \x7b",
    "  app(name: $appName) \x7b",
    "    ipAddresses \x7b nodes \x7b id address type region createdAt \x7d \x7d",
    "  \x7d",
    "\x7d"]
  arguments := [("appName", .str app)]

/-- The JSON form. -/
def toJson (q : Query) : Json := .obj [("query", .str q.text), ("variables", .obj q.arguments)]

end Query

/-! ### Answers -/

/-- The answer to a query. -/
structure QueryAnswer (α : Type) where
  data : Option α
  /-- The messages of the errors. -/
  errors : List String

/-- Reads the record of the one field `name`. -/
def single {α : Type} (name : String) (field : Json → Option α) (j : Json) : Option α := do
  match ← Json.slots? [name] 1 j with
  | [slot] => Json.required field slot
  | _ => none

namespace QueryAnswer

/-- Reads the JSON form, where `data` reads the data. -/
def ofJson? {α : Type} (data : Json → Option α) (j : Json) : Option (QueryAnswer α) := do
  match ← Json.slots? ["data", "errors"] 1 j with
  | [found, errors] =>
    return {
      data := ← Json.optional data found
      errors := ← Json.orElse [] (Json.asList (single "message" Json.str?)) errors }
  | _ => none

/-- The data of an allocation. -/
def allocated? : Json → Option IpAddress :=
  single "allocateIpAddress" (single "ipAddress" IpAddress.ofJson?)

/-- The data of a list of addresses. -/
def listed? : Json → Option (List IpAddress) :=
  single "app" (single "ipAddresses" fun j => do
    match ← Json.slots? ["nodes"] 0 j with
    | [nodes] => Json.orElse [] (Json.asList IpAddress.ofJson?) nodes
    | _ => none)

/-- The data of a release, whatever it is. It is kept, although nothing is made of it. -/
def released? (j : Json) : Option Unit :=
  -- The answer that the data stands in is the outermost object.
  if j.isKept (Json.depthLimit - 1) then some () else none

end QueryAnswer

end ServiceTunnel.Provider
