import ServiceTunnel.Json.Basic

/-!
# ServiceTunnel.Json.Merge

**Merge patches.** A patch is a JSON value. An object changes the members that it names and removes
those for which it has null; any other value takes the place of what was there.
-/

namespace ServiceTunnel.Json

/-- Puts a value under a name, in the place of the value that stood there. -/
def putField (name : String) (j : Json) (fields : List (String × Json)) : List (String × Json) :=
  if fields.any (·.1 == name) then fields.map fun f => if f.1 == name then (name, j) else f
  else fields ++ [(name, j)]

mutual

/-- The value after a patch. -/
def merge (target : Json) : Json → Json
  | .obj changes => .obj (mergeFields (target.obj?.getD []) changes)
  | j => j

/-- The fields of an object after a patch. -/
def mergeFields (fields : List (String × Json)) : List (String × Json) → List (String × Json)
  | [] => fields
  | (name, j) :: rest =>
    mergeFields
      (if j.isNull then fields.filter (·.1 != name)
      else putField name (merge ((get? (.obj fields) name).getD .null) j) fields) rest

end

end ServiceTunnel.Json
