import ServiceTunnel.Dict
import ServiceTunnel.Json.Basic

/-!
# ServiceTunnel.Json.Decode

**Values of a known shape.** A decoder takes a JSON value to a value of its type, or refuses it.
Records come in two forms: as an object, in which an unknown field is passed over and a known one
must not stand twice, or as the list of their fields in order of declaration.
-/

namespace ServiceTunnel.Json

/-- Reads a JSON value as a value of `α`, or refuses it. -/
abbrev Decoder (α : Type) := Json → Option α

/-! ### Plain values -/

/-- An integer of 32 bits with sign. -/
def asInt32 : Decoder Int32
  | .int i => if -2147483648 ≤ i ∧ i ≤ 2147483647 then some (Int32.ofInt i) else none
  | _ => none

/-- An integer of 16 bits without sign. -/
def asUInt16 : Decoder Nat
  | .int i => if 0 ≤ i ∧ i ≤ 65535 then some i.toNat else none
  | _ => none

/-- An integer of 32 bits without sign. -/
def asUInt32 : Decoder UInt32
  | .int i => if 0 ≤ i ∧ i ≤ 4294967295 then some (UInt32.ofNat i.toNat) else none
  | _ => none

/-- A list whose items all read. -/
def asList {α : Type} (d : Decoder α) : Decoder (List α)
  | .arr items => items.mapM d
  | _ => none

/-- A map from texts to texts; of a name that stands twice the last counts. -/
def asTexts : Decoder (Dict String String)
  | .obj fields => (fields.mapM fun (f : String × Json) => f.2.str?.map (f.1, ·)).map Dict.ofList
  | _ => none

/-! ### Records -/

/-- The fields `names` of a record, in their order, each with its value if it has one. A list must
give at least the first `least` of them. -/
def slots? (names : List String) (least : Nat) : Json → Option (List (Option Json))
  | .obj fields => names.mapM fun name =>
    match fields.filter fun f => f.1 == name with
    | [] => some none
    | [f] => some (some f.2)
    | _ => none
  | .arr items =>
    if least ≤ items.length ∧ items.length ≤ names.length then
      some (items.map some ++ List.replicate (names.length - items.length) none)
    else none
  | _ => none

/-- A field that must be there. -/
def required {α : Type} (d : Decoder α) (slot : Option Json) : Option α := slot.bind d

/-- A field that is `a` when it is missing. -/
def orElse {α : Type} (a : α) (d : Decoder α) : Option Json → Option α
  | none => some a
  | some j => d j

/-- A field that may be missing or null. -/
def optional {α : Type} (d : Decoder α) : Option Json → Option (Option α)
  | none => some none
  | some .null => some none
  | some j => (d j).map some

/-! ### Loose objects -/

/-- The field `name` of an object, absent if missing or null. -/
def field {α : Type} (name : String) (d : Decoder α) (j : Json) : Option (Option α) :=
  optional d (j.get? name)

/-- The fields of an object that are not called by one of the `names`. -/
def others (names : List String) (j : Json) : List (String × Json) :=
  (j.obj?.getD []).filter fun f => !names.contains f.1

/-- An object of the fields that have a value. -/
def record (fields : List (String × Option Json)) : Json :=
  .obj (fields.filterMap fun f => f.2.map (f.1, ·))

/-- An object of the fields that have a value, and of `others`. -/
def recordWith (others : List (String × Json)) (fields : List (String × Option Json)) : Json :=
  record (fields ++ others.map fun f => (f.1, some f.2))

/-- An object from texts to texts. -/
def texts (m : Dict String String) : Json := .obj (m.entries.map fun e => (e.1, .str e.2))

/-- An integer of 32 bits as a JSON value. -/
def ofInt32 (i : Int32) : Json := .int i.toInt

/-- A natural number as a JSON value. -/
def ofNat (n : Nat) : Json := .int n

end ServiceTunnel.Json
