/-!
# ServiceTunnel.Json.Basic

**JSON values.** A number written as an integer is kept as one; any other spelling (a fraction, an
exponent, a negative zero) is kept as written, since no field of this library holds one. A string
or an object whose text names half of a surrogate pair can be passed over but has no value: it is
`unreadable`.
-/

namespace ServiceTunnel

/-- A JSON value. Fields stand in the order of the text, and a name may stand twice. -/
inductive Json where
  | null
  | bool (b : Bool)
  | int (i : Int)
  | real (text : String)
  | str (s : String)
  | arr (items : List Json)
  | obj (fields : List (String × Json))
  | unreadable
deriving Inhabited, Repr

namespace Json

/-! ### Equality -/

mutual

/-- Whether two values are the same. -/
def decEq : (a b : Json) → Decidable (a = b)
  | .null, .null => isTrue rfl
  | .unreadable, .unreadable => isTrue rfl
  | .bool a, .bool b => decidable_of_iff (a = b) (by simp)
  | .int a, .int b => decidable_of_iff (a = b) (by simp)
  | .real a, .real b => decidable_of_iff (a = b) (by simp)
  | .str a, .str b => decidable_of_iff (a = b) (by simp)
  | .arr a, .arr b => @decidable_of_iff _ (a = b) (by simp) (decEqItems a b)
  | .obj a, .obj b => @decidable_of_iff _ (a = b) (by simp) (decEqFields a b)
  | .null, .bool _ | .null, .int _ | .null, .real _ | .null, .str _ | .null, .arr _
  | .null, .obj _ | .null, .unreadable => isFalse (by simp)
  | .bool _, .null | .bool _, .int _ | .bool _, .real _ | .bool _, .str _ | .bool _, .arr _
  | .bool _, .obj _ | .bool _, .unreadable => isFalse (by simp)
  | .int _, .null | .int _, .bool _ | .int _, .real _ | .int _, .str _ | .int _, .arr _
  | .int _, .obj _ | .int _, .unreadable => isFalse (by simp)
  | .real _, .null | .real _, .bool _ | .real _, .int _ | .real _, .str _ | .real _, .arr _
  | .real _, .obj _ | .real _, .unreadable => isFalse (by simp)
  | .str _, .null | .str _, .bool _ | .str _, .int _ | .str _, .real _ | .str _, .arr _
  | .str _, .obj _ | .str _, .unreadable => isFalse (by simp)
  | .arr _, .null | .arr _, .bool _ | .arr _, .int _ | .arr _, .real _ | .arr _, .str _
  | .arr _, .obj _ | .arr _, .unreadable => isFalse (by simp)
  | .obj _, .null | .obj _, .bool _ | .obj _, .int _ | .obj _, .real _ | .obj _, .str _
  | .obj _, .arr _ | .obj _, .unreadable => isFalse (by simp)
  | .unreadable, .null | .unreadable, .bool _ | .unreadable, .int _ | .unreadable, .real _
  | .unreadable, .str _ | .unreadable, .arr _ | .unreadable, .obj _ => isFalse (by simp)

/-- Whether two lists hold the same values. -/
def decEqItems : (a b : List Json) → Decidable (a = b)
  | [], [] => isTrue rfl
  | [], _ :: _ | _ :: _, [] => isFalse (by simp)
  | a :: as, b :: bs =>
    match decEq a b, decEqItems as bs with
    | isTrue h, isTrue hs => isTrue (by rw [h, hs])
    | isFalse h, _ => isFalse (by simp [h])
    | _, isFalse h => isFalse (by simp [h])

/-- Whether two objects hold the same fields in the same order. -/
def decEqFields : (a b : List (String × Json)) → Decidable (a = b)
  | [], [] => isTrue rfl
  | [], _ :: _ | _ :: _, [] => isFalse (by simp)
  | (n, a) :: as, (m, b) :: bs =>
    match decEq a b, decEqFields as bs with
    | isTrue h, isTrue hs => decidable_of_iff (n = m) (by simp [h, hs])
    | isFalse h, _ => isFalse (by simp [h])
    | _, isFalse h => isFalse (by simp [h])

end

instance : DecidableEq Json := decEq

/-! ### Parts -/

/-- The value of the last field called `name`. -/
def get? (j : Json) (name : String) : Option Json :=
  match j with
  | .obj fields => (fields.reverse.find? fun f => f.1 == name).map (·.2)
  | _ => none

/-- Whether the value is null. -/
def isNull : Json → Bool
  | .null => true
  | _ => false

/-- The text of a string. -/
def str? : Json → Option String
  | .str s => some s
  | _ => none

/-- The value of an integer. -/
def int? : Json → Option Int
  | .int i => some i
  | _ => none

/-- The value of a truth value. -/
def bool? : Json → Option Bool
  | .bool b => some b
  | _ => none

/-- The items of a list. -/
def arr? : Json → Option (List Json)
  | .arr items => some items
  | _ => none

/-- The fields of an object. -/
def obj? : Json → Option (List (String × Json))
  | .obj fields => some fields
  | _ => none

/-- Null for a missing value. -/
def ofOption {α : Type} (f : α → Json) : Option α → Json
  | none => .null
  | some a => f a

/-- A list of strings. -/
def strings (l : List String) : Json := .arr (l.map .str)

end Json

end ServiceTunnel
