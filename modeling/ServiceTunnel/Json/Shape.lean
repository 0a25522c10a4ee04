import ServiceTunnel.Json.Number

/-!
# ServiceTunnel.Json.Shape

**What a value is expected to be.** A shape says of every part of a value whether it is kept and
what it must be. `Shape.canonical?` brings a value of a shape into one form: without the fields that
the shape does not name, without those that are null, with every field that the shape requires, and
with each name once.
-/

namespace ServiceTunnel.Json

/-- Texts of one form. -/
structure Format where
  /-- What is expected in the place of a value that is no text. -/
  expected : String
  /-- The text in its one spelling, or what is wrong with it. -/
  read : String → Except String String
  /-- The text where none is given. -/
  missing : String
  /-- Whether null stands for the missing text. -/
  orNull : Bool := false

/-- Whether a field is always there. -/
inductive Presence where
  /-- If it is missing or null, it has the value of a field that is not given. -/
  | required
  /-- It may be missing or null, which is the same. -/
  | optional
  /-- It may be missing, but is not null. -/
  | given
deriving DecidableEq, Repr

/-- An expectation of a value. -/
inductive Shape where
  /-- Whatever it is, it is only passed over. -/
  | passed
  /-- Whatever it is, it is kept. -/
  | any
  | text
  /-- This one text. -/
  | constant (text : String)
  /-- One of the `names`. -/
  | choice (names : List String)
  | formatted (format : Format)
  | bool
  | int32
  | int64
  | uint16
  | uint32
  /-- A number of 32 bits or a text. -/
  | intOrText
  | list (item : Shape)
  | map (value : Shape)
  /-- Fields by their names. The record is told of as `title`. -/
  | record (title : String) (fields : List (String × Presence × Shape))

namespace Shape

instance : Inhabited Shape := ⟨.any⟩

/-- The shape of the items of a list. -/
def item : Shape → Shape
  | .list s => s
  | .passed => .passed
  | _ => .any

/-- The shape of the field `name`, and whether it can be null instead. -/
def field (name : String) : Shape → Bool × Shape
  | .record _ fields =>
    match fields.find? (·.1 == name) with
    | some (_, presence, s) => (presence != .given, s)
    | none => (false, .passed)
  | .map s => (false, s)
  | .passed => (false, .passed)
  | _ => (false, .any)

/-- Whether values of the shape are only passed over. -/
def isPassed : Shape → Bool
  | .passed => true
  | _ => false

/-- Whether a name is expected. -/
def isChoice : Shape → Bool
  | .choice _ => true
  | _ => false

/-- What is expected. -/
def expected : Shape → String
  | .passed | .any => "any value"
  | .text | .constant _ => "a string"
  | .choice names => oneOf names
  | .formatted format => format.expected
  | .bool => "a boolean"
  | .int32 => "i32"
  | .int64 => "i64"
  | .uint16 => "u16"
  | .uint32 => "u32"
  | .intOrText => "IntOrString"
  | .list _ => "a sequence"
  | .map _ => "a map"
  | .record title _ => title

/-! ### Lists and objects -/

/-- How a list or an object is met. -/
inductive Welcome where
  | read
  /-- It is refused behind its opening bracket. -/
  | refusedInside
  /-- It is refused before its opening bracket. -/
  | refused
deriving DecidableEq, Repr

/-- How a list is met. -/
def list? : Shape → Welcome
  | .passed | .any | .list _ => .read
  | .record .. | .intOrText => .refusedInside
  | _ => .refused

/-- How an object is met. -/
def object? : Shape → Welcome
  | .passed | .any | .map _ | .record .. => .read
  | .intOrText => .refusedInside
  | _ => .refused

/-! ### Single values -/

/-- The value itself, if it is an integer from `low` on and below `high`. -/
def integer (low high : Int) (expected : String) : Json → Except Fault Json
  | .int i =>
    if low ≤ i ∧ i < high then .ok (.int i)
    else if (told (.int i)).int?.isSome then .error (.wrongValue (.int i) expected)
    else .error (.wrongType (told (.int i)) expected)
  | j => .error (.wrongType (told j) expected)

/-- An integer of at most `bits` bits with its sign. -/
def signed (bits : Nat) : String → Json → Except Fault Json :=
  integer (-(1 <<< (bits - 1) : Nat)) (1 <<< (bits - 1) : Nat)

/-- An integer of at most `bits` bits without a sign. -/
def unsigned (bits : Nat) : String → Json → Except Fault Json := integer 0 (1 <<< bits : Nat)

/-- The canonical form of a value that is no list and no object, or why it is not of the shape. -/
def single : Shape → Json → Except Fault Json
  | .passed, j | .any, j => .ok j
  | .text, .str t | .constant _, .str t => .ok (.str t)
  | .choice names, .str t =>
    if names.contains t then .ok (.str t) else .error (.unknownName t names)
  | .formatted format, .str t => ((format.read t).mapError .malformed).map .str
  | .formatted format, .null =>
    if format.orNull then .ok (.str format.missing) else .error (.wrongType .null format.expected)
  | .bool, .bool b => .ok (.bool b)
  | .int32, j => signed 32 "i32" j
  | .int64, j => signed 64 "i64" j
  | .uint16, j => unsigned 16 "u16" j
  | .uint32, j => unsigned 32 "u32" j
  | .intOrText, .str t => .ok (.str t)
  | .intOrText, .int i =>
    (signed 32 "a 32-bit integer" (.int i)).mapError fun
      | .wrongType found _ => .wrongType found intOrText.expected
      | fault => fault
  | s, j => .error (.wrongType (told j) s.expected)

/-! ### Records -/

/-- Fields of one shape with the same presence. -/
def fields (presence : Presence) (s : Shape) (names : List String) :
    List (String × Presence × Shape) :=
  names.map fun name => (name, presence, s)

/-- Fields of one shape that may be missing. -/
def optional : Shape → List String → List (String × Presence × Shape) := fields .optional

/-- Fields of one shape that are required. -/
def required : Shape → List String → List (String × Presence × Shape) := fields .required

/-- Fields of one shape that are not null. -/
def given : Shape → List String → List (String × Presence × Shape) := fields .given

mutual

/-- The value of a required field that is not given. -/
def missing : Shape → Json
  | .passed | .any => .null
  | .text | .choice _ => .str ""
  | .constant t => .str t
  | .formatted format => .str format.missing
  | .bool => .bool false
  | .int32 | .int64 | .uint16 | .uint32 | .intOrText => .int 0
  | .list _ => .arr []
  | .map _ => .obj []
  | .record _ fields => .obj (missingFields fields)

/-- The required fields of a record that is not given. -/
def missingFields : List (String × Presence × Shape) → List (String × Json)
  | [] => []
  | (name, presence, s) :: rest =>
    if presence = .required then (name, s.missing) :: missingFields rest else missingFields rest

end

/-! ### Canonical forms -/

/-- The fields of a map, of which the last of each name counts. -/
def lastOfEach : List (String × Json) → List (String × Json)
  | [] => []
  | f :: rest => if rest.any (·.1 == f.1) then lastOfEach rest else f :: lastOfEach rest

/-- The value of a field that was given the `values`, of which the last counts. -/
def settled (presence : Presence) (name : String) (missing : Json) (values : List Json) :
    List (String × Json) :=
  match values.getLast? with
  | some .null | none => if presence = .required then [(name, missing)] else []
  | some j => [(name, j)]

mutual

/-- The canonical form of a value, or none if it is not of the shape. -/
def canonical? : Shape → Json → Option Json
  | .passed, j | .any, j => some j
  | .constant word, .str t => if t = word then some (.str t) else none
  | .list s, .arr items => (items.mapM fun j => s.canonical? j).map .arr
  | .map s, .obj fields => do
    let fields ← fields.mapM fun f => (s.canonical? f.2).map (f.1, ·)
    return .obj (lastOfEach fields)
  | .record _ shapes, .obj fields => (canonicalFields? shapes fields).map .obj
  | s, j => (s.single j).toOption

/-- The canonical forms of the fields of a record. -/
def canonicalFields? : List (String × Presence × Shape) → List (String × Json) →
    Option (List (String × Json))
  | [], _ => some []
  | (name, presence, s) :: rest, fields => do
    let values ← (fields.filter (·.1 == name)).mapM fun f =>
      -- Every value must fit, also one that a later one of the same name replaces.
      if f.2.isNull && presence != .given then some .null else s.canonical? f.2
    let more ← canonicalFields? rest fields
    return settled presence name s.missing values ++ more

end

end Shape

end ServiceTunnel.Json
