import ServiceTunnel.Json.Number
import ServiceTunnel.Json.Quote
import ServiceTunnel.Json.Shape

/-!
# ServiceTunnel.Json.Reader

**Reading JSON text.** `Json.parseAs` accepts exactly one value with blanks around it, by the strict
grammar, and otherwise says what is wrong and where.

What the value is expected to be decides how closely it is read. A part that is not of its shape is
a fault as soon as this shows. A part that is only passed over may name half of a surrogate pair,
hold a number beyond all bounds or be nested to any depth; in all other parts these are faults.
-/

namespace ServiceTunnel.Json

/-! ### Blanks and words -/

/-- The four blanks of the grammar. -/
def isBlank (c : Char) : Bool := c == ' ' || c == '\n' || c == '\t' || c == '\r'

/-- What follows the blanks. -/
def skipBlanks (cs : List Char) : List Char := cs.dropWhile isBlank

/-- Reads the rest of a word that stands for `j`. -/
def readWord (j : Json) : List Char → List Char → Read Json
  | [], cs => .ok (j, cs)
  | _ :: _, [] => behind .cutValue []
  | w :: word, c :: cs => if c = w then readWord j word cs else within .expectedIdent c cs

/-! ### Values -/

/-- How many lists and objects may stand inside each other. -/
def depthLimit : Nat := 127

/-- An object from its fields, `unreadable` once a name has no value. -/
def ofFields (fields : List (Option String × Json)) : Json :=
  match fields.mapM fun f => f.1.map (·, f.2) with
  | some fields => .obj fields
  | none => .unreadable

/-! ### Values of the wrong shape -/

/-- What is left when a list is refused behind its opening bracket: if it ends at once, its end is
taken, and if an item is missing, so is the comma. -/
def leaveList (cs : List Char) : List Char :=
  match skipBlanks cs with
  | ']' :: rest => rest
  | ',' :: rest => skipBlanks rest
  | rest => rest

/-- What is left when an object is refused: if it ends there, its end is taken. -/
def leaveObject (cs : List Char) : List Char :=
  match skipBlanks cs with
  | '\x7d' :: rest => rest
  | rest => rest

/-- Refuses a list or an object that lies ahead. A name is looked for before a value is. -/
def refuse (s : Shape) (found : Json) (cs : List Char) : Read Json :=
  match s with
  | .choice _ => atNext .expectedValue cs
  | s => behind (.wrongType found s.expected) cs

/-- Gives a value that was read, unless it is not of the shape. Null is if `orNull`. -/
def accept (orNull : Bool) (s : Shape) (j : Json) (rest : List Char) : Read Json :=
  if orNull && j.isNull then .ok (j, rest)
  else
    match s.single j with
    | .ok _ => .ok (j, rest)
    | .error fault => behind fault rest

/-- Gives the value of a field, unless it is not the one text that it must be. -/
def acceptField (s : Shape) (j : Json) (rest : List Char) : Read Json :=
  match s, j with
  | .constant word, .str t =>
    if t = word then .ok (j, rest) else behind (.wrongValue j word) (leaveObject rest)
  | _, _ => .ok (j, rest)

/-- Reads a value that is neither a list nor an object. -/
def readScalar (isPassed : Bool) : List Char → Except Trouble (Json × List Char)
  | [] => atNext .cutValue []
  | 'n' :: cs => readWord .null ['u', 'l', 'l'] cs
  | 't' :: cs => readWord (.bool true) ['r', 'u', 'e'] cs
  | 'f' :: cs => readWord (.bool false) ['a', 'l', 's', 'e'] cs
  | '-' :: cs => readNumber isPassed true cs
  | '"' :: cs => do
    let (text, cs) ← readString isPassed cs
    return (match text with | some text => .str text | none => .unreadable, cs)
  | c :: cs =>
    if c.isDigit then readNumber isPassed false (c :: cs) else atNext .expectedValue (c :: cs)

/-- Reads a value of a shape that is neither a list nor an object, or null if `orNull`. -/
def readSingle (orNull : Bool) (s : Shape) (cs : List Char) : Except Trouble (Json × List Char) :=
  if s.isChoice && !cs.head?.all fun c => c == '"' || (orNull && c == 'n') then
    atNext .expectedValue cs
  else do
    let (j, cs) ← readScalar s.isPassed cs
    accept orNull s j cs

mutual

/-- Reads a value of a shape, or null if `orNull`. At most `depth` lists and objects may stand
inside each other in it; `fuel` bounds the number of steps. -/
def readValue : Nat → Nat → Bool → Shape → List Char → Except Trouble (Json × List Char)
  | 0, _, _, _, cs => atNext .expectedValue cs
  | fuel + 1, depth, orNull, s, cs =>
    match skipBlanks cs with
    | '[' :: cs =>
      match s.list? with
      | .refused => refuse s (.arr []) ('[' :: cs)
      | welcome =>
        if depth = 0 && !s.isPassed then atNext .tooDeep ('[' :: cs)
        else if welcome = .refusedInside then
          behind (.wrongType (.arr []) s.expected) (leaveList cs)
        else do
          let (items, cs) ← readItems fuel (depth - 1) s.item true cs
          return (.arr items, cs)
    | '\x7b' :: cs =>
      match s.object? with
      | .refused => refuse s (.obj []) ('\x7b' :: cs)
      | welcome =>
        if depth = 0 && !s.isPassed then atNext .tooDeep ('\x7b' :: cs)
        else if welcome = .refusedInside then
          behind (.wrongType (.obj []) s.expected) (leaveObject cs)
        else do
          let (fields, cs) ← readFields fuel (depth - 1) s true cs
          return (ofFields fields, cs)
    | cs => readSingle orNull s cs

/-- Reads the items of a list up to its end; `first` says that none was read yet. -/
def readItems : Nat → Nat → Shape → Bool → List Char → Except Trouble (List Json × List Char)
  | 0, _, _, _, cs => atNext .expectedValue cs
  | fuel + 1, depth, s, first, cs =>
    match skipBlanks cs with
    | [] => atNext .cutList []
    | ']' :: cs => .ok ([], cs)
    | c :: cs =>
      if first then do
        let (j, cs) ← readValue fuel depth false s (c :: cs)
        let (rest, cs) ← readItems fuel depth s false cs
        return (j :: rest, cs)
      else if c = ',' then
        match skipBlanks cs with
        | [] => atNext .cutValue []
        | ']' :: cs => atNext (if s.isPassed then .expectedValue else .trailingComma) (']' :: cs)
        | cs => do
          let (j, cs) ← readValue fuel depth false s cs
          let (rest, cs) ← readItems fuel depth s false cs
          return (j :: rest, cs)
      else atNext .expectedListEnd (c :: cs)

/-- Reads the fields of an object up to its end; `first` says that none was read yet. -/
def readFields : Nat → Nat → Shape → Bool → List Char →
    Except Trouble (List (Option String × Json) × List Char)
  | 0, _, _, _, cs => atNext .expectedValue cs
  | fuel + 1, depth, s, first, cs =>
    match skipBlanks cs with
    | [] => atNext .cutObject []
    | '\x7d' :: cs => .ok ([], cs)
    | c :: cs =>
      if first then
        if c = '"' then readField fuel depth s cs else atNext .expectedKey (c :: cs)
      else if c = ',' then
        match skipBlanks cs with
        | [] => atNext (if s.isPassed then .cutObject else .cutValue) []
        | '"' :: cs => readField fuel depth s cs
        | '\x7d' :: cs =>
          atNext (if s.isPassed then .expectedKey else .trailingComma) ('\x7d' :: cs)
        | cs => atNext .expectedKey cs
      else atNext .expectedObjectEnd (c :: cs)

/-- Reads a field behind the opening quote of its name, and the fields behind it. -/
def readField : Nat → Nat → Shape → List Char →
    Except Trouble (List (Option String × Json) × List Char)
  | 0, _, _, cs => atNext .expectedValue cs
  | fuel + 1, depth, s, cs => do
    let (name, cs) ← readString s.isPassed cs
    match skipBlanks cs with
    | [] => atNext .cutObject []
    | ':' :: cs => do
      let (orNull, shape) := s.field (name.getD "")
      let (j, cs) ← readValue fuel depth orNull shape cs
      let (j, cs) ← acceptField shape j cs
      let (rest, cs) ← readFields fuel depth s false cs
      return ((name, j) :: rest, cs)
    | cs => atNext .expectedColon cs

end

/-! ### Whole texts -/

/-- Reads a text that holds one value of a shape and nothing else but blanks. -/
def parseAs (s : Shape) (text : String) : Except ParseError Json :=
  let cs := text.toList
  match readValue (2 * cs.length + 2) depthLimit false s cs with
  | .error t => .error (.locate text t)
  | .ok (j, rest) =>
    match skipBlanks rest with
    | [] => .ok j
    | rest => .error (.locate text ⟨.trailingCharacters, byteCount rest, true⟩)

/-- Reads a text that holds one value of whatever shape, which is for others to judge. -/
def parse (text : String) : Except ParseError Json := parseAs .passed text

/-! ### Values that are kept -/

mutual

/-- Whether a value that was only passed over can be kept as it is: every string in it has a value,
every number is in range, and at most `depth` lists and objects stand inside each other. -/
def isKept : Nat → Json → Bool
  | _, .null | _, .bool _ | _, .str _ => true
  | _, .int i => isInRange (toString i)
  | _, .real text => isInRange text
  | depth + 1, .arr items => areKept depth items
  | depth + 1, .obj fields => areKeptFields depth fields
  | 0, .arr _ | 0, .obj _ | _, .unreadable => false

/-- Whether all items of a list can be kept. -/
def areKept : Nat → List Json → Bool
  | _, [] => true
  | depth, j :: rest => isKept depth j && areKept depth rest

/-- Whether all fields of an object can be kept. -/
def areKeptFields : Nat → List (String × Json) → Bool
  | _, [] => true
  | depth, (_, j) :: rest => isKept depth j && areKeptFields depth rest

end

end ServiceTunnel.Json
