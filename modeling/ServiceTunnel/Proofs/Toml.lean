import Mathlib.Data.List.Basic
import ServiceTunnel.Proofs.Lookup

/-!
# ServiceTunnel.Proofs.Toml

**Reading flat TOML.** A text is read line by line. A line is blank, an entry of a bare key with a
basic string or a decimal integer as its value, or a header that opens the next table of an array.
What is read here means the same in all of TOML. What TOML forbids is refused: a key that is given
twice in one table or to an array as well, a control character in a string, a number with leading
zeros or beyond 64 bits. The rest of TOML (comments, other values, nested tables, blanks before a
key or after a value) is refused too.

A value that is written plainly is read back: a text without quotes, backslashes and control
characters (`Scalar.read?_string`), and a number in decimal (`Scalar.read?_integer`).
-/

namespace ServiceTunnel.Toml

/-! ### Values -/

/-- A value that is not made of others. -/
inductive Scalar where
  | string (text : String)
  | integer (n : Int)
deriving DecidableEq, Repr

/-- The control characters that must not stand in a string: all but the tab. -/
def isControl (c : Char) : Bool := (c.toNat < 0x20 && c != '\t') || c.toNat == 0x7f

/-- A character that stands for itself in a string. -/
def isPlain (c : Char) : Bool := c != '"' && c != '\\' && !isControl c

/-- The character that a one-letter escape stands for. -/
def escaped? (c : Char) : Option Char :=
  match c with
  | '"' => some '"'
  | '\\' => some '\\'
  | 'b' => some '\x08'
  | 'f' => some '\x0c'
  | 'n' => some '\n'
  | 'r' => some '\r'
  | 't' => some '\t'
  | _ => none

/-- Reads what follows the opening quote of a string, up to the closing quote at the end. -/
def readString : List Char → Option (List Char)
  | [] => none
  | '\\' :: e :: cs => do
    let c ← escaped? e
    return c :: (← readString cs)
  | c :: cs =>
    if c = '"' then if cs = [] then some [] else none
    else if isPlain c then (readString cs).map (c :: ·)
    else none

/-- Reads a number without leading zeros. -/
def readNatural (cs : List Char) : Option Nat :=
  if cs ≠ [] ∧ cs.all Char.isDigit ∧ (cs.head? = some '0' → cs = ['0']) then
    some (Nat.ofDigitChars 10 cs 0)
  else none

/-- Reads a number with or without a sign. -/
def readSigned : List Char → Option Int
  | '-' :: cs => (readNatural cs).map fun n => -n
  | '+' :: cs => (readNatural cs).map fun n => n
  | cs => (readNatural cs).map fun n => n

/-- Whether a number has at most 64 bits with its sign. -/
def fits (n : Int) : Bool := -0x8000000000000000 ≤ n && n < 0x8000000000000000

/-- Reads a number that fits. -/
def readInteger (cs : List Char) : Option Int := (readSigned cs).filter fits

/-- Reads a value that fills the rest of a line. -/
def Scalar.read? : List Char → Option Scalar
  | '"' :: cs => (readString cs).map fun text => .string (String.ofList text)
  | cs => (readInteger cs).map .integer

/-! ### Lines -/

/-- A line of a text. -/
inductive Line where
  | blank
  | entry (key : String) (value : Scalar)
  /-- The next table of the array of this name begins. -/
  | header (name : String)
deriving DecidableEq, Repr

/-- A character of a key without quotes. -/
def isBare (c : Char) : Bool := c.isAlphanum || c == '-' || c == '_'

/-- Blanks within a line. -/
def isBlank (c : Char) : Bool := c == ' ' || c == '\t'

/-- Reads what follows a key. -/
def readAssigned (key : List Char) (cs : List Char) : Option Line :=
  match cs.dropWhile isBlank with
  | '=' :: cs => (Scalar.read? (cs.dropWhile isBlank)).map (.entry (String.ofList key))
  | _ => none

/-- Reads a line. -/
def Line.read? : List Char → Option Line
  | [] => some .blank
  | '[' :: '[' :: cs =>
    if cs.takeWhile isBare ≠ [] ∧ cs.dropWhile isBare = [']', ']'] then
      some (.header (String.ofList (cs.takeWhile isBare)))
    else none
  | cs =>
    if cs.takeWhile isBare = [] then none
    else readAssigned (cs.takeWhile isBare) (cs.dropWhile isBare)

/-- The lines of a text. -/
def lines (cs : List Char) : List (List Char) := cs.splitOnP (· == '\n')

/-! ### Documents -/

/-- The entries under one header. -/
abbrev Table := Dict String Scalar

/-- What a text says. -/
structure Document where
  top : Table
  /-- The tables of arrays in the order of the text, each with the name of its array. -/
  sections : List (String × Table)
deriving DecidableEq

namespace Document

/-- The tables of an array. -/
def array (d : Document) (name : String) : List Table :=
  (d.sections.filter (·.1 == name)).map (·.2)

/-- A line before a text. The entries that have no header yet are those at the top. -/
def addLine? (d : Document) : Line → Option Document
  | .blank => some d
  | .entry key value =>
    if d.top.contains key then none else some { d with top := d.top.insert key value }
  | .header name => some ⟨∅, (name, d.top) :: d.sections⟩

/-- Reads lines. -/
def ofLines? : List (List Char) → Option Document
  | [] => some ⟨∅, []⟩
  | cs :: rest => do (← ofLines? rest).addLine? (← Line.read? cs)

/-- Reads a text. A name is not both a key at the top and the name of an array. -/
def read? (text : String) : Option Document :=
  (ofLines? (lines text.toList)).filter fun d => !d.sections.any fun s => d.top.contains s.1

end Document

/-! ### What is written plainly -/

/-- Every character of the text stands for itself in a string. -/
def Plain (text : String) : Prop := ∀ c ∈ text.toList, isPlain c = true

instance (text : String) : Decidable (Plain text) :=
  decidable_of_iff (text.toList.all isPlain = true) List.all_eq_true

theorem readString_append {cs : List Char} (h : ∀ c ∈ cs, isPlain c = true) :
    readString (cs ++ ['"']) = some cs := by
  induction cs with
  | nil => rfl
  | cons c cs ih =>
      obtain ⟨hc, hcs⟩ := List.forall_mem_cons.mp h
      have hquote : c ≠ '"' := by
        rintro rfl
        exact absurd hc (by decide)
      have hslash : c ≠ '\\' := by
        rintro rfl
        exact absurd hc (by decide)
      rw [List.cons_append, readString, if_neg hquote, if_pos hc, ih hcs]
      · rfl
      · intro e rest heq
        exact absurd heq hslash

theorem Scalar.read?_string {text : String} (h : Plain text) :
    Scalar.read? ('"' :: text.toList ++ ['"']) = some (.string text) := by
  rw [List.cons_append, Scalar.read?, readString_append h, Option.map_some, String.ofList_toList]

/-- A number in decimal begins with a zero only if it is zero. -/
theorem head?_toDigits (n : Nat) (h : (Nat.toDigits 10 n).head? = some '0') :
    Nat.toDigits 10 n = ['0'] := by
  induction n using Nat.strongRecOn with
  | _ n ih =>
      by_cases hlt : n < 10
      · rw [Nat.toDigits_of_lt_base hlt] at h ⊢
        exact congrArg (fun c => [c]) (Option.some.inj h)
      · rw [Nat.toDigits_eq_if (by omega), if_neg hlt, List.head?_append,
          List.head?_eq_some_head Nat.toDigits_ne_nil, Option.some_or] at h
        have hzero := ih (n / 10) (by omega) ((List.head?_eq_some_head _).trans h)
        have hdigits := Nat.ofDigitChars_ten_toDigits (n := n / 10)
        rw [hzero] at hdigits
        have : n / 10 = 0 := hdigits.symm
        omega

theorem isDigit_of_mem_decimal {n : Nat} {c : Char} (h : c ∈ Nat.toDigits 10 n) :
    c.isDigit = true := Nat.isDigit_of_mem_toDigits (by omega) (by omega) h

theorem readNatural_toDigits (n : Nat) : readNatural (Nat.toDigits 10 n) = some n := by
  rw [readNatural, if_pos, Nat.ofDigitChars_ten_toDigits]
  refine ⟨Nat.toDigits_ne_nil, ?_, head?_toDigits n⟩
  exact List.all_eq_true.mpr fun c hc => isDigit_of_mem_decimal hc

theorem toList_toString_ofNat (m : Nat) :
    (toString (Int.ofNat m)).toList = Nat.toDigits 10 m := Nat.toList_repr

theorem toList_toString_negSucc (m : Nat) :
    (toString (Int.negSucc m)).toList = '-' :: Nat.toDigits 10 (m + 1) := by
  have hminus : toString (Int.negSucc m) = "-" ++ (m + 1).repr := rfl
  rw [hminus, String.toList_append, Nat.toList_repr]
  rfl

theorem readSigned_toString (n : Int) : readSigned (toString n).toList = some n := by
  cases n with
  | ofNat m =>
      rw [toList_toString_ofNat, readSigned]
      · rw [readNatural_toDigits]
        rfl
      all_goals
        intro cs hcs
        exact absurd (isDigit_of_mem_decimal (hcs ▸ List.mem_cons_self)) (by decide)
  | negSucc m =>
      rw [toList_toString_negSucc, readSigned, readNatural_toDigits]
      rfl

theorem Scalar.read?_integer {n : Int} (h : fits n = true) :
    Scalar.read? (toString n).toList = some (.integer n) := by
  rw [Scalar.read?]
  · rw [readInteger, readSigned_toString, Option.filter_some, if_pos h]
    rfl
  · intro cs hcs
    -- no number begins with a quote
    have hquote : readSigned ('"' :: cs) = some n := hcs ▸ readSigned_toString n
    cases hquote

/-- No value begins with a blank. -/
theorem dropWhile_isBlank {cs : List Char} {v : Scalar} (h : Scalar.read? cs = some v) :
    cs.dropWhile isBlank = cs := by
  cases cs with
  | nil => rfl
  | cons c cs =>
      rw [List.dropWhile_cons_of_neg]
      intro hblank
      simp only [isBlank, Bool.or_eq_true, beq_iff_eq] at hblank
      obtain rfl | rfl := hblank
      · cases h
      · cases h

theorem Line.read?_entry {key : String} {cs : List Char} {v : Scalar}
    (hkey : key.toList ≠ [] ∧ key.toList.all isBare) (h : Scalar.read? cs = some v) :
    Line.read? (key.toList ++ " = ".toList ++ cs) = some (.entry key v) := by
  obtain ⟨hne, hall⟩ := hkey
  obtain ⟨c, rest, hcons⟩ := List.exists_cons_of_ne_nil hne
  have hbare : ∀ c ∈ key.toList, isBare c = true := List.all_eq_true.mp hall
  have hspan : (key.toList ++ (" = ".toList ++ cs)).takeWhile isBare = key.toList ∧
      (key.toList ++ (" = ".toList ++ cs)).dropWhile isBare = " = ".toList ++ cs := by
    rw [List.takeWhile_append_of_pos hbare, List.dropWhile_append_of_pos hbare]
    exact ⟨List.append_nil _, rfl⟩
  have hassigned : readAssigned key.toList (" = ".toList ++ cs) = some (.entry key v) := by
    have hblanks : (" = ".toList ++ cs).dropWhile isBlank = '=' :: ' ' :: cs := rfl
    rw [readAssigned, hblanks]
    have hblank : (' ' :: cs).dropWhile isBlank = cs :=
      (List.dropWhile_cons_of_pos rfl).trans (dropWhile_isBlank h)
    simp only [hblank, h, Option.map_some, String.ofList_toList]
  rw [List.append_assoc, Line.read?]
  · rw [hspan.1, hspan.2, if_neg hne, hassigned]
  · intro hnil
    exact hne (List.append_eq_nil_iff.mp hnil).1
  · intro tail htail
    rw [hcons] at htail
    have hfirst : isBare '[' = true := by
      rw [← (List.cons.inj htail).1]
      exact hbare c (hcons ▸ List.mem_cons_self)
    exact absurd hfirst (by decide)

/-- The line is an entry. -/
def Line.Gives (cs : List Char) (e : String × Scalar) : Prop :=
  Line.read? cs = some (.entry e.1 e.2)

/-- Entries with different keys, before lines that begin with the next header or end the text, are
the entries of one table. -/
theorem Document.ofLines?_entries (es : List (String × Scalar)) {ls rest : List (List Char)}
    {sections : List (String × Table)} (hgives : List.Forall₂ Line.Gives ls es)
    (hkeys : (es.map (·.1)).Nodup) (hrest : ofLines? rest = some ⟨∅, sections⟩) :
    ofLines? (ls ++ rest) = some ⟨.ofList es, sections⟩ := by
  induction hgives with
  | nil => exact hrest
  | @cons cs e ls es hread _ ih =>
      have hread : Line.read? cs = some (.entry e.1 e.2) := hread
      obtain ⟨hnew, hlater⟩ := List.nodup_cons.mp hkeys
      have hfree : (Dict.ofList es).contains e.1 = false := by
        rw [Dict.contains, Dict.get?_ofList_of_not_mem hlater hnew]
        rfl
      have hadd : Document.addLine? ⟨.ofList es, sections⟩ (.entry e.1 e.2) =
          some ⟨(Dict.ofList es).insert e.1 e.2, sections⟩ := by
        rw [addLine?, if_neg (by rw [hfree]; exact Bool.false_ne_true)]
      rw [List.cons_append, ofLines?, ih hlater, hread, Dict.ofList_cons hkeys]
      exact hadd

/-! ### Texts in one line -/

/-- The text has no break in it. -/
def OneLine (text : String) : Prop := '\n' ∉ text.toList

instance (text : String) : Decidable (OneLine text) :=
  inferInstanceAs (Decidable ('\n' ∉ text.toList))

theorem OneLine.append {a b : String} (ha : OneLine a) (hb : OneLine b) : OneLine (a ++ b) := by
  unfold OneLine
  rw [String.toList_append, List.mem_append]
  exact not_or.mpr ⟨ha, hb⟩

theorem Plain.append {a b : String} (ha : Plain a) (hb : Plain b) : Plain (a ++ b) := by
  intro c hc
  rw [String.toList_append, List.mem_append] at hc
  exact hc.elim (ha c) (hb c)

theorem Plain.oneLine {text : String} (h : Plain text) : OneLine text := by
  intro hmem
  exact absurd (h _ hmem) (by decide)

theorem isPlain_of_isDigit {c : Char} (h : c.isDigit = true) : isPlain c = true := by
  have hrange : 48 ≤ c.toNat ∧ c.toNat ≤ 57 := Char.isDigit_iff_toNat.mp h
  have hquote : c ≠ '"' := by
    rintro rfl
    cases h
  have hslash : c ≠ '\\' := by
    rintro rfl
    cases h
  have hcontrol : isControl c = false := by
    have hlow : ¬ c.toNat < 0x20 := by omega
    have hdelete : c.toNat ≠ 0x7f := by omega
    simp [isControl, hlow, hdelete]
  simp [isPlain, hquote, hslash, hcontrol]

theorem plain_toString (n : Int) : Plain (toString n) := by
  intro c hc
  cases n with
  | ofNat m =>
      rw [toList_toString_ofNat] at hc
      exact isPlain_of_isDigit (isDigit_of_mem_decimal hc)
  | negSucc m =>
      rw [toList_toString_negSucc, List.mem_cons] at hc
      obtain rfl | hdigit := hc
      · rfl
      · exact isPlain_of_isDigit (isDigit_of_mem_decimal hdigit)

/-! ### Lines of a text -/

theorem lines_append (a b : List Char) : lines (a ++ '\n' :: b) = lines a ++ lines b :=
  List.splitOnP_append_cons _ _ rfl

theorem lines_of_not_mem {cs : List Char} (h : '\n' ∉ cs) : lines cs = [cs] := by
  refine List.splitOnP_eq_singleton fun c hc => ?_
  have hne : c ≠ '\n' := fun heq => h (heq ▸ hc)
  simpa using hne

/-- What stands before a text in one line stands before its first line. -/
theorem lines_append_left {a : List Char} (h : '\n' ∉ a) (b : List Char) :
    lines (a ++ b) = (lines b).modifyHead (a ++ ·) := by
  obtain ⟨first, rest, hb⟩ := List.exists_cons_of_ne_nil (List.splitOnP_ne_nil (· == '\n') b)
  have hlines : lines b = first :: rest := hb
  rw [hlines, List.modifyHead_cons]
  induction a with
  | nil => exact hlines
  | cons c a ih =>
      rw [List.mem_cons, not_or] at h
      have hne : (c == '\n') = false := by simpa using Ne.symm h.1
      have hrest : lines (a ++ b) = (a ++ first) :: rest := ih h.2
      rw [List.cons_append, lines, List.splitOnP_cons_eq_if_modifyHead, hne, ← lines, hrest]
      rfl

/-- Lines that are written one after another are told apart again, whatever breaks are in them. -/
theorem lines_flatMap (ls : List (List Char)) :
    lines (ls.flatMap (· ++ ['\n'])) = ls.flatMap lines ++ [[]] := by
  induction ls with
  | nil => rfl
  | cons l ls ih =>
      rw [List.flatMap_cons, List.flatMap_cons, List.append_assoc, List.singleton_append,
        lines_append, ih, List.append_assoc]

/-- Lines without breaks in them are one line each. -/
theorem flatMap_lines_of_not_mem {ls : List (List Char)} (h : ∀ l ∈ ls, '\n' ∉ l) :
    ls.flatMap lines = ls := by
  have heach : ls.flatMap lines = ls.flatMap ([·]) :=
    List.flatMap_congr fun l hl => lines_of_not_mem (h l hl)
  rw [heach, List.flatMap_singleton']

theorem lines_flatMap_of_not_mem {ls : List (List Char)} (h : ∀ l ∈ ls, '\n' ∉ l) :
    lines (ls.flatMap (· ++ ['\n'])) = ls ++ [[]] := by
  rw [lines_flatMap, flatMap_lines_of_not_mem h]

end ServiceTunnel.Toml
