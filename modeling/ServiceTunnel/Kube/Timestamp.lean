import ServiceTunnel.Text.Blank

/-!
# ServiceTunnel.Kube.Timestamp

**Points in time as objects carry them.** A timestamp is read loosely: blanks may stand between its
parts, a fraction of a second is passed over, and the time of day may be that of any offset from
UTC. It is written in one way: in UTC, to the second.
-/

namespace ServiceTunnel.Kube

/-- Why a text is no timestamp. -/
inductive TimestampFlaw where
  /-- A part has a value that it cannot have. -/
  | outOfRange
  /-- No point in time that can be counted has this date and time of day. -/
  | impossible
  | invalid
  | cut
  | trailing
deriving DecidableEq, Repr

/-- The wording. -/
def TimestampFlaw.message : TimestampFlaw → String
  | .outOfRange => "input is out of range"
  | .impossible => "no possible date and time matching input"
  | .invalid => "input contains invalid characters"
  | .cut => "premature end of input"
  | .trailing => "trailing input"

/-- A date and a time of day in UTC. A leap second is the second 60 of its minute. -/
structure Timestamp where
  year : Int
  month : Nat
  day : Nat
  hour : Nat
  minute : Nat
  second : Nat
deriving DecidableEq, Repr

namespace Timestamp

/-! ### The calendar -/

/-- Whether a year has a day more. -/
def isLeap (year : Int) : Bool := year % 4 == 0 && (year % 100 != 0 || year % 400 == 0)

/-- The number of days of a month. -/
def daysIn (year : Int) (month : Nat) : Nat :=
  if month = 2 then if isLeap year then 29 else 28
  else if [4, 6, 9, 11].contains month then 30
  else 31

/-- The same time of the day before. -/
def dayBefore (t : Timestamp) : Timestamp :=
  if 1 < t.day then { t with day := t.day - 1 }
  else if 1 < t.month then { t with month := t.month - 1, day := daysIn t.year (t.month - 1) }
  else { t with year := t.year - 1, month := 12, day := 31 }

/-- The same time of the day after. -/
def dayAfter (t : Timestamp) : Timestamp :=
  if t.day < daysIn t.year t.month then { t with day := t.day + 1 }
  else if t.month < 12 then { t with month := t.month + 1, day := 1 }
  else { t with year := t.year + 1, month := 1, day := 1 }

/-- The time `minutes` before, less than a day away. -/
def minutesBefore (t : Timestamp) (minutes : Int) : Timestamp :=
  let moved : Int := 60 * t.hour + t.minute - minutes
  let t := if moved < 0 then t.dayBefore else if 1440 ≤ moved then t.dayAfter else t
  let ofDay := (moved % 1440).toNat
  { t with hour := ofDay / 60, minute := ofDay % 60 }

/-- Whether a year can be counted. -/
def isYear (year : Int) : Bool := -262143 ≤ year && year ≤ 262142

/-- Whether there is such a date. -/
def hasDate (t : Timestamp) : Bool :=
  isYear t.year && 1 ≤ t.month && t.month ≤ 12 && 1 ≤ t.day && t.day ≤ daysIn t.year t.month

/-! ### Reading -/

/-- The number that decimal digits spell. -/
def spell (ds : List Char) : Nat := ds.foldl (fun n d => 10 * n + (d.toNat - 48)) 0

/-- Reads the digits at the start of a text, at least one. -/
def digits : List Char → Except TimestampFlaw (Nat × List Char)
  | [] => .error .cut
  | c :: cs =>
    let ds := (c :: cs).takeWhile Char.isDigit
    if ds.isEmpty then .error .invalid else .ok (spell ds, (c :: cs).drop ds.length)

/-- Reads a number of at most `most` digits behind blanks. -/
def number (most : Nat) (cs : List Char) : Except TimestampFlaw (Nat × List Char) :=
  -- A digit too many is not part of the number, but of what follows it.
  let cs := cs.dropWhile Text.isBlank
  (digits (cs.take most)).map fun (n, rest) => (n, rest ++ cs.drop most)

/-- Reads a number of two digits from `low` to `high`. -/
def numberWithin (low high : Nat) (cs : List Char) : Except TimestampFlaw (Nat × List Char) := do
  let (n, cs) ← number 2 cs
  if low ≤ n ∧ n ≤ high then .ok (n, cs) else .error .outOfRange

/-- Reads a year: four digits at most, or with a sign any number of them. -/
def yearOf (cs : List Char) : Except TimestampFlaw (Int × List Char) := do
  let (year, cs) ← match cs.dropWhile Text.isBlank with
    | '-' :: cs => (digits cs).map fun (n, rest) => (-(n : Int), rest)
    | '+' :: cs => (digits cs).map fun (n, rest) => ((n : Int), rest)
    | cs => (number 4 cs).map fun (n, rest) => ((n : Int), rest)
  if -2147483648 ≤ year ∧ year ≤ 2147483647 then .ok (year, cs) else .error .outOfRange

/-- What follows one of the `marks` at the start of a text. -/
def behind (marks : List Char) : List Char → Except TimestampFlaw (List Char)
  | [] => .error .cut
  | c :: cs => if marks.contains c then .ok cs else .error .invalid

/-- What follows `mark` and the blanks before it. -/
def behindMark (mark : Char) (cs : List Char) : Except TimestampFlaw (List Char) :=
  behind [mark] (cs.dropWhile Text.isBlank)

/-- What follows the fraction of a second, if there is one. -/
def behindFraction : List Char → Except TimestampFlaw (List Char)
  | '.' :: cs => (digits cs).map (·.2)
  | cs => .ok cs

/-- The first two characters of a text. -/
def twoOf : List Char → Except TimestampFlaw (Char × Char × List Char)
  | a :: b :: cs => .ok (a, b, cs)
  -- A character of several bytes makes the text long enough to be wrong.
  | [a] => .error (if a.utf8Size = 1 then .cut else .invalid)
  | [] => .error .cut

/-- Reads the hours and minutes of an offset. -/
def hoursAndMinutes (cs : List Char) : Except TimestampFlaw (Int × List Char) := do
  let (a, b, cs) ← twoOf cs
  if !a.isDigit || !b.isDigit then .error .invalid
  else
    let (c, d, cs) ← twoOf (cs.dropWhile fun c => c == ':' || Text.isBlank c)
    if !c.isDigit || !d.isDigit then .error .invalid
    else if '5' < c then .error .outOfRange
    else .ok (60 * (spell [a, b] : Int) + spell [c, d], cs)

/-- Reads an offset from UTC in minutes. -/
def offset (cs : List Char) : Except TimestampFlaw (Int × List Char) :=
  match cs with
  | [] => .error .cut
  | 'Z' :: rest | 'z' :: rest => .ok (0, rest)
  | '+' :: rest => hoursAndMinutes rest
  | '-' :: rest | '\u2212' :: rest => (hoursAndMinutes rest).map fun (n, rest) => (-n, rest)
  | _ =>
    if (cs.take 3).map Char.toLower = ['u', 't', 'c'] then .ok (0, cs.drop 3) else .error .invalid

/-- The timestamp of a date and a time of day that are `minutes` ahead of UTC. -/
def ofLocal (t : Timestamp) (minutes : Int) : Except TimestampFlaw Timestamp :=
  if !t.hasDate || 1440 ≤ minutes.natAbs then .error .outOfRange
  else if isYear (t.minutesBefore minutes).year then .ok (t.minutesBefore minutes)
  else .error .impossible

/-- Reads a timestamp. -/
def parse (text : String) : Except TimestampFlaw Timestamp := do
  let (year, cs) ← yearOf text.toList
  let (month, cs) ← numberWithin 1 12 (← behindMark '-' cs)
  let (day, cs) ← numberWithin 1 31 (← behindMark '-' cs)
  let (hour, cs) ← numberWithin 0 23 (← behind ['t', 'T', ' '] cs)
  let (minute, cs) ← numberWithin 0 59 (← behindMark ':' cs)
  let (second, cs) ← numberWithin 0 60 (← behindMark ':' cs)
  let cs ← behindFraction cs
  let (minutes, cs) ← offset (cs.dropWhile Text.isBlank)
  if cs.all Text.isBlank then ofLocal ⟨year, month, day, hour, minute, second⟩ minutes
  else .error .trailing

/-! ### Writing -/

/-- A number with at least `width` digits. -/
def padded (width n : Nat) : String :=
  let digits := toString n
  String.ofList (List.replicate (width - digits.length) '0') ++ digits

/-- A year; one of more or less than four digits has a sign. -/
def yearText (year : Int) : String :=
  if 0 ≤ year ∧ year ≤ 9999 then padded 4 year.toNat
  else (if year < 0 then "-" else "+") ++ padded 4 year.natAbs

/-- The written form. -/
def text (t : Timestamp) : String :=
  s!"{yearText t.year}-{padded 2 t.month}-{padded 2 t.day}T" ++
    s!"{padded 2 t.hour}:{padded 2 t.minute}:{padded 2 t.second}Z"

/-- The written form of the timestamp that a text gives, or why it gives none. -/
def canonical (text : String) : Except String String :=
  ((parse text).mapError TimestampFlaw.message).map Timestamp.text

end Timestamp

end ServiceTunnel.Kube
