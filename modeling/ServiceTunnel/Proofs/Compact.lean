import ServiceTunnel.Json.Reader
import ServiceTunnel.Json.Writer
import ServiceTunnel.Proofs.Toml

/-!
# ServiceTunnel.Proofs.Compact

**Reading a compact text back.** A value of strings, integers, truth values, nulls, lists and
objects is read back from its text as it was (`parse_compact`): a string may hold any characters,
and neither the size of an integer nor the depth of the nesting matters. Numbers that are kept as
written, and what is unreadable, are left aside: they can be anything in the text.

A value is read back before whatever can follow it: the end, a comma or a closing bracket
(`Closes`), none of which belongs to a number. So a list or an object is read back part by part
(`Exact.reread`).
-/

namespace ServiceTunnel.Json

/-- Every item that was made by `f` is taken on to what `g` makes. -/
theorem mapM_map {α β γ : Type} {f : α → β} {g : α → γ} {d : β → Option γ} {l : List α}
    (h : ∀ a ∈ l, d (f a) = some (g a)) : (l.map f).mapM d = some (l.map g) := by
  induction l with
  | nil => rfl
  | cons a l ih =>
    obtain ⟨ha, hl⟩ := List.forall_mem_cons.mp h
    rw [List.map_cons, List.mapM_cons, ha, ih hl]
    rfl

/-- No number in the value is kept as written, and every string has a value. -/
inductive Exact : Json → Prop where
  | null : Exact .null
  | bool (b : Bool) : Exact (.bool b)
  | int (i : Int) : Exact (.int i)
  | str (s : String) : Exact (.str s)
  | arr {items : List Json} : (∀ j ∈ items, Exact j) → Exact (.arr items)
  | obj {fields : List (String × Json)} : (∀ f ∈ fields, Exact f.2) → Exact (.obj fields)

/-- What can follow a value in a compact text. -/
inductive Closes : List Char → Prop where
  | atEnd : Closes []
  | comma (cs : List Char) : Closes (',' :: cs)
  | bracket (cs : List Char) : Closes (']' :: cs)
  | brace (cs : List Char) : Closes ('\x7d' :: cs)

/-! ### Strings -/

/-- Before the text of any pieces, the piece stands for the character. -/
def Piece.Spells (p : Piece) (c : Char) : Prop :=
  ∀ ps, joinPieces (p :: ps) = (joinPieces ps).map (c :: ·)

theorem Piece.char_spells (c : Char) : (Piece.char c).Spells c := fun _ => rfl

/-- A unit below the surrogates is a character of its own. -/
theorem Piece.unit_spells {c : Char} (h : c.toNat < 0x20) : (Piece.unit c.toNat).Spells c := by
  intro ps
  have hlow : ¬ isLowSurrogate c.toNat = true := by simp [isLowSurrogate]; omega
  have hhigh : ¬ isHighSurrogate c.toNat = true := by simp [isHighSurrogate]; omega
  rw [joinPieces.eq_def]
  dsimp only
  rw [if_neg hlow, if_neg hhigh, Char.ofNat_toNat]

/-- The digits of a control character spell it. -/
theorem hexUnit?_hexDigit :
    ∀ n < 0x20, hexUnit? '0' '0' (hexDigit (n / 16)) (hexDigit (n % 16)) = some n := by
  decide

/-- A short escape is read as the character that it stands for. -/
theorem readPieces_shortEscape {e c : Char} {cs : List Char} {ps : List Piece} {rest : List Char}
    (he : shortEscape? e = some c) (h : readPieces cs = .ok (ps, rest)) :
    readPieces ('\\' :: e :: cs) = .ok (.char c :: ps, rest) := by
  have hunit : e ≠ 'u' := by
    rintro rfl
    cases he
  rw [readPieces, he]
  · simp only [h]
    rfl
  · intro _ _ _ _ _ heq
    exact absurd heq hunit
  · intro heq
    exact absurd heq hunit

/-- A written character is read as one piece, which spells it. -/
theorem readPieces_writeChar (c : Char) : ∃ p : Piece, p.Spells c ∧
    ∀ {cs ps rest}, readPieces cs = .ok (ps, rest) →
      readPieces (writeChar c ++ cs) = .ok (p :: ps, rest) := by
  unfold writeChar
  split_ifs with hquote hslash hbreak hreturn htab hback hfeed hcontrol
  case pos | pos | pos | pos | pos | pos | pos =>
    all_goals
      subst c
      exact ⟨.char _, Piece.char_spells _, fun h => readPieces_shortEscape rfl h⟩
  case pos =>
    refine ⟨.unit c.toNat, Piece.unit_spells hcontrol, fun {cs ps rest} h => ?_⟩
    simp only [List.cons_append, List.nil_append]
    rw [readPieces, hexUnit?_hexDigit _ hcontrol]
    simp only [h]
    rfl
  case neg =>
    refine ⟨.char c, Piece.char_spells c, fun {cs ps rest} h => ?_⟩
    rw [List.singleton_append, readPieces]
    · simp only [if_neg hcontrol, h]
      rfl
    · exact hquote
    · intro _ _ _ _ _ heq
      exact absurd heq hslash
    · intro _ heq
      exact absurd heq hslash
    · intro _ _ heq
      exact absurd heq hslash
    · intro heq
      exact absurd heq hslash

/-- A written string is read up to its closing quote. -/
theorem readString_written (text : String) (rest : List Char) :
    readString true (text.toList.flatMap writeChar ++ '"' :: rest) = .ok (some text, rest) := by
  have hpieces : ∀ cs : List Char, ∃ ps,
      readPieces (cs.flatMap writeChar ++ '"' :: rest) = .ok (ps, rest) ∧
        joinPieces ps = some cs := by
    intro cs
    induction cs with
    | nil => exact ⟨[], rfl, rfl⟩
    | cons c cs ih =>
      obtain ⟨ps, hread, hjoin⟩ := ih
      obtain ⟨p, hspells, hchar⟩ := readPieces_writeChar c
      refine ⟨p :: ps, ?_, ?_⟩
      · rw [List.flatMap_cons, List.append_assoc, hchar hread]
      · rw [hspells, hjoin, Option.map_some]
  obtain ⟨ps, hread, hjoin⟩ := hpieces text.toList
  rw [readString, if_pos rfl, hread]
  show Except.ok ((joinPieces ps).map String.ofList, rest) = _
  rw [hjoin, Option.map_some, String.ofList_toList]

/-! ### Numbers -/

/-- Nothing that closes a value belongs to a number. -/
theorem readFraction_closes {rest : List Char} (h : Closes rest) (x : Numeral) :
    readFraction true x rest = .ok (x, rest) := by
  cases h <;> rfl

theorem takeWhile_digits {ds rest : List Char} (hds : ∀ d ∈ ds, d.isDigit = true)
    (h : Closes rest) :
    (ds ++ rest).takeWhile Char.isDigit = ds ∧ (ds ++ rest).dropWhile Char.isDigit = rest := by
  rw [List.takeWhile_append_of_pos hds, List.dropWhile_append_of_pos hds]
  have hrest : rest.takeWhile Char.isDigit = [] ∧ rest.dropWhile Char.isDigit = rest := by
    cases h <;> exact ⟨rfl, rfl⟩
  rw [hrest.1, hrest.2, List.append_nil]
  exact ⟨rfl, rfl⟩

/-- A number in decimal is read up to its last digit. -/
theorem readNumeral_toDigits (negative : Bool) (n : Nat) {rest : List Char} (h : Closes rest) :
    readNumeral true negative (Nat.toDigits 10 n ++ rest) =
      .ok (⟨negative, Nat.toDigits 10 n, [], none⟩, rest) := by
  obtain ⟨d, ds, hdigits⟩ := List.exists_cons_of_ne_nil (Nat.toDigits_ne_nil (b := 10) (n := n))
  have hall : ∀ c ∈ d :: ds, c.isDigit = true := fun c hc =>
    Toml.isDigit_of_mem_decimal (hdigits ▸ hc)
  obtain ⟨hd, hds⟩ := List.forall_mem_cons.mp hall
  rw [hdigits, List.cons_append]
  unfold readNumeral
  dsimp only
  by_cases hzero : d = '0'
  · have hlone : d :: ds = ['0'] := by
      rw [← hdigits]
      exact Toml.head?_toDigits n (by rw [hdigits, hzero, List.head?_cons])
    obtain ⟨rfl, rfl⟩ := List.cons.inj hlone
    cases h <;> rfl
  · rw [if_neg hzero, if_pos hd, (takeWhile_digits hds h).1, (takeWhile_digits hds h).2,
      readFraction_closes h]

/-- The digits of a number in decimal spell it. -/
theorem spell_toDigits (n : Nat) : Numeral.spell 0 (Nat.toDigits 10 n) = n :=
  Nat.ofDigitChars_ten_toDigits

/-- A numeral of digits alone is an integer; only a zero has no sign. -/
theorem value_toDigits {negative : Bool} {n : Nat} (hzero : negative = true → n ≠ 0)
    (written : List Char) :
    Numeral.value ⟨negative, Nat.toDigits 10 n, [], none⟩ written =
      .int (if negative then -(n : Int) else n) := by
  unfold Numeral.value
  rw [spell_toDigits]
  cases negative with
  | false => rfl
  | true => simp [hzero rfl]

theorem readNumber_toDigits {negative : Bool} {n : Nat} {rest : List Char}
    (hzero : negative = true → n ≠ 0) (h : Closes rest) :
    readNumber true negative (Nat.toDigits 10 n ++ rest) =
      .ok (.int (if negative then -(n : Int) else n), rest) := by
  rw [readNumber, readNumeral_toDigits negative n h]
  show Except.ok (Numeral.value _ _, rest) = _
  rw [value_toDigits hzero]

/-- An integer is read back, whatever its size and sign. -/
theorem readScalar_int (i : Int) {rest : List Char} (h : Closes rest) :
    readScalar true ((toString i).toList ++ rest) = .ok (.int i, rest) := by
  cases i with
  | ofNat n =>
    have hread : readNumber true false (Nat.toDigits 10 n ++ rest) = .ok (.int n, rest) :=
      readNumber_toDigits (fun hsign => by cases hsign) h
    obtain ⟨d, ds, hdigits⟩ := List.exists_cons_of_ne_nil (Nat.toDigits_ne_nil (b := 10) (n := n))
    have hd : d.isDigit = true := Toml.isDigit_of_mem_decimal (hdigits ▸ List.mem_cons_self)
    rw [Toml.toList_toString_ofNat]
    rw [hdigits, List.cons_append] at hread ⊢
    rw [readScalar, if_pos hd, hread]
    · rfl
    -- none of the other beginnings of a value is a digit
    all_goals
      rintro rfl
      cases hd
  | negSucc n =>
    rw [Toml.toList_toString_negSucc, List.cons_append]
    exact readNumber_toDigits (fun _ => Nat.succ_ne_zero n) h

/-- An integer begins with its sign or with a digit. -/
theorem toString_head (i : Int) :
    ∃ c cs, (toString i).toList = c :: cs ∧ (c = '-' ∨ c.isDigit = true) := by
  cases i with
  | ofNat n =>
    obtain ⟨d, ds, hdigits⟩ := List.exists_cons_of_ne_nil (Nat.toDigits_ne_nil (b := 10) (n := n))
    rw [Toml.toList_toString_ofNat]
    exact ⟨d, ds, hdigits, .inr (Toml.isDigit_of_mem_decimal (hdigits ▸ List.mem_cons_self))⟩
  | negSucc n =>
    rw [Toml.toList_toString_negSucc]
    exact ⟨'-', _, rfl, .inl rfl⟩

/-! ### How values begin -/

/-- The character can be the first of a value: it is no blank, and closes no list. -/
def Begins (c : Char) : Prop := isBlank c = false ∧ c ≠ ']'

instance (c : Char) : Decidable (Begins c) :=
  inferInstanceAs (Decidable (isBlank c = false ∧ c ≠ ']'))

theorem begins_of_isDigit {c : Char} (h : c.isDigit = true) : Begins c := by
  constructor
  · rw [Bool.eq_false_iff]
    intro hblank
    simp only [isBlank, Bool.or_eq_true, beq_iff_eq] at hblank
    obtain ((rfl | rfl) | rfl) | rfl := hblank <;> cases h
  · rintro rfl
    cases h

theorem Exact.head {j : Json} (h : j.Exact) : ∃ c cs, j.write = c :: cs ∧ Begins c := by
  cases h with
  | null => exact ⟨'n', _, rfl, by decide⟩
  | bool b =>
    cases b with
    | false => exact ⟨'f', _, rfl, by decide⟩
    | true => exact ⟨'t', _, rfl, by decide⟩
  | int i =>
    obtain ⟨c, cs, hwrite, hc⟩ := toString_head i
    refine ⟨c, cs, hwrite, ?_⟩
    obtain rfl | hdigit := hc
    · decide
    · exact begins_of_isDigit hdigit
  | str s => exact ⟨'"', _, rfl, by decide⟩
  | arr _ => exact ⟨'[', _, rfl, by decide⟩
  | obj _ => exact ⟨'\x7b', _, rfl, by decide⟩

/-- No value has an empty text, so each step of a reader leaves it less to read. -/
theorem Exact.length_pos {j : Json} (h : j.Exact) : 0 < j.write.length := by
  obtain ⟨c, cs, hwrite, -⟩ := h.head
  rw [hwrite]
  exact Nat.zero_lt_succ _

/-! ### Values -/

/-- The value is read back from its text, before whatever can follow it. -/
def Reread (j : Json) : Prop :=
  ∀ (fuel depth : Nat) (rest : List Char), Closes rest →
    2 * (j.write ++ rest).length + 2 ≤ fuel →
      readValue fuel depth false .passed (j.write ++ rest) = .ok (j, rest)

theorem skipBlanks_cons {c : Char} (h : isBlank c = false) (cs : List Char) :
    skipBlanks (c :: cs) = c :: cs :=
  List.dropWhile_cons_of_neg (by rw [h]; exact Bool.false_ne_true)

/-- What does not begin as a list or an object is read as neither. -/
theorem readValue_scalar {fuel depth : Nat} {c : Char} {cs : List Char} {r : Json × List Char}
    (hc : Begins c) (hlist : c ≠ '[') (hobject : c ≠ '\x7b')
    (h : readScalar true (c :: cs) = .ok r) :
    readValue (fuel + 1) depth false .passed (c :: cs) = .ok r := by
  rw [readValue, skipBlanks_cons hc.1]
  split
  · rename_i heq
    exact absurd (List.cons.inj heq).1 hlist
  · rename_i heq
    exact absurd (List.cons.inj heq).1 hobject
  · show (readScalar true (c :: cs)).bind _ = _
    rw [h]
    rfl

/-- What is only passed over may be nested to any depth. -/
theorem readValue_list {fuel depth : Nat} {cs : List Char} :
    readValue (fuel + 1) depth false .passed ('[' :: cs) = do
      let (items, cs) ← readItems fuel (depth - 1) .passed true cs
      return (.arr items, cs) := by
  rw [readValue, skipBlanks_cons rfl]
  simp [Shape.list?, Shape.isPassed, Shape.item]

theorem readValue_object {fuel depth : Nat} {cs : List Char} :
    readValue (fuel + 1) depth false .passed ('\x7b' :: cs) = do
      let (fields, cs) ← readFields fuel (depth - 1) .passed true cs
      return (ofFields fields, cs) := by
  rw [readValue, skipBlanks_cons rfl]
  simp [Shape.object?, Shape.isPassed]

/-- Reading a list begins with its first item. -/
theorem readItems_first {fuel depth : Nat} {c : Char} {cs : List Char} (hc : Begins c) :
    readItems (fuel + 1) depth .passed true (c :: cs) = do
      let (j, cs) ← readValue fuel depth false .passed (c :: cs)
      let (rest, cs) ← readItems fuel depth .passed false cs
      return (j :: rest, cs) := by
  rw [readItems, skipBlanks_cons hc.1]
  split
  · rename_i heq
    cases heq
  · rename_i heq
    exact absurd (List.cons.inj heq).1 hc.2
  · rename_i heq
    rw [if_pos rfl]
    rw [← heq]

/-- Behind a comma comes the next item. -/
theorem readItems_next {fuel depth : Nat} {c : Char} {cs : List Char} (hc : Begins c) :
    readItems (fuel + 1) depth .passed false (',' :: c :: cs) = do
      let (j, cs) ← readValue fuel depth false .passed (c :: cs)
      let (rest, cs) ← readItems fuel depth .passed false cs
      return (j :: rest, cs) := by
  rw [readItems, skipBlanks_cons rfl]
  split
  · rename_i heq
    cases heq
  · rename_i heq
    exact absurd (List.cons.inj heq).1 (by decide)
  · rename_i heq
    obtain ⟨rfl, rfl⟩ := List.cons.inj heq
    rw [if_neg Bool.false_ne_true, if_pos rfl, skipBlanks_cons hc.1]
    split
    · rename_i heq
      cases heq
    · rename_i heq
      exact absurd (List.cons.inj heq).1 hc.2
    · rfl

/-- Behind the last item the list ends. -/
theorem readItems_end {fuel depth : Nat} {first : Bool} {cs : List Char} :
    readItems (fuel + 1) depth .passed first (']' :: cs) = .ok ([], cs) := by
  rw [readItems, skipBlanks_cons rfl]
  rfl

/-- What follows the first item of a list. -/
def moreItems (items : List Json) (rest : List Char) : List Char :=
  items.flatMap (fun j => ',' :: j.write) ++ ']' :: rest

theorem moreItems_cons (j : Json) (items : List Json) (rest : List Char) :
    moreItems (j :: items) rest = ',' :: (j.write ++ moreItems items rest) := by
  simp [moreItems]

theorem closes_moreItems (items : List Json) (rest : List Char) :
    Closes (moreItems items rest) := by
  cases items with
  | nil => exact .bracket rest
  | cons j items => exact .comma _

/-- An item is read, and then those behind it, be it the first or one behind a comma. -/
theorem readItems_item {fuel depth : Nat} {j : Json} {items : List Json} {rest : List Char}
    (hexact : j.Exact) (hj : j.Reread)
    (hfuel : 2 * (j.write ++ moreItems items rest).length + 2 ≤ fuel)
    (hmore : readItems fuel depth .passed false (moreItems items rest) = .ok (items, rest)) :
    readItems (fuel + 1) depth .passed true (j.write ++ moreItems items rest) =
        .ok (j :: items, rest) ∧
      readItems (fuel + 1) depth .passed false (',' :: (j.write ++ moreItems items rest)) =
        .ok (j :: items, rest) := by
  have hread : (do
      let (j, cs) ← readValue fuel depth false .passed (j.write ++ moreItems items rest)
      let (rest, cs) ← readItems fuel depth .passed false cs
      return (j :: rest, cs)) = .ok (j :: items, rest) := by
    rw [hj fuel depth _ (closes_moreItems items rest) hfuel]
    show (readItems fuel depth .passed false (moreItems items rest)).bind _ = _
    rw [hmore]
    rfl
  obtain ⟨c, cs, hwrite, hc⟩ := hexact.head
  rw [hwrite, List.cons_append] at hread ⊢
  exact ⟨(readItems_first hc).trans hread, (readItems_next hc).trans hread⟩

/-- The items behind the first are read up to the end of the list. -/
theorem readItems_rest {items : List Json} (h : ∀ j ∈ items, j.Exact ∧ j.Reread) {depth : Nat}
    {rest : List Char} {fuel : Nat} (hfuel : 2 * (moreItems items rest).length + 3 ≤ fuel) :
    readItems fuel depth .passed false (moreItems items rest) = .ok (items, rest) := by
  obtain ⟨fuel, rfl⟩ : ∃ n, fuel = n + 1 := Nat.exists_eq_add_of_le' (by omega)
  induction items generalizing fuel with
  | nil => exact readItems_end
  | cons j items ih =>
    obtain ⟨⟨hexact, hj⟩, hitems⟩ := List.forall_mem_cons.mp h
    rw [moreItems_cons] at hfuel ⊢
    simp only [List.length_cons, List.length_append] at hfuel
    obtain ⟨fuel, rfl⟩ : ∃ n, fuel = n + 1 := Nat.exists_eq_add_of_le' (by omega)
    have hmore : readItems (fuel + 1) depth .passed false (moreItems items rest) =
        .ok (items, rest) := ih hitems fuel (by omega)
    exact (readItems_item hexact hj (by rw [List.length_append]; omega) hmore).2

theorem writeItems_cons (j : Json) (items : List Json) (rest : List Char) :
    writeItems (j :: items) ++ ']' :: rest = j.write ++ moreItems items rest := by
  induction items generalizing j with
  | nil => rfl
  | cons k items ih =>
    rw [writeItems, List.append_assoc, List.cons_append, ih k, moreItems_cons]
    exact List.cons_ne_nil k items

/-- All items of a list are read. -/
theorem readItems_written {items : List Json} (h : ∀ j ∈ items, j.Exact ∧ j.Reread) (depth : Nat)
    {rest : List Char} {fuel : Nat}
    (hfuel : 2 * (writeItems items ++ ']' :: rest).length + 3 ≤ fuel) :
    readItems fuel depth .passed true (writeItems items ++ ']' :: rest) = .ok (items, rest) := by
  obtain ⟨fuel, rfl⟩ : ∃ n, fuel = n + 1 := Nat.exists_eq_add_of_le' (by omega)
  cases items with
  | nil => exact readItems_end
  | cons j items =>
    obtain ⟨⟨hexact, hj⟩, hitems⟩ := List.forall_mem_cons.mp h
    have hpos := hexact.length_pos
    rw [writeItems_cons, List.length_append] at hfuel
    rw [writeItems_cons]
    have hmore : readItems fuel depth .passed false (moreItems items rest) = .ok (items, rest) :=
      readItems_rest hitems (by omega)
    exact (readItems_item hexact hj (by rw [List.length_append]; omega) hmore).1

/-! ### Objects -/

/-- A field as it is read. -/
def named (f : String × Json) : Option String × Json := (some f.1, f.2)

theorem ofFields_named (fields : List (String × Json)) :
    ofFields (fields.map named) = .obj fields := by
  have hnames : (fields.map named).mapM (fun f => f.1.map (·, f.2)) = some (fields.map id) :=
    mapM_map fun f _ => rfl
  rw [ofFields, hnames, List.map_id]

/-- A name behind its opening quote, before the text of its value. -/
def nameText (name : String) (cs : List Char) : List Char :=
  name.toList.flatMap writeChar ++ '"' :: ':' :: cs

/-- What follows the first field of an object. -/
def moreFields (fields : List (String × Json)) (rest : List Char) : List Char :=
  fields.flatMap (fun f => ',' :: (writeString f.1 ++ ':' :: f.2.write)) ++ '\x7d' :: rest

theorem moreFields_cons (f : String × Json) (fields : List (String × Json)) (rest : List Char) :
    moreFields (f :: fields) rest =
      ',' :: '"' :: nameText f.1 (f.2.write ++ moreFields fields rest) := by
  simp [moreFields, nameText, writeString]

theorem closes_moreFields (fields : List (String × Json)) (rest : List Char) :
    Closes (moreFields fields rest) := by
  cases fields with
  | nil => exact .brace rest
  | cons f fields => exact .comma _

theorem writeFields_cons (f : String × Json) (fields : List (String × Json)) (rest : List Char) :
    writeFields (f :: fields) ++ '\x7d' :: rest =
      '"' :: nameText f.1 (f.2.write ++ moreFields fields rest) := by
  induction fields generalizing f with
  | nil => simp [writeFields, writeString, nameText, moreFields]
  | cons g fields ih =>
    rw [writeFields, List.append_assoc, List.cons_append, List.append_assoc, List.cons_append,
      ih g, moreFields_cons]
    · simp [writeString, nameText]
    · exact List.cons_ne_nil g fields

/-- Behind the last field the object ends. -/
theorem readFields_end {fuel depth : Nat} {first : Bool} {cs : List Char} :
    readFields (fuel + 1) depth .passed first ('\x7d' :: cs) = .ok ([], cs) := by
  rw [readFields, skipBlanks_cons rfl]
  rfl

/-- A field is read, and then those behind it. -/
theorem readField_field {fuel depth : Nat} {f : String × Json} {fields : List (String × Json)}
    {rest : List Char} (hj : f.2.Reread)
    (hfuel : 2 * (f.2.write ++ moreFields fields rest).length + 2 ≤ fuel)
    (hmore : readFields fuel depth .passed false (moreFields fields rest) =
      .ok (fields.map named, rest)) :
    readField (fuel + 1) depth .passed (nameText f.1 (f.2.write ++ moreFields fields rest)) =
      .ok ((f :: fields).map named, rest) := by
  rw [readField, nameText, show Shape.isPassed .passed = true from rfl, readString_written]
  show ((readValue fuel depth false .passed (f.2.write ++ moreFields fields rest)).bind _) = _
  rw [hj fuel depth _ (closes_moreFields fields rest) hfuel]
  show ((readFields fuel depth .passed false (moreFields fields rest)).bind _) = _
  rw [hmore]
  rfl

/-- The fields behind the first are read up to the end of the object. -/
theorem readFields_rest {fields : List (String × Json)} (h : ∀ f ∈ fields, f.2.Reread)
    {depth : Nat} {rest : List Char} {fuel : Nat}
    (hfuel : 2 * (moreFields fields rest).length + 3 ≤ fuel) :
    readFields fuel depth .passed false (moreFields fields rest) =
      .ok (fields.map named, rest) := by
  induction fields generalizing fuel with
  | nil =>
    obtain ⟨fuel, rfl⟩ := Nat.exists_eq_add_of_le' (Nat.le_of_add_left_le hfuel)
    exact readFields_end
  | cons f fields ih =>
    obtain ⟨hj, hfields⟩ := List.forall_mem_cons.mp h
    rw [moreFields_cons] at hfuel ⊢
    simp only [nameText, List.length_cons, List.length_append] at hfuel
    obtain ⟨fuel, rfl⟩ : ∃ n, fuel = n + 2 := Nat.exists_eq_add_of_le' (by omega)
    have hmore : readFields fuel depth .passed false (moreFields fields rest) =
        .ok (fields.map named, rest) := ih hfields (by omega)
    rw [readFields, skipBlanks_cons rfl]
    exact readField_field hj (by rw [List.length_append]; omega) hmore

/-- All fields of an object are read. -/
theorem readFields_written {fields : List (String × Json)} (h : ∀ f ∈ fields, f.2.Reread)
    (depth : Nat) {rest : List Char} {fuel : Nat}
    (hfuel : 2 * (writeFields fields ++ '\x7d' :: rest).length + 3 ≤ fuel) :
    readFields fuel depth .passed true (writeFields fields ++ '\x7d' :: rest) =
      .ok (fields.map named, rest) := by
  cases fields with
  | nil =>
    obtain ⟨fuel, rfl⟩ := Nat.exists_eq_add_of_le' (Nat.le_of_add_left_le hfuel)
    exact readFields_end
  | cons f fields =>
    obtain ⟨hj, hfields⟩ := List.forall_mem_cons.mp h
    rw [writeFields_cons] at hfuel ⊢
    simp only [nameText, List.length_cons, List.length_append] at hfuel
    obtain ⟨fuel, rfl⟩ : ∃ n, fuel = n + 2 := Nat.exists_eq_add_of_le' (by omega)
    have hmore : readFields fuel depth .passed false (moreFields fields rest) =
        .ok (fields.map named, rest) := readFields_rest hfields (by omega)
    rw [readFields, skipBlanks_cons rfl]
    exact readField_field hj (by rw [List.length_append]; omega) hmore

/-! ### Whole texts -/

/-- A value that is neither a list nor an object is read back if its characters are. -/
theorem reread_of_scalar {j : Json} {c : Char} {cs : List Char} (hwrite : j.write = c :: cs)
    (hc : Begins c) (hlist : c ≠ '[') (hobject : c ≠ '\x7b')
    (h : ∀ {rest}, Closes rest → readScalar true (c :: (cs ++ rest)) = .ok (j, rest)) :
    j.Reread := by
  intro fuel depth rest hrest hfuel
  obtain ⟨fuel, rfl⟩ : ∃ n, fuel = n + 1 := Nat.exists_eq_add_of_le' (by omega)
  rw [hwrite, List.cons_append]
  exact readValue_scalar hc hlist hobject (h hrest)

/-- Induction on the value: its parts are read back before what follows them in it. -/
theorem Exact.reread {j : Json} (h : j.Exact) : j.Reread := by
  induction h with
  | null => exact reread_of_scalar rfl (by decide) (by decide) (by decide) fun _ => rfl
  | bool b =>
    cases b with
    | false => exact reread_of_scalar rfl (by decide) (by decide) (by decide) fun _ => rfl
    | true => exact reread_of_scalar rfl (by decide) (by decide) (by decide) fun _ => rfl
  | int i =>
    obtain ⟨c, cs, hcons, hc⟩ := toString_head i
    have hwrite : (Json.int i).write = c :: cs := hcons
    refine reread_of_scalar hwrite ?_ ?_ ?_ fun hrest => ?_
    · obtain rfl | hdigit := hc
      · decide
      · exact begins_of_isDigit hdigit
    · rintro rfl
      simp at hc
    · rintro rfl
      simp at hc
    · have hread := readScalar_int i hrest
      rwa [hcons, List.cons_append] at hread
  | str s =>
    have hwrite : (Json.str s).write = '"' :: (s.toList.flatMap writeChar ++ ['"']) := rfl
    refine reread_of_scalar hwrite (by decide) (by decide) (by decide) fun {rest} _ => ?_
    rw [List.append_assoc, List.singleton_append, readScalar, readString_written]
    rfl
  | @arr items h ih =>
    intro fuel depth rest _ hfuel
    have htext : (Json.arr items).write ++ rest = '[' :: (writeItems items ++ ']' :: rest) :=
      congrArg ('[' :: ·) (List.append_assoc _ _ _)
    rw [htext, List.length_cons] at hfuel
    obtain ⟨fuel, rfl⟩ : ∃ n, fuel = n + 1 := Nat.exists_eq_add_of_le' (by omega)
    have hitems := readItems_written (fun j hj => ⟨h j hj, ih j hj⟩) (depth - 1)
      (by omega : 2 * (writeItems items ++ ']' :: rest).length + 3 ≤ fuel)
    rw [htext, readValue_list, hitems]
    rfl
  | @obj fields h ih =>
    intro fuel depth rest _ hfuel
    have htext : (Json.obj fields).write ++ rest =
        '\x7b' :: (writeFields fields ++ '\x7d' :: rest) :=
      congrArg ('\x7b' :: ·) (List.append_assoc _ _ _)
    rw [htext, List.length_cons] at hfuel
    obtain ⟨fuel, rfl⟩ : ∃ n, fuel = n + 1 := Nat.exists_eq_add_of_le' (by omega)
    have hfields := readFields_written ih (depth - 1)
      (by omega : 2 * (writeFields fields ++ '\x7d' :: rest).length + 3 ≤ fuel)
    rw [htext, readValue_object, hfields]
    exact congrArg (fun j => Except.ok (j, rest)) (ofFields_named fields)

/-- The compact text of a value is read as that value. -/
theorem parse_compact {j : Json} (h : j.Exact) : parse j.compact = .ok j := by
  have hread : readValue (2 * j.write.length + 2) depthLimit false .passed (j.write ++ []) =
      .ok (j, []) := h.reread _ _ _ .atEnd (Nat.le_of_eq (by rw [List.append_nil]))
  rw [List.append_nil] at hread
  rw [parse, parseAs, compact, String.toList_ofList]
  simp only [hread]
  rfl

end ServiceTunnel.Json
