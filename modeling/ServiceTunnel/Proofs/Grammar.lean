import Mathlib.Data.List.TakeWhile
import ServiceTunnel.Quantity

/-!
# ServiceTunnel.Proofs.Grammar

**Which texts are quantities.** `Quantity.Written` is the grammar: a sign, a decimal number and a
suffix, each with few rules. The check accepts exactly its texts (`check_eq_ok_iff`). Where the
number ends needs no choice: a digit or a point belongs to it, and no suffix begins with either
(`Suffix.head`). Trimming is said apart from its definition, as the text between blanks that neither
begins nor ends with one (`Text.Trims`).
-/

namespace ServiceTunnel

/-! ### Between blanks -/

namespace Text

/-- The text `t` is what is left of `raw` when the characters of `p` are taken off both ends. -/
structure Trims (p : Char → Bool) (raw t : List Char) : Prop where
  split : ∃ before after, raw = before ++ t ++ after ∧
    (∀ c ∈ before, p c = true) ∧ ∀ c ∈ after, p c = true
  first : ∀ c, t.head? = some c → p c = false
  last : ∀ c, t.getLast? = some c → p c = false

variable {p : Char → Bool}

theorem head?_dropWhile {cs : List Char} {c : Char} (h : (cs.dropWhile p).head? = some c) :
    p c = false := by
  have hstops := List.head?_dropWhile_not p cs
  rw [h] at hstops
  simpa using hstops

/-- What is taken off at the end follows what is left. -/
theorem stripBoth_append (p : Char → Bool) (cs : List Char) :
    stripBoth p cs ++ ((cs.dropWhile p).reverse.takeWhile p).reverse = cs.dropWhile p := by
  rw [stripBoth, ← List.reverse_append, List.takeWhile_append_dropWhile, List.reverse_reverse]

theorem trims_stripBoth (p : Char → Bool) (cs : List Char) : Trims p cs (stripBoth p cs) where
  split := by
    refine ⟨cs.takeWhile p, ((cs.dropWhile p).reverse.takeWhile p).reverse, ?_,
      fun c hc => List.mem_takeWhile_imp hc,
      fun c hc => List.mem_takeWhile_imp (List.mem_reverse.mp hc)⟩
    rw [List.append_assoc, stripBoth_append, List.takeWhile_append_dropWhile]
  first c hc := by
    have hfirst : (cs.dropWhile p).head? = some c := by
      rw [← stripBoth_append, List.head?_append, hc, Option.some_or]
    exact head?_dropWhile hfirst
  last c hc := by
    rw [stripBoth, List.getLast?_reverse] at hc
    exact head?_dropWhile hc

theorem dropWhile_of_head? {cs : List Char} (h : ∀ c, cs.head? = some c → p c = false) :
    cs.dropWhile p = cs := by
  cases cs with
  | nil => rfl
  | cons c rest => exact List.dropWhile_cons_of_neg (Bool.eq_false_iff.mp (h c rfl))

/-- Nothing is left to be taken off. -/
theorem Trims.stripBoth_self {raw t : List Char} (h : Trims p raw t) : stripBoth p t = t := by
  rw [stripBoth, dropWhile_of_head? h.first, dropWhile_of_head?, List.reverse_reverse]
  intro c hc
  rw [List.head?_reverse] at hc
  exact h.last c hc

theorem trim_trim (s : String) : trim (trim s) = trim s := by
  rw [trim, trim, String.toList_ofList, (trims_stripBoth isBlank s.toList).stripBoth_self]

end Text

namespace Quantity

/-! ### The grammar -/

/-- A text of decimal digits. -/
def Digits (cs : List Char) : Prop := ∀ c ∈ cs, c.isDigit = true

/-- A sign, or none. -/
inductive Sign : List Char → Prop
  | absent : Sign []
  | plus : Sign ['+']
  | minus : Sign ['-']

/-- A decimal number: digits, perhaps with a point and more digits behind them, or a point and
digits. -/
inductive Decimal : List Char → Prop
  | whole {ds : List Char} (hds : Digits ds) (hsome : ds ≠ []) : Decimal ds
  | pointed {ds fs : List Char} (hds : Digits ds) (hsome : ds ≠ []) (hfs : Digits fs) :
    Decimal (ds ++ '.' :: fs)
  | fraction {fs : List Char} (hfs : Digits fs) (hsome : fs ≠ []) : Decimal ('.' :: fs)

/-- The suffixes that are names. -/
def names : List String :=
  ["n", "u", "m", "k", "M", "G", "T", "P", "E", "Ki", "Mi", "Gi", "Ti", "Pi", "Ei"]

/-- A name of a power of two or ten, a decimal exponent, or nothing. -/
inductive Suffix : List Char → Prop
  | absent : Suffix []
  | named {name : String} (hname : name ∈ names) : Suffix name.toList
  | exponent {e : Char} {sign ds : List Char} (he : e = 'e' ∨ e = 'E') (hsign : Sign sign)
    (hds : Digits ds) (hsome : ds ≠ []) : Suffix (e :: (sign ++ ds))

/-- A quantity as it is written. -/
inductive Written : List Char → Prop
  | mk {sign number suffix : List Char} (hsign : Sign sign) (hnumber : Decimal number)
    (hsuffix : Suffix suffix) : Written (sign ++ number ++ suffix)

/-! ### Signs -/

/-- The text without a sign stands behind a sign. -/
theorem exists_sign (cs : List Char) : ∃ sign, Sign sign ∧ cs = sign ++ dropSign cs := by
  unfold dropSign
  split
  · exact ⟨['+'], .plus, rfl⟩
  · exact ⟨['-'], .minus, rfl⟩
  · exact ⟨[], .absent, rfl⟩

/-- A sign is dropped before a text that begins with none. -/
theorem dropSign_append {sign cs : List Char} (hsign : Sign sign)
    (hcs : ∀ c, cs.head? = some c → c ≠ '+' ∧ c ≠ '-') : dropSign (sign ++ cs) = cs := by
  cases hsign with
  | absent =>
      rw [List.nil_append]
      unfold dropSign
      split
      · exact absurd rfl (hcs '+' rfl).1
      · exact absurd rfl (hcs '-' rfl).2
      · rfl
  | plus => rfl
  | minus => rfl

theorem ne_sign_of_isNumberChar {c : Char} (h : isNumberChar c = true) : c ≠ '+' ∧ c ≠ '-' := by
  constructor
  · rintro rfl
    exact absurd h (by decide)
  · rintro rfl
    exact absurd h (by decide)

/-! ### Numbers -/

theorem Digits.isNumberChar {ds : List Char} (h : Digits ds) :
    ∀ c ∈ ds, isNumberChar c = true := by
  intro c hc
  rw [Quantity.isNumberChar, h c hc, Bool.true_or]

theorem Digits.not_mem_point {ds : List Char} (h : Digits ds) : '.' ∉ ds := fun hpoint =>
  absurd (h '.' hpoint) (by decide)

theorem Digits.any_isDigit {ds : List Char} (h : Digits ds) (hsome : ds ≠ []) :
    ds.any Char.isDigit = true := by
  obtain ⟨d, hd⟩ := List.exists_mem_of_ne_nil ds hsome
  exact List.any_eq_true.mpr ⟨d, hd, h d hd⟩

theorem digits_of_isNumberChar {cs : List Char} (hcs : ∀ c ∈ cs, isNumberChar c = true)
    (hpoint : '.' ∉ cs) : Digits cs := by
  intro c hc
  rcases Bool.or_eq_true_iff.mp (hcs c hc) with hdigit | hdot
  · exact hdigit
  · exact absurd (eq_of_beq hdot ▸ hc) hpoint

/-- A decimal number has at least one digit and at most one point, and nothing else. -/
theorem decimal_iff {cs : List Char} : Decimal cs ↔
    (∀ c ∈ cs, isNumberChar c = true) ∧ cs.count '.' ≤ 1 ∧ cs.any Char.isDigit = true := by
  constructor
  · intro h
    cases h with
    | whole hds hsome =>
        refine ⟨hds.isNumberChar, ?_, hds.any_isDigit hsome⟩
        rw [List.count_eq_zero_of_not_mem hds.not_mem_point]
        exact Nat.zero_le 1
    | pointed hds hsome hfs =>
        refine ⟨?_, ?_, ?_⟩
        · intro c hc
          rcases List.mem_append.mp hc with hc | hc
          · exact hds.isNumberChar c hc
          · rcases List.mem_cons.mp hc with rfl | hc
            · rfl
            · exact hfs.isNumberChar c hc
        · simp [List.count_eq_zero_of_not_mem hds.not_mem_point,
            List.count_eq_zero_of_not_mem hfs.not_mem_point]
        · rw [List.any_append, hds.any_isDigit hsome, Bool.true_or]
    | fraction hfs hsome =>
        refine ⟨List.forall_mem_cons.mpr ⟨rfl, hfs.isNumberChar⟩, ?_, ?_⟩
        · simp [List.count_eq_zero_of_not_mem hfs.not_mem_point]
        · rw [List.any_cons, hfs.any_isDigit hsome, Bool.or_true]
  · rintro ⟨hcs, hcount, hany⟩
    by_cases hpoint : '.' ∈ cs
    · -- the first point is the only one
      obtain ⟨ds, fs, rfl, hnone⟩ := List.eq_append_cons_of_mem hpoint
      rw [List.count_append, List.count_cons_self, List.count_eq_zero_of_not_mem hnone] at hcount
      have hds : Digits ds :=
        digits_of_isNumberChar (fun c hc => hcs c (List.mem_append_left _ hc)) hnone
      have hfs : Digits fs := by
        refine digits_of_isNumberChar (fun c hc => ?_) (List.count_eq_zero.mp (by omega))
        exact hcs c (List.mem_append_right _ (List.mem_cons_of_mem _ hc))
      by_cases hsome : ds = []
      · subst hsome
        refine .fraction hfs ?_
        rintro rfl
        cases hany
      · exact .pointed hds hsome hfs
    · refine .whole (digits_of_isNumberChar hcs hpoint) ?_
      rintro rfl
      cases hany

/-! ### Suffixes -/

theorem isSuffix_iff {cs : List Char} : isSuffix cs = true ↔ Suffix cs := by
  constructor
  · intro h
    rcases Bool.or_eq_true_iff.mp h with hname | hexponent
    · have hnamed : ∀ cs ∈ suffixes, cs = [] ∨ ∃ name ∈ names, name.toList = cs := by decide
      rcases hnamed cs (List.contains_iff_mem.mp hname) with rfl | ⟨name, hmem, rfl⟩
      · exact .absent
      · exact .named hmem
    · cases cs with
      | nil => cases hexponent
      | cons e cs =>
          simp only [isExponent, Bool.and_eq_true, Bool.or_eq_true, beq_iff_eq,
            Bool.not_eq_true', List.isEmpty_eq_false_iff, List.all_eq_true] at hexponent
          obtain ⟨⟨he, hsome⟩, hds⟩ := hexponent
          obtain ⟨sign, hsign, hcs⟩ := exists_sign cs
          rw [hcs]
          exact .exponent he hsign hds hsome
  · intro h
    cases h with
    | absent => decide
    | named hname =>
        have hall : ∀ name ∈ names, isSuffix name.toList = true := by decide
        exact hall _ hname
    | @exponent e sign ds he hsign hds hsome =>
        have hdrop : dropSign (sign ++ ds) = ds := dropSign_append hsign fun c hc =>
          ne_sign_of_isNumberChar (hds.isNumberChar c (List.mem_of_mem_head? hc))
        refine Bool.or_eq_true_iff.mpr (Or.inr ?_)
        simp only [isExponent, hdrop, Bool.and_eq_true, Bool.or_eq_true, beq_iff_eq,
          Bool.not_eq_true', List.isEmpty_eq_false_iff, List.all_eq_true]
        exact ⟨⟨he, hsome⟩, hds⟩

/-- No suffix begins like a number. -/
theorem Suffix.head {cs : List Char} (h : Suffix cs) {c : Char} (hc : cs.head? = some c) :
    isNumberChar c = false := by
  cases h with
  | absent => cases hc
  | named hname =>
      have hall : ∀ name ∈ names, name.toList.head?.any isNumberChar = false := by decide
      have hhead := hall _ hname
      rwa [hc, Option.any_some] at hhead
  | exponent he =>
      obtain rfl := Option.some.inj hc
      rcases he with rfl | rfl <;> decide

/-! ### Quantities -/

/-- A text is accepted if what follows its sign is a number with a suffix. -/
theorem check_eq_ok {cs : List Char} : check cs = .ok () ↔
    Decimal ((dropSign cs).takeWhile isNumberChar) ∧
      Suffix ((dropSign cs).dropWhile isNumberChar) := by
  have hchars : ∀ c ∈ (dropSign cs).takeWhile isNumberChar, isNumberChar c = true :=
    fun c hc => List.mem_takeWhile_imp hc
  rw [decimal_iff, ← isSuffix_iff, and_iff_right hchars, check]
  cases cs with
  | nil => decide
  | cons c cs =>
      rw [List.isEmpty_cons, if_neg (by decide)]
      dsimp only
      split
      · rename_i hpoints
        simp [Nat.not_le.mpr hpoints]
      rename_i hpoints
      split
      · rename_i hnone
        rw [Bool.not_eq_true'] at hnone
        simp [hnone]
      rename_i hsome
      split
      · rename_i hunknown
        rw [Bool.not_eq_true'] at hunknown
        simp [hunknown]
      rename_i hknown
      rw [Bool.not_eq_true', Bool.not_eq_false] at hsome hknown
      simp [Nat.not_lt.mp hpoints, hsome, hknown]

theorem Decimal.head {cs : List Char} (h : Decimal cs) :
    ∃ c rest, cs = c :: rest ∧ isNumberChar c = true := by
  obtain ⟨hcs, -, hany⟩ := decimal_iff.mp h
  cases cs with
  | nil => cases hany
  | cons c rest => exact ⟨c, rest, rfl, hcs c List.mem_cons_self⟩

/-- The number reaches up to the suffix. -/
theorem takeWhile_number {number suffix : List Char} (hnumber : Decimal number)
    (hsuffix : Suffix suffix) :
    (number ++ suffix).takeWhile isNumberChar = number ∧
      (number ++ suffix).dropWhile isNumberChar = suffix := by
  have hchars := (decimal_iff.mp hnumber).1
  rw [List.takeWhile_append_of_pos hchars, List.dropWhile_append_of_pos hchars]
  refine ⟨?_, Text.dropWhile_of_head? fun c hc => hsuffix.head hc⟩
  cases suffix with
  | nil => exact List.append_nil number
  | cons c rest =>
      rw [List.takeWhile_cons_of_neg (Bool.eq_false_iff.mp (hsuffix.head rfl)), List.append_nil]

/-- The check accepts the texts of the grammar. -/
theorem check_eq_ok_iff {cs : List Char} : check cs = .ok () ↔ Written cs := by
  rw [check_eq_ok]
  constructor
  · rintro ⟨hnumber, hsuffix⟩
    obtain ⟨sign, hsign, hcs⟩ := exists_sign cs
    have hwritten := Written.mk hsign hnumber hsuffix
    rwa [List.append_assoc, List.takeWhile_append_dropWhile, ← hcs] at hwritten
  · intro h
    cases h with
    | @mk sign number suffix hsign hnumber hsuffix =>
        have hdrop : dropSign (sign ++ (number ++ suffix)) = number ++ suffix := by
          refine dropSign_append hsign fun c hc => ?_
          obtain ⟨d, rest, rfl, hd⟩ := hnumber.head
          obtain rfl := Option.some.inj hc
          exact ne_sign_of_isNumberChar hd
        obtain ⟨htake, hrest⟩ := takeWhile_number hnumber hsuffix
        rw [List.append_assoc, hdrop, htake, hrest]
        exact ⟨hnumber, hsuffix⟩

theorem parse_eq_ok_iff {raw : String} {q : Quantity} : parse raw = .ok q ↔
    q.text = Text.trim raw ∧ Written (Text.trim raw).toList := by
  rw [parse, ← check_eq_ok_iff]
  cases check (Text.trim raw).toList with
  | ok u =>
      cases q
      simp [Except.map, eq_comm]
  | error e => simp [Except.map]

/-- **A text is a quantity exactly if it is written as the grammar says, between blanks.** What is
read is the text without the blanks, and reading that again gives the same. -/
theorem parse_accepts (raw : String) :
    Text.Trims Text.isBlank raw.toList (Text.trim raw).toList ∧
      ((∃ q, parse raw = .ok q) ↔ Written (Text.trim raw).toList) ∧
      ∀ q, parse raw = .ok q → q.text = Text.trim raw ∧ parse q.text = .ok q := by
  refine ⟨?_, ?_, ?_⟩
  · rw [Text.trim, String.toList_ofList]
    exact Text.trims_stripBoth Text.isBlank raw.toList
  · simp only [parse_eq_ok_iff]
    exact ⟨fun ⟨_, _, h⟩ => h, fun h => ⟨⟨Text.trim raw⟩, rfl, h⟩⟩
  · intro q hq
    obtain ⟨htext, hwritten⟩ := parse_eq_ok_iff.mp hq
    refine ⟨htext, parse_eq_ok_iff.mpr ?_⟩
    rw [htext, Text.trim_trim]
    exact ⟨rfl, hwritten⟩

/-- An `E` at the end is a suffix, and before digits it is the mark of an exponent. -/
example : parse " 1.5E " = .ok ⟨"1.5E"⟩ ∧ parse "+.5E-2" = .ok ⟨"+.5E-2"⟩ ∧
    parse "1E+" = .error (.unknownSuffix "E+") ∧ parse "-1.2.3" = .error .manyPoints := by
  decide +kernel

end Quantity

end ServiceTunnel
