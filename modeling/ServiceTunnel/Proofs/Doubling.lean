import Mathlib.Algebra.Group.Nat.Defs
import Mathlib.Data.List.Induction
import ServiceTunnel.Backoff
import ServiceTunnel.Proofs.Lookup

/-!
# ServiceTunnel.Proofs.Doubling

**Every failure in a row doubles the delay, up to the limit.** The delay after a failure depends on
how often its key has failed since it was last reset, and on nothing else (`doubles`). There are
three bounds that could get in the way: the count of failures stays at its greatest value, no more
than 16 doublings are made, and a product may be no duration. None of them shows if the limit is at
most 2^16 times the first delay, because the delay has reached the limit wherever a bound applies
(`total_delay`).
-/

namespace ServiceTunnel

namespace Duration

theorem total_lt (d : Duration) : d.total < horizon := by
  have hseconds := d.seconds.toNat_lt_size
  have hnanoseconds := d.nanoseconds.isLt
  unfold total horizon
  omega

theorem total_of_ofTotal? {n : Nat} {d : Duration} (h : ofTotal? n = some d) : d.total = n := by
  unfold ofTotal? at h
  split at h
  · rename_i hlt
    obtain rfl := Option.some.inj h
    have hseconds : n / 1000000000 < UInt64.size := by
      unfold horizon at hlt
      omega
    have hword : (UInt64.ofNat (n / 1000000000)).toNat = n / 1000000000 :=
      UInt64.toNat_ofNat_of_lt hseconds
    have hpart : (Fin.ofNat 1000000000 n : Nat) = n % 1000000000 := Fin.val_ofNat _ _
    rw [total, hword, hpart]
    omega
  · cases h

theorem ofTotal?_eq_none {n : Nat} : ofTotal? n = none ↔ horizon ≤ n := by
  unfold ofTotal?
  split
  · rename_i hlt
    exact iff_of_false nofun (Nat.not_le.mpr hlt)
  · rename_i hlt
    exact iff_of_true rfl (Nat.not_lt.mp hlt)

theorem total_min (a b : Duration) : (min a b).total = min a.total b.total := by
  have hmin : min a b = if a.total ≤ b.total then a else b := rfl
  rw [hmin, Nat.min_def, apply_ite total]

end Duration

namespace Backoff

/-! ### The delay for a count -/

theorem toNat_doublings (count : UInt32) : (doublings count).toNat = min count.toNat 16 := by
  have hmin : doublings count = if count ≤ 16 then count else 16 := rfl
  have hle : count ≤ 16 ↔ count.toNat ≤ 16 := UInt32.le_iff_toNat_le
  rw [hmin, apply_ite UInt32.toNat, if_congr hle rfl rfl, Nat.min_def]
  rfl

/-- A word has room for the factor. -/
theorem toNat_factor (count : UInt32) :
    ((1 : UInt32) <<< doublings count).toNat = 2 ^ min count.toNat 16 := by
  have hroom : min count.toNat 16 ≤ 16 := Nat.min_le_right _ _
  have hpow : 2 ^ min count.toNat 16 ≤ 2 ^ 16 := Nat.pow_le_pow_right (by decide) hroom
  rw [UInt32.toNat_shiftLeft, toNat_doublings, UInt32.toNat_one, Nat.one_shiftLeft,
    Nat.mod_eq_of_lt (a := min count.toNat 16) (by omega), Nat.mod_eq_of_lt (by omega)]

theorem toNat_countOn (count : UInt32) :
    (countOn count).toNat = min (count.toNat + 1) (UInt32.size - 1) := by
  have hsize : UInt32.size = 4294967296 := rfl
  have hlt : count.toNat < UInt32.size := count.toNat_lt_size
  have hsum : (count + 1).toNat = (count.toNat + 1) % 4294967296 := UInt32.toNat_add _ _
  have hzero : count + 1 = 0 ↔ (count + 1).toNat = 0 := UInt32.toNat_inj.symm
  rw [hsize] at hlt ⊢
  unfold countOn
  split
  · -- the greatest count stays
    rename_i h
    rw [hzero] at h
    omega
  · rename_i h
    rw [hzero] at h
    omega

/-- A product that has reached the limit may as well be doubled no more. -/
theorem min_doubled {first limit n : Nat} (h : limit ≤ 65536 * first) :
    min (first * 2 ^ min n 16) limit = min (first * 2 ^ n) limit := by
  obtain hfew | hmany := Nat.le_total n 16
  · rw [Nat.min_eq_left hfew]
  · have hgrows : first * 2 ^ 16 ≤ first * 2 ^ n :=
      Nat.mul_le_mul_left _ (Nat.pow_le_pow_right (by decide) hmany)
    rw [Nat.min_eq_right hmany, Nat.min_eq_right (by omega), Nat.min_eq_right (by omega)]

/-- **The delay after `n` failures in a row is the first, doubled `n` times, or the limit.** -/
theorem total_delay {b : Backoff} (h : b.limit.total ≤ 65536 * b.base.total) {n : Nat}
    {count : UInt32} (hcount : count.toNat = min n (UInt32.size - 1)) :
    (b.delay count).total = min (b.base.total * 2 ^ n) b.limit.total := by
  have hsize : UInt32.size = 4294967296 := rfl
  have hdoublings : min count.toNat 16 = min n 16 := by omega
  rw [delay, Duration.times?, toNat_factor, hdoublings, ← min_doubled h]
  cases hformed : Duration.ofTotal? (b.base.total * 2 ^ min n 16) with
  | some d =>
      rw [Option.elim_some, Duration.total_min, Duration.total_of_ofTotal? hformed]
  | none =>
      have hover := Duration.ofTotal?_eq_none.mp hformed
      rw [Option.elim_none, Nat.min_eq_right (Nat.le_trans (Nat.le_of_lt b.limit.total_lt) hover)]

/-! ### Histories -/

/-- What may happen to a key. -/
inductive Event where
  /-- It fails. -/
  | failed (key : String)
  /-- A pass over it fails with an error. -/
  | refused (key : String) (error : OperatorError)
  /-- It succeeds. -/
  | reset (key : String)

namespace Event

/-- The key to which it happens. -/
def key : Event → String
  | .failed key | .refused key _ | .reset key => key

/-- Whether the key succeeds. -/
def isReset : Event → Bool
  | .reset _ => true
  | _ => false

end Event

/-- Takes an event in, and gives the delay if it is a failure. -/
def step (b : Backoff) : Event → Backoff × Option Duration
  | .failed key =>
    let (b, delay) := b.fail key
    (b, some delay)
  | .refused key error =>
    match b.retry key error with
    | (b, .after delay) => (b, some delay)
    | (b, .awaitChange) => (b, none)
  | .reset key => (b.reset key, none)

/-- The delays that are given while events happen one after another. -/
def play (b : Backoff) : List Event → List (Option Duration)
  | [] => []
  | e :: rest => (b.step e).2 :: (b.step e).1.play rest

/-- What is known after events. -/
def after (b : Backoff) (history : List Event) : Backoff :=
  history.foldl (fun b e => (b.step e).1) b

/-- How often a key has failed since it was last reset. -/
def streak (key : String) (history : List Event) : Nat :=
  ((history.filter (·.key = key)).reverse.takeWhile (!·.isReset)).length

theorem streak_snoc (key : String) (history : List Event) (e : Event) :
    streak key (history ++ [e]) =
      if e.key = key then if e.isReset then 0 else streak key history + 1
      else streak key history := by
  unfold streak
  rw [List.filter_append, List.reverse_append]
  by_cases hkey : e.key = key
  · cases hreset : e.isReset <;> simp [hkey, hreset]
  · simp [hkey]

/-- Failures without a reset in between add up. -/
theorem streak_append {key : String} {history more : List Event}
    (h : ∀ e ∈ more, e.key = key → e.isReset = false) :
    streak key (history ++ more) = streak key history + (more.filter (·.key = key)).length := by
  have hall : ∀ e ∈ (more.filter (·.key = key)).reverse, (!e.isReset) = true := by
    intro e he
    rw [List.mem_reverse, List.mem_filter, decide_eq_true_eq] at he
    rw [h e he.1 he.2]
    rfl
  unfold streak
  rw [List.filter_append, List.reverse_append, List.takeWhile_append_of_pos hall,
    List.length_append, List.length_reverse, Nat.add_comm]

/-- What happens to other keys does not count. -/
theorem streak_filter (key : String) (history : List Event) :
    streak key (history.filter (·.key = key)) = streak key history := by
  unfold streak
  rw [List.filter_filter]
  simp only [Bool.and_self]

/-! ### One event -/

theorem step_of_not_isReset (b : Backoff) {e : Event} (h : e.isReset = false) :
    b.step e = ((b.fail e.key).1, some (b.fail e.key).2) := by
  cases e with
  | failed key => rfl
  | refused key error => rfl
  | reset key => cases h

theorem step_of_isReset (b : Backoff) {e : Event} (h : e.isReset = true) :
    b.step e = (b.reset e.key, none) := by
  cases e with
  | failed key => cases h
  | refused key error => cases h
  | reset key => rfl

theorem count_step (b : Backoff) (e : Event) (key : String) :
    (b.step e).1.count key =
      if e.key = key then if e.isReset then 0 else countOn (b.count key) else b.count key := by
  cases hreset : e.isReset with
  | true =>
      rw [step_of_isReset b hreset]
      by_cases hkey : e.key = key
      · simp [reset, count, hkey]
      · simp [reset, count, hkey, Dict.get?_erase_ne _ (Ne.symm hkey)]
  | false =>
      rw [step_of_not_isReset b hreset]
      by_cases hkey : e.key = key
      · simp [fail, count, hkey]
      · simp [fail, count, hkey, Dict.get?_insert_ne _ (Ne.symm hkey)]

theorem limits_step (b : Backoff) (e : Event) :
    (b.step e).1.base = b.base ∧ (b.step e).1.limit = b.limit := by
  cases e <;> exact ⟨rfl, rfl⟩

/-! ### Many events -/

theorem after_snoc (b : Backoff) (history : List Event) (e : Event) :
    b.after (history ++ [e]) = ((b.after history).step e).1 :=
  List.foldl_append

theorem limits_after (b : Backoff) (history : List Event) :
    (b.after history).base = b.base ∧ (b.after history).limit = b.limit := by
  induction history using List.reverseRecOn with
  | nil => exact ⟨rfl, rfl⟩
  | append_singleton history e ih =>
      obtain ⟨hbase, hlimit⟩ := (b.after history).limits_step e
      rw [after_snoc, hbase, hlimit]
      exact ih

/-- The count of a key is the number of its failures in a row, as far as the word goes. -/
theorem toNat_count_after {b : Backoff} (hnew : b.failures = ∅) (history : List Event)
    (key : String) :
    ((b.after history).count key).toNat = min (streak key history) (UInt32.size - 1) := by
  induction history using List.reverseRecOn with
  | nil =>
      rw [after, List.foldl_nil, count, hnew]
      rfl
  | append_singleton history e ih =>
      rw [after_snoc, count_step, streak_snoc]
      split
      · split
        · rfl
        · rw [toNat_countOn, ih]
          omega
      · exact ih

theorem getElem?_play (b : Backoff) {history : List Event} {i : Nat} {e : Event}
    (h : history[i]? = some e) :
    (b.play history)[i]? = some ((b.after (history.take i)).step e).2 := by
  induction history generalizing b i with
  | nil => cases h
  | cons first rest ih =>
      cases i with
      | zero =>
          obtain rfl := Option.some.inj h
          rfl
      | succ i => exact ih (b.step first).1 h

/-! ### The law of doubling -/

/-- What the delays are that a history is answered with. -/
structure Doubles (b : Backoff) (history : List Event) : Prop where
  /-- The failure after `n` others in a row is answered with the first delay doubled `n` times, or
  with the limit. -/
  delays : ∀ (i : Nat) (e : Event), history[i]? = some e → e.isReset = false →
    ∃ n d, streak e.key (history.take (i + 1)) = n + 1 ∧ (b.play history)[i]? = some (some d) ∧
      d.total = min (b.base.total * 2 ^ n) b.limit.total
  /-- What has happened to other keys makes no difference. -/
  apart : ∀ history' (i j : Nat) (e : Event), history[i]? = some e → history'[j]? = some e →
    (history.take i).filter (·.key = e.key) = (history'.take j).filter (·.key = e.key) →
    (b.play history)[i]? = (b.play history')[j]?
  rises : ∀ (i j : Nat) (e e' : Event) (d d' : Duration), i ≤ j →
    history[i]? = some e → history[j]? = some e' → e'.key = e.key →
    (∀ k (f : Event), i ≤ k → k ≤ j → history[k]? = some f → f.key = e.key → f.isReset = false) →
    (b.play history)[i]? = some (some d) → (b.play history)[j]? = some (some d') → d ≤ d'
  bounded : ∀ d, some d ∈ b.play history → d ≤ b.limit
  /-- No word is shifted by its whole width. -/
  room : ∀ (i : Nat) (key : String), (doublings ((b.after (history.take i)).count key)).toNat < 32

section Law

variable {b : Backoff} {history : List Event} {i : Nat} {e : Event}

/-- The answer to a failure. -/
theorem delay_played (hnew : b.failures = ∅) (h : b.limit.total ≤ 65536 * b.base.total)
    (hi : history[i]? = some e) (he : e.isReset = false) :
    ∃ d, (b.play history)[i]? = some (some d) ∧
      d.total = min (b.base.total * 2 ^ streak e.key (history.take i)) b.limit.total := by
  obtain ⟨hbase, hlimit⟩ := b.limits_after (history.take i)
  have hcount := toNat_count_after hnew (history.take i) e.key
  have htotal := total_delay (b := b.after (history.take i)) (by rw [hbase, hlimit]; exact h) hcount
  rw [hbase, hlimit] at htotal
  refine ⟨_, ?_, htotal⟩
  rw [getElem?_play b hi, step_of_not_isReset _ he]
  rfl

theorem isReset_of_played {d : Duration} (hi : history[i]? = some e)
    (hd : (b.play history)[i]? = some (some d)) : e.isReset = false := by
  rw [getElem?_play b hi] at hd
  cases hreset : e.isReset with
  | false => rfl
  | true =>
      rw [step_of_isReset _ hreset] at hd
      cases hd

theorem exists_of_played {answer : Option Duration} (hi : (b.play history)[i]? = some answer) :
    ∃ e, history[i]? = some e := by
  induction history generalizing b i with
  | nil => cases hi
  | cons first rest ih =>
      cases i with
      | zero => exact ⟨first, rfl⟩
      | succ i => exact ih hi

/-- A streak that is not broken off goes on. -/
theorem streak_le {key : String} {i j : Nat} (hij : i ≤ j)
    (h : ∀ k (f : Event), i ≤ k → k ≤ j → history[k]? = some f → f.key = key → f.isReset = false) :
    streak key (history.take i) ≤ streak key (history.take j) := by
  have hsplit := List.take_append_drop i (history.take j)
  rw [List.take_take, Nat.min_eq_left hij] at hsplit
  have hmore : ∀ f ∈ (history.take j).drop i, f.key = key → f.isReset = false := by
    intro f hf hkey
    obtain ⟨k, hk⟩ := List.mem_iff_getElem?.mp hf
    rw [List.getElem?_drop, List.getElem?_take] at hk
    split at hk
    · exact h (i + k) f (by omega) (by omega) hk hkey
    · cases hk
  rw [← hsplit, streak_append hmore]
  exact Nat.le_add_right _ _

/-- **Each failure in a row doubles the delay of its key, exactly, until the limit is reached.**
Let the limit be at most 2^16 times the first delay. Whatever happens to any keys, in any order, the
`n`-th failure of a key since its last success is answered with the first delay doubled `n - 1`
times, or with the limit if that is less, as if there were no bound on counts, words and durations.
So a delay does not depend on other keys, never falls until its key succeeds, and never exceeds the
limit. -/
theorem doubles (hnew : b.failures = ∅) (h : b.limit.total ≤ 65536 * b.base.total)
    (history : List Event) : Doubles b history where
  delays i e hi he := by
    obtain ⟨d, hd, htotal⟩ := delay_played hnew h hi he
    refine ⟨_, d, ?_, hd, htotal⟩
    rw [List.take_add_one, hi, Option.toList_some, streak_snoc, if_pos rfl, he]
    rfl
  apart history' i j e hi hj hsame := by
    have hstreak : streak e.key (history.take i) = streak e.key (history'.take j) := by
      rw [← streak_filter, hsame, streak_filter]
    have hcount : (b.after (history.take i)).count e.key =
        (b.after (history'.take j)).count e.key := by
      rw [← UInt32.toNat_inj, toNat_count_after hnew, toNat_count_after hnew, hstreak]
    obtain ⟨hbase, hlimit⟩ := b.limits_after (history.take i)
    obtain ⟨hbase', hlimit'⟩ := b.limits_after (history'.take j)
    rw [getElem?_play b hi, getElem?_play b hj]
    cases he : e.isReset with
    | true => rw [step_of_isReset _ he, step_of_isReset _ he]
    | false =>
        rw [step_of_not_isReset _ he, step_of_not_isReset _ he]
        simp only [fail, delay, hcount, hbase, hlimit, hbase', hlimit']
  rises i j e e' d d' hij hi hj hkey hnone hd hd' := by
    obtain ⟨x, hx, htotal⟩ := delay_played hnew h hi (isReset_of_played hi hd)
    obtain ⟨x', hx', htotal'⟩ := delay_played hnew h hj (isReset_of_played hj hd')
    obtain rfl := Option.some.inj (Option.some.inj (hd.symm.trans hx))
    obtain rfl := Option.some.inj (Option.some.inj (hd'.symm.trans hx'))
    have hgrows := Nat.mul_le_mul_left b.base.total
      (Nat.pow_le_pow_right (by decide : 0 < 2) (streak_le hij hnone))
    have hle : d.total ≤ d'.total := by
      rw [htotal, htotal', hkey]
      exact Nat.le_min.mpr ⟨Nat.le_trans (Nat.min_le_left _ _) hgrows, Nat.min_le_right _ _⟩
    exact hle
  bounded d hmem := by
    obtain ⟨i, hd⟩ := List.mem_iff_getElem?.mp hmem
    obtain ⟨e, hi⟩ := exists_of_played hd
    obtain ⟨x, hx, htotal⟩ := delay_played hnew h hi (isReset_of_played hi hd)
    obtain rfl := Option.some.inj (Option.some.inj (hd.symm.trans hx))
    have hle : d.total ≤ b.limit.total := by
      rw [htotal]
      exact Nat.min_le_right _ _
    exact hle
  room i key := by
    rw [toNat_doublings]
    omega

end Law

/-- Delays of centuries: the third product is no duration. -/
theorem doubles_centuries :
    let b : Backoff := { base := ⟨0x4000000000000000, 0⟩, limit := ⟨0xffffffffffffffff, 999999999⟩ }
    let history : List Event := [.failed "default/a", .refused "default/a" (.conflict "modified"),
      .failed "default/b", .failed "default/a", .failed "default/a", .reset "default/a",
      .refused "default/a" (.conflict "modified")]
    b.failures = ∅ ∧ b.limit.total ≤ 65536 * b.base.total ∧
      b.play history = [some ⟨0x4000000000000000, 0⟩, some ⟨0x8000000000000000, 0⟩,
        some ⟨0x4000000000000000, 0⟩, some ⟨0xffffffffffffffff, 999999999⟩,
        some ⟨0xffffffffffffffff, 999999999⟩, none, some ⟨0x4000000000000000, 0⟩] ∧
      Doubles b history :=
  ⟨rfl, by decide, by decide +kernel, doubles rfl (by decide) _⟩

/-- The default delays, in seconds. -/
example : (({} : Backoff).play (.replicate 9 (.failed "default/web"))).map (·.map (·.seconds)) =
    [5, 10, 20, 40, 80, 160, 300, 300, 300].map some := by decide +kernel

end Backoff

end ServiceTunnel
