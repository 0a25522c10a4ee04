import ServiceTunnel.Proofs.Contest
import ServiceTunnel.Proofs.Simulated

/-!
# ServiceTunnel.Proofs.HandOver

**The Lease changes hands by the rules, whoever contends for it.** What a replica has read may be
out of date when it writes; but the write names the version that was read, and no version comes
back. So a write that is carried out is made over the very Lease that its writer has read
(`Dated.current_of`), and whatever the writer has found of it still holds: that it is the holder
itself, or that the holder has not renewed in time. `Contest.writes_lawful` says this of every write
of every contest, whatever the clocks show and whichever requests fail.
-/

namespace ServiceTunnel

open Kube Simulation

namespace Kube.Lease

/-- Who holds the Lease. -/
def holder? (lease : Lease) : Option String := lease.spec.bind (·.holder)

/-- Whether a write by `me` over a Lease takes it over. -/
def takesOver (me : String) (before : Option Lease) : Bool :=
  before.any fun lease => lease.holder? != some me

end Kube.Lease

namespace Election

/-! ### What replicas write -/

/-- What a replica may make of the Lease that it has read, and of none. -/
inductive Writes (me : String) (errand : Errand) (reading : Option Int) :
    Option Lease → LeaseSpec → Prop where
  | creation (now : Int) (hnow : reading = some now) (hcontends : errand.contends = true) :
    Writes me errand reading none (taken none me now)
  | renewal (lease : Lease) (now : Int) (hnow : reading = some now)
    (hclaim : claim lease.spec me now = .renew) (herrand : errand ≠ .releasing) :
    Writes me errand reading (some lease) (renewed lease.spec me now)
  | takeover (lease : Lease) (now : Int) (hnow : reading = some now)
    (hclaim : claim lease.spec me now = .takeOver) (hcontends : errand.contends = true) :
    Writes me errand reading (some lease) (taken lease.spec me now)
  | release (lease : Lease) (spec : LeaseSpec) (hspec : lease.spec = some spec)
    (hholder : spec.holder = some me) (herrand : errand = .releasing) :
    Writes me errand reading (some lease) (released spec)

/-- A write says what the writer may make of the Lease that it has read, and names its version. -/
def Permitted (me : String) (errand : Errand) (k : Known) : LeaseCall → Prop
  | .create spec => k.read = none ∧ Writes me errand k.reading none spec
  | .replace version spec => ∃ lease new, k.read = some lease ∧ lease.version = version ∧
      spec = some new ∧ Writes me errand k.reading (some lease) new
  | .now | .sleep _ | .get => True

/-- What replicas owe one another, over what each of them knows. -/
def dealings (me : String) (errand : Errand) : Contract LeaseCall.interface Known where
  permits := Permitted me errand
  yields k c r k' := k' = k.see c r

section Dealings

variable {me : String} {errand : Errand}

theorem create_keeps {k : Known} {now : Int} (hcontends : errand.contends = true)
    (hreading : k.reading = some now) (hread : k.read = none) :
    (create me now).Keeps (dealings me errand) (fun _ _ => True) k :=
  ⟨⟨hread, .creation now hreading hcontends⟩, fun _ _ _ => trivial⟩

theorem replace_keeps {k : Known} {lease : Lease} {spec : LeaseSpec} (hread : k.read = some lease)
    (hwrites : Writes me errand k.reading (some lease) spec) :
    (replace lease spec).Keeps (dealings me errand) (fun _ _ => True) k :=
  ⟨⟨lease, spec, hread, rfl, rfl, hwrites⟩, fun _ _ _ => trivial⟩

theorem tryAcquire_keeps (hcontends : errand.contends = true) (k : Known) :
    (tryAcquire me).Keeps (dealings me errand) (fun _ _ => True) k := by
  have herrand : errand ≠ .releasing := by
    rintro rfl
    cases hcontends
  refine ⟨trivial, fun now _ hk₁ => ⟨trivial, fun found k₂ hk₂ => ?_⟩⟩
  obtain rfl := hk₁
  obtain rfl := hk₂
  cases found with
  | error f =>
      cases f with
      | refused r =>
          by_cases hnew : r.reason = "NotFound"
          · simp only [if_pos hnew]
            exact create_keeps hcontends rfl rfl
          · simp only [if_neg hnew]
            exact trivial
      | unnamed => exact trivial
      | unsendable => exact trivial
      | unreadable why => exact trivial
  | ok lease =>
      cases hclaim : claim lease.spec me now with
      | renew =>
          simp only [hclaim]
          exact replace_keeps rfl (.renewal lease now rfl hclaim herrand)
      | takeOver =>
          simp only [hclaim]
          exact replace_keeps rfl (.takeover lease now rfl hclaim hcontends)
      | wait =>
          simp only [hclaim]
          exact trivial

theorem renew_keeps (herrand : errand ≠ .releasing) (k : Known) :
    (renew me).Keeps (dealings me errand) (fun _ _ => True) k := by
  refine ⟨trivial, fun found k₁ hk₁ => ?_⟩
  obtain rfl := hk₁
  cases found with
  | error f => exact trivial
  | ok lease =>
      refine ⟨trivial, fun now k₂ hk₂ => ?_⟩
      obtain rfl := hk₂
      by_cases hclaim : claim lease.spec me now = .renew
      · simp only [if_pos hclaim]
        exact replace_keeps rfl (.renewal lease now rfl hclaim herrand)
      · simp only [if_neg hclaim]
        exact trivial

theorem release_keeps (k : Known) :
    (release me).Keeps (dealings me .releasing) (fun _ _ => True) k := by
  refine ⟨trivial, fun found k₁ hk₁ => ?_⟩
  obtain rfl := hk₁
  cases found with
  | error f => exact trivial
  | ok lease =>
      cases hspec : lease.spec with
      | none =>
          simp only [hspec]
          exact trivial
      | some spec =>
          simp only [hspec]
          by_cases hholder : spec.holder = some me
          · simp only [if_pos hholder]
            exact ⟨⟨lease, released spec, rfl, rfl, rfl, .release lease spec hspec hholder rfl⟩,
              fun _ _ _ => trivial⟩
          · simp only [if_neg hholder]
            exact trivial

theorem acquire_keeps (hcontends : errand.contends = true) (attempts : Nat) (k : Known) :
    (acquire me attempts).Keeps (dealings me errand) (fun _ _ => True) k := by
  induction attempts generalizing k with
  | zero => exact trivial
  | succ attempts ih =>
      refine (tryAcquire_keeps hcontends k).bind fun r k' _ => ?_
      -- the next attempt looks at the clock and at the Lease anew, whatever this one has learnt
      split
      · exact trivial
      · exact ⟨trivial, fun _ k'' _ => ih k''⟩

theorem hold_keeps (herrand : errand ≠ .releasing) (renewals : Nat) (k : Known) :
    (hold me renewals).Keeps (dealings me errand) (fun _ _ => True) k := by
  induction renewals generalizing k with
  | zero => exact trivial
  | succ renewals ih =>
      refine ⟨trivial, fun _ k' _ => ?_⟩
      refine (renew_keeps herrand k').bind fun r k'' _ => ?_
      split
      · exact ih k''
      · exact trivial

/-- Whatever a replica sets out to do, it writes what it may. -/
theorem Errand.program_keeps (me : String) (errand : Errand) (k : Known) :
    (errand.program me).Keeps (dealings me errand) (fun _ _ => True) k := by
  cases errand with
  | trying => exact (tryAcquire_keeps rfl k).bind fun _ _ _ => trivial
  | renewing =>
      have hne : Errand.renewing ≠ .releasing := nofun
      exact (renew_keeps hne k).bind fun _ _ _ => trivial
  | releasing => exact (release_keeps k).bind fun () _ _ => trivial
  | acquiring attempts => exact acquire_keeps rfl attempts k
  | holding renewals =>
      have hne : Errand.holding renewals ≠ .releasing := nofun
      exact hold_keeps hne renewals k

end Dealings

/-! ### Versions do not come back -/

/-- A Lease that was read had a version that was given out; as long as it is the last one given
out, the Lease is as it was read. -/
def Dated (s : LeaseServer) (lease : Lease) : Prop :=
  ∃ n, n ≤ s.version ∧ lease.version = toString n ∧
    (n = s.version → s.lease = some lease.spec)

theorem dated_current {s : LeaseServer} {lease : Lease} (h : s.current = some lease) :
    Dated s lease := by
  unfold LeaseServer.current at h
  obtain ⟨spec, hspec, rfl⟩ := Option.map_eq_some_iff.mp h
  exact ⟨s.version, Nat.le_refl _, rfl, fun _ => hspec⟩

namespace Dated

variable {s : LeaseServer} {lease : Lease}

theorem store (h : Dated s lease) (spec : Option LeaseSpec) : Dated (s.store spec) lease := by
  obtain ⟨n, hle, hversion, -⟩ := h
  refine ⟨n, Nat.le_succ_of_le hle, hversion, fun hn => ?_⟩
  have hsucc : n = s.version + 1 := hn
  omega

/-- A Lease that was read is still there, if its version is. -/
theorem current_of (h : Dated s lease) (hversion : lease.version = s.versionText) :
    s.current = some lease := by
  obtain ⟨n, -, hn, hsame⟩ := h
  -- versions are numbers, and different numbers have different texts
  have hlast : n = s.version := toString_injective (hn.symm.trans hversion)
  rw [LeaseServer.current, hsame hlast, Option.map_some, ← hversion]

end Dated

/-- A write that is carried out is one over the Lease that the writer has read. -/
theorem Permitted.carried {me : String} {errand : Errand} {k : Known} {s : LeaseServer}
    {c : LeaseCall} {spec : Option LeaseSpec} (h : Permitted me errand k c)
    (hdated : ∀ lease, k.read = some lease → Dated s lease) (hcarries : s.Carries c spec) :
    s.current = k.read ∧ ∃ new, spec = some new ∧ Writes me errand k.reading k.read new := by
  cases hcarries with
  | create new hnone =>
      obtain ⟨hread, hwrites⟩ := h
      rw [hread]
      exact ⟨by rw [LeaseServer.current, hnone, Option.map_none], new, rfl, hwrites⟩
  | replace spec hsome =>
      obtain ⟨lease, new, hread, hversion, hnew, hwrites⟩ := h
      rw [hread]
      exact ⟨(hdated lease hread).current_of hversion, new, hnew, hwrites⟩

/-! ### What a Lease says -/

/-- A Lease that has been taken over `n` times. -/
structure Tidy (n : Nat) (spec : LeaseSpec) : Prop where
  named : spec.holder ≠ some ""
  timed : ∃ t, spec.renewTime = some t
  lasting : spec.durationSeconds = some leaseSeconds
  counted : spec.transitions = some (Int32.ofNat n)

/-- What there is of the Lease after it has been taken over `n` times. -/
def Standing (n : Nat) : Option Lease → Prop
  | none => n = 0
  | some lease => ∃ spec, lease.spec = some spec ∧ Tidy n spec

/-- The number of takeovers that the counter of a Lease does not hold any more: 2 to the 31. -/
def countLimit : Nat := 2147483648

/-- One more takeover, or none. -/
def countOn (n : Nat) (takesOver : Bool) : Nat := if takesOver then n + 1 else n

/-- Whoever may renew a Lease is its holder. -/
theorem holder_of_renew {spec : LeaseSpec} {me : String} {now : Int}
    (h : claim (some spec) me now = .renew) : spec.holder = some me := by
  rw [claim, Option.getD_some] at h
  split at h
  · assumption
  · split at h <;> cases h

/-- Whoever may take a Lease over is not its holder, and if it has one, that one has not renewed
it in time. -/
theorem expired_of_takeOver {spec : LeaseSpec} {me : String} {now : Int}
    (h : claim (some spec) me now = .takeOver) :
    spec.holder ≠ some me ∧ (spec.holder.getD "" = "" ∨ isExpired spec now = true) := by
  rw [claim, Option.getD_some] at h
  split at h
  · cases h
  · rename_i hholder
    split at h
    · rename_i hfree
      rw [Bool.or_eq_true, decide_eq_true_eq] at hfree
      exact ⟨hholder, hfree⟩
    · cases h

/-- An age of more than `seconds` whole seconds. -/
theorem lt_ageSeconds_iff {renewTime now seconds : Int} (h : 0 ≤ seconds) :
    seconds < ageSeconds renewTime now ↔ renewTime + 1000 * (seconds + 1) ≤ now := by
  unfold ageSeconds
  by_cases hpast : 0 ≤ now - renewTime
  · rw [Int.tdiv_eq_ediv_of_nonneg hpast]
    omega
  · have hage : (now - renewTime).tdiv 1000 = -((renewTime - now) / 1000) := by
      rw [← Int.neg_sub renewTime now, Int.neg_tdiv, Int.tdiv_eq_ediv_of_nonneg (by omega)]
    omega

theorem takesOver_some {me : String} {lease : Lease} {spec : LeaseSpec}
    (hspec : lease.spec = some spec) :
    Lease.takesOver me (some lease) = (spec.holder != some me) := by
  rw [Lease.takesOver, Option.any_some, Lease.holder?, hspec, Option.bind_some]

/-- A write leaves a Lease that counts one more takeover if it was one. -/
theorem Writes.standing {me : String} {errand : Errand} {reading : Option Int}
    {before : Option Lease} {new : LeaseSpec} {n : Nat} (h : Writes me errand reading before new)
    (hme : me ≠ "") (hbefore : Standing n before) :
    Tidy (countOn n (Lease.takesOver me before)) new := by
  have hnamed : some me ≠ some "" := fun hsame => hme (Option.some.inj hsame)
  cases h with
  | creation now hnow hcontends =>
      obtain rfl : n = 0 := hbefore
      exact ⟨hnamed, ⟨now, rfl⟩, rfl, rfl⟩
  | renewal lease now hnow hclaim herrand =>
      obtain ⟨spec, hspec, htidy⟩ := hbefore
      rw [hspec] at hclaim ⊢
      rw [takesOver_some hspec, holder_of_renew hclaim, bne_self_eq_false]
      refine ⟨hnamed, ⟨now, rfl⟩, rfl, ?_⟩
      simp only [renewed, Option.bind_some, htidy.counted, Option.getD_some, countOn,
        Bool.false_eq_true, if_false]
  | takeover lease now hnow hclaim hcontends =>
      obtain ⟨spec, hspec, htidy⟩ := hbefore
      rw [hspec] at hclaim ⊢
      have hother := bne_iff_ne.mpr (expired_of_takeOver hclaim).1
      rw [takesOver_some hspec, hother]
      refine ⟨hnamed, ⟨now, rfl⟩, rfl, ?_⟩
      simp only [taken, htidy.counted, Option.getD_some, countOn, if_true, Int32.ofNat_add]
      rfl
  | release lease spec hspec hholder herrand =>
      obtain ⟨spec', hspec', htidy⟩ := hbefore
      obtain rfl := Option.some.inj (hspec.symm.trans hspec')
      rw [takesOver_some hspec, hholder, bne_self_eq_false]
      exact ⟨nofun, htidy.timed, htidy.lasting, htidy.counted⟩

/-- A write over another replica's Lease is one that the writer's clock allows: the Lease has not
been renewed in time. -/
theorem Writes.waited {me other : String} {errand : Errand} {reading : Option Int} {lease : Lease}
    {old new : LeaseSpec} {n : Nat} (h : Writes me errand reading (some lease) new)
    (hspec : lease.spec = some old) (htidy : Tidy n old) (hother : other ≠ me)
    (hholder : old.holder = some other) :
    ∃ now renewTime, reading = some now ∧ old.renewTime = some renewTime ∧
      renewTime + 1000 * (leaseSeconds.toInt + 1) ≤ now := by
  have hnot : old.holder ≠ some me := by
    intro hown
    exact hother (Option.some.inj (hholder.symm.trans hown))
  cases h with
  | renewal lease now hnow hclaim herrand =>
      rw [hspec] at hclaim
      exact absurd (holder_of_renew hclaim) hnot
  | takeover lease now hnow hclaim hcontends =>
      rw [hspec] at hclaim
      obtain ⟨t, ht⟩ := htidy.timed
      refine ⟨now, t, hnow, ht, ?_⟩
      -- the holder has a name, so the Lease can only have been taken because it had expired
      have hnamed : old.holder.getD "" ≠ "" := by
        rw [hholder]
        intro hempty
        exact htidy.named (hholder.trans (congrArg some hempty))
      have hexpired := (expired_of_takeOver hclaim).2.resolve_left hnamed
      rw [isExpired, ht, htidy.lasting, decide_eq_true_eq] at hexpired
      exact (lt_ageSeconds_iff (by decide)).mp hexpired
  | release lease spec hspec' hown herrand =>
      obtain rfl := Option.some.inj (hspec.symm.trans hspec')
      exact absurd hown hnot

/-- A write dates the Lease as the writer's clock shows, or leaves its date. -/
theorem Writes.renewTime {me : String} {errand : Errand} {reading : Option Int}
    {before : Option Lease} {new : LeaseSpec} (h : Writes me errand reading before new) :
    new.renewTime = reading ∨ ∃ lease old, before = some lease ∧ lease.spec = some old ∧
      new.renewTime = old.renewTime := by
  cases h with
  | creation now hnow hcontends => exact Or.inl hnow.symm
  | renewal lease now hnow hclaim herrand => exact Or.inl hnow.symm
  | takeover lease now hnow hclaim hcontends => exact Or.inl hnow.symm
  | release lease spec hspec hholder herrand => exact Or.inr ⟨lease, spec, rfl, hspec, rfl⟩

/-! ### Lawful writes -/

/-- What a write may make of a Lease. Another replica's Lease is taken over only when the writer's
clock shows that it has not been renewed in time; renewals and releases are writes over one's own
Lease; takeovers are counted, and dates change with takeovers only. -/
structure Advances (writer : String) (errand : Errand) (reading : Option Int)
    (old new : LeaseSpec) : Prop where
  waited : ∀ other, other ≠ writer → old.holder = some other → ∃ now renewTime seconds,
    reading = some now ∧ old.renewTime = some renewTime ∧ old.durationSeconds = some seconds ∧
      renewTime + 1000 * (seconds.toInt + 1) ≤ now
  own : errand.contends = false → old.holder = some writer
  held : new.holder = if errand = .releasing then none else some writer
  counted : ∃ m n, old.transitions = some m ∧ new.transitions = some n ∧
    n.toInt = m.toInt + if old.holder = some writer then 0 else 1
  dated : old.holder = some writer → new.acquireTime = old.acquireTime

/-- A write that changed the Lease lawfully: it was made over the Lease as the writer had read it,
made the Lease, or advanced it. -/
structure Write.Lawful (w : Write) : Prop where
  based : w.known.read = w.before
  made : w.before = none → ∃ version new, w.after = some ⟨version, some new⟩ ∧
    w.errand.contends = true ∧ new.holder = some w.writer ∧ new.transitions = some 0
  advanced : ∀ lease, w.before = some lease → ∃ version old new, lease.spec = some old ∧
    w.after = some ⟨version, some new⟩ ∧ Advances w.writer w.errand w.known.reading old new

/-- What a takeover counts, below the bound of the counter. -/
theorem toInt_countOn {n : Nat} {takesOver : Bool} (h : countOn n takesOver < countLimit) :
    (Int32.ofNat (countOn n takesOver)).toInt =
      (Int32.ofNat n).toInt + if takesOver then 1 else 0 := by
  have hn : n < countLimit := by
    refine Nat.lt_of_le_of_lt ?_ h
    cases takesOver
    · exact Nat.le_refl n
    · exact Nat.le_succ n
  rw [Int32.toInt_ofNat_of_lt h, Int32.toInt_ofNat_of_lt hn]
  cases takesOver
  · exact (Int.add_zero _).symm
  · exact Int.natCast_succ n

theorem Writes.advances {me : String} {errand : Errand} {reading : Option Int} {lease : Lease}
    {old new : LeaseSpec} {n : Nat} (h : Writes me errand reading (some lease) new)
    (hme : me ≠ "") (hspec : lease.spec = some old) (htidy : Tidy n old)
    (hfew : countOn n (Lease.takesOver me (some lease)) < countLimit) :
    Advances me errand reading old new := by
  have hafter := h.standing hme ⟨old, hspec, htidy⟩
  have hcounted : ∃ m n, old.transitions = some m ∧ new.transitions = some n ∧
      n.toInt = m.toInt + if old.holder = some me then 0 else 1 := by
    refine ⟨_, _, htidy.counted, hafter.counted, ?_⟩
    rw [toInt_countOn hfew, takesOver_some hspec]
    by_cases hholder : old.holder = some me
    · rw [hholder, bne_self_eq_false, if_pos rfl, if_neg Bool.false_ne_true]
    · rw [bne_iff_ne.mpr hholder, if_pos rfl, if_neg hholder]
  have hwaited : ∀ other, other ≠ me → old.holder = some other → ∃ now renewTime seconds,
      reading = some now ∧ old.renewTime = some renewTime ∧ old.durationSeconds = some seconds ∧
        renewTime + 1000 * (seconds.toInt + 1) ≤ now := by
    intro other hother hholder
    obtain ⟨now, t, hnow, ht, hlate⟩ := h.waited hspec htidy hother hholder
    exact ⟨now, t, leaseSeconds, hnow, ht, htidy.lasting, hlate⟩
  cases h with
  | renewal lease now hnow hclaim herrand =>
      rw [hspec] at hclaim hcounted ⊢
      exact ⟨hwaited, fun _ => holder_of_renew hclaim, (if_neg herrand).symm, hcounted,
        fun _ => rfl⟩
  | takeover lease now hnow hclaim hcontends =>
      rw [hspec] at hclaim
      have hother := (expired_of_takeOver hclaim).1
      have herrand : errand ≠ .releasing := by
        rintro rfl
        cases hcontends
      refine ⟨hwaited, fun hnot => ?_, (if_neg herrand).symm, hcounted,
        fun hown => absurd hown hother⟩
      rw [hcontends] at hnot
      cases hnot
  | release lease spec hspec' hholder herrand =>
      obtain rfl := Option.some.inj (hspec.symm.trans hspec')
      exact ⟨hwaited, fun _ => hholder, (if_pos herrand).symm, hcounted, fun _ => rfl⟩

/-! ### Whole contests -/

/-- A write that takes the Lease over. -/
def Write.takesOver (w : Write) : Bool := Lease.takesOver w.writer w.before

/-- The writes lead from one Lease to another, each over what the one before it has left. -/
def Leads : Option Lease → List Write → Option Lease → Prop
  | before, [], after => after = before
  | before, w :: ws, after => w.before = before ∧ Leads w.after ws after

theorem Leads.concat {before : Option Lease} {ws : List Write} {w : Write}
    (h : Leads before ws w.before) : Leads before (ws ++ [w]) w.after := by
  induction ws generalizing before with
  | nil => exact ⟨h, rfl⟩
  | cons v vs ih => exact ⟨h.1, ih h.2⟩

/-- What is left of a job's calls keeps to what the job knows, and that is dated. -/
structure Job.Upheld (j : Job) (s : LeaseServer) : Prop where
  named : j.me ≠ ""
  keeps : j.rest.Keeps (dealings j.me j.errand) (fun _ _ => True) j.known
  dated : ∀ lease, j.known.read = some lease → Dated s lease

namespace Job.Upheld

variable {j : Job} {s : LeaseServer}

/-- Writes by others leave a job as it is. -/
theorem store (h : j.Upheld s) (spec : Option LeaseSpec) : j.Upheld (s.store spec) :=
  ⟨h.named, h.keeps, fun lease hread => (h.dated lease hread).store spec⟩

theorem answer (h : j.Upheld s) (fate : Fate) (clock : Int) (c : LeaseCall) :
    j.Upheld (fate.answer clock s c).2 := by
  obtain hsame | ⟨spec, -, hstore⟩ := fate.answer_effect clock s c
  · rw [hsame]
    exact h
  · rw [hstore]
    exact h.store spec

/-- What a job knows after one more answer is dated as well. -/
theorem dated_see (h : j.Upheld s) (fate : Fate) (clock : Int) (c : LeaseCall) (lease : Lease)
    (hread : (j.known.see c (fate.answer clock s c).1).read = some lease) :
    Dated (fate.answer clock s c).2 lease := by
  cases c with
  | get =>
      cases hfound : (fate.answer clock s .get).1 with
      | error f =>
          rw [hfound] at hread
          cases hread
      | ok found =>
          rw [hfound] at hread
          obtain rfl : found = lease := Option.some.inj hread
          rw [fate.answer_get]
          exact dated_current (fate.answer_found clock s hfound)
  | now => exact (h.answer fate clock .now).dated lease hread
  | sleep ms => exact (h.answer fate clock (.sleep ms)).dated lease hread
  | create spec => exact (h.answer fate clock (.create spec)).dated lease hread
  | replace version spec => exact (h.answer fate clock (.replace version spec)).dated lease hread

theorem proceed (h : j.Upheld s) {c : LeaseCall} {next : c.Reply → LeaseProgram Bool}
    (hrest : j.rest = .call c next) (fate : Fate) (clock : Int) :
    (j.proceed clock c (fate.answer clock s c).1 (next (fate.answer clock s c).1)).Upheld
      (fate.answer clock s c).2 := by
  have hkeeps := h.keeps
  rw [hrest] at hkeeps
  exact ⟨h.named, hkeeps.2 _ _ rfl, h.dated_see fate clock c⟩

end Job.Upheld

namespace Contest

/-- How often the Lease has been taken over. -/
def takeovers (s : Contest) : Nat := s.writes.countP (·.takesOver)

/-- Every job keeps to what it knows, and all that was written so far was lawful. -/
structure Sound (s : Contest) : Prop where
  upheld : ∀ n j, s.jobs.get? n = some j → j.Upheld s.server
  standing : Standing s.takeovers s.server.current
  leads : Leads none s.writes s.server.current
  lawful : s.takeovers < countLimit → ∀ w ∈ s.writes, w.Lawful

theorem Fresh.sound {s : Contest} (h : s.Fresh) : s.Sound := by
  have hcurrent : s.server.current = none := by rw [LeaseServer.current, h.noLease, Option.map_none]
  refine ⟨fun n j hjob => ?_, ?_, ?_, fun _ w hw => ?_⟩
  · rw [h.noJobs] at hjob
    cases hjob
  · rw [hcurrent, takeovers, h.unwritten]
    rfl
  · rw [hcurrent, h.unwritten]
    rfl
  · rw [h.unwritten] at hw
    cases hw

/-- What is written over the present Lease, and the contest after it. -/
theorem Sound.written {s : Contest} (h : s.Sound) {j : Job} (hme : j.me ≠ "") {new : LeaseSpec}
    (hbased : s.server.current = j.known.read)
    (hwrites : Writes j.me j.errand j.known.reading j.known.read new)
    {writes : List Write} (hnoted : writes = s.noted j (s.server.store (some new))) :
    Standing (writes.countP (·.takesOver)) (s.server.store (some new)).current ∧
      Leads none writes (s.server.store (some new)).current ∧
      (writes.countP (·.takesOver) < countLimit → ∀ w ∈ writes, w.Lawful) := by
  rw [noted_store] at hnoted
  have hcount : writes.countP (·.takesOver) =
      countOn s.takeovers (Lease.takesOver j.me s.server.current) := by
    rw [hnoted, List.countP_append, List.countP_singleton, countOn, takeovers]
    show _ + (if Lease.takesOver j.me s.server.current = true then 1 else 0) = _
    split <;> rfl
  rw [← hbased] at hwrites
  have hstanding := h.standing
  refine ⟨?_, ?_, fun hfew w hw => ?_⟩
  · rw [hcount]
    exact ⟨new, rfl, hwrites.standing hme hstanding⟩
  · rw [hnoted]
    exact h.leads.concat
  · rw [hcount] at hfew
    rw [hnoted] at hw
    obtain hearlier | hlast := List.mem_append.mp hw
    · refine h.lawful (Nat.lt_of_le_of_lt ?_ hfew) w hearlier
      unfold countOn
      split
      · exact Nat.le_succ _
      · exact Nat.le_refl _
    · obtain rfl := List.mem_singleton.mp hlast
      refine ⟨hbased.symm, fun hnone => ?_, fun lease hlease => ?_⟩
      · rw [show s.server.current = none from hnone] at hwrites
        cases hwrites with
        | creation now hnow hcontends => exact ⟨_, _, rfl, hcontends, rfl, rfl⟩
      · rw [show s.server.current = some lease from hlease] at hwrites hfew hstanding
        obtain ⟨old, hold, htidy⟩ := hstanding
        exact ⟨_, old, new, hold, rfl, hwrites.advances hme hold htidy hfew⟩

/-- Whatever happens, all that was written stays lawful. -/
theorem Sound.step {s s' : Contest} {a : Act} (h : s.Sound) (hstep : s.Step a s') : s'.Sound := by
  cases hstep with
  | @begin n me errand hfree hme =>
      refine ⟨fun m i hi => ?_, h.standing, h.leads, h.lawful⟩
      obtain ⟨-, rfl⟩ | ⟨-, hi⟩ := get?_withJob hi
      · exact ⟨hme, errand.program_keeps me {}, nofun⟩
      · exact h.upheld m i hi
  | @call n j fate c next hjob hrest hheard =>
      have hupheld := h.upheld n j hjob
      have hjobs : ∀ m i, (s.answered n j fate c next).jobs.get? m = some i →
          i.Upheld (fate.answer s.clock s.server c).2 := by
        intro m i hi
        obtain ⟨-, rfl⟩ | ⟨-, hi⟩ := get?_withJob hi
        · exact hupheld.proceed hrest fate s.clock
        · exact (h.upheld m i hi).answer fate s.clock c
      have hpermits := hupheld.keeps
      rw [hrest] at hpermits
      -- what is written, if anything, is what the job may make of the Lease that it has read; and
      -- that is the Lease that is there
      obtain hsame | ⟨spec, hcarries, hstore⟩ := fate.answer_effect s.clock s.server c
      · refine ⟨hjobs, ?_, ?_, ?_⟩
        all_goals
          simp only [answered, takeovers, hsame, noted_same]
        · exact h.standing
        · exact h.leads
        · exact h.lawful
      · obtain ⟨hbased, new, rfl, hwrites⟩ := hpermits.1.carried hupheld.dated hcarries
        obtain ⟨hstanding, hleads, hlawful⟩ := h.written hupheld.named hbased hwrites rfl
        refine ⟨hjobs, ?_, ?_, ?_⟩
        all_goals
          simp only [answered, takeovers, hstore]
        · exact hstanding
        · exact hleads
        · exact hlawful
  | @hear n j hjob hwaiting =>
      refine ⟨fun m i hi => ?_, h.standing, h.leads, h.lawful⟩
      obtain ⟨-, rfl⟩ | ⟨-, hi⟩ := get?_withJob hi
      · have hupheld := h.upheld n j hjob
        exact ⟨hupheld.named, hupheld.keeps, hupheld.dated⟩
      · exact h.upheld m i hi
  | @finish n j hjob =>
      refine ⟨fun m i hi => ?_, h.standing, h.leads, h.lawful⟩
      exact h.upheld m i (get?_without hi).2
  | advance milliseconds => exact ⟨h.upheld, h.standing, h.leads, h.lawful⟩

theorem Fresh.play_sound {R : Regime} {s : Contest} (h : s.Fresh) {acts : List Act}
    (hobeys : s.Obeys R acts) : (s.play acts).Sound :=
  play_keeps (fun hsound _ hstep => hsound.step hstep) h.sound hobeys

/-- **The Lease changes hands by the rules.** However many replicas contend for a Lease that does
not exist at first, in whichever order their calls are carried out and heard, whatever their clocks
show and whichever requests fail: every write is made over what the write before it has left, and
every write is lawful. -/
theorem writes_lawful {s : Contest} (hfresh : s.Fresh) (acts : List Act)
    (hfew : (s.play acts).takeovers < countLimit) :
    Leads none (s.play acts).writes (s.play acts).server.current ∧
      ∀ w ∈ (s.play acts).writes, w.Lawful := by
  have hsound := hfresh.play_sound (s.obeys_true acts)
  exact ⟨hsound.leads, hsound.lawful hfew⟩

/-- One replica takes the Lease and is gone; another one takes it over when its clock shows 16
seconds. -/
def abandonment : List Act :=
  .begin 0 "a" .trying :: Act.serve 0 3 ++ .finish 0 ::
  .begin 1 "b" (.acquiring 1) :: .call 1 (.misread 16000) :: Act.serve 1 2 ++ [.finish 1]

theorem writes_lawful_abandonment :
    Fresh {} ∧ (({} : Contest).play abandonment).takeovers = 1 ∧
      (({} : Contest).play abandonment).writes.length = 2 ∧
      ∀ w ∈ (({} : Contest).play abandonment).writes, w.Lawful := by
  have hcounts : (({} : Contest).play abandonment).takeovers = 1 ∧
      (({} : Contest).play abandonment).writes.length = 2 := by decide +kernel
  have hfew : (({} : Contest).play abandonment).takeovers < countLimit := by
    rw [hcounts.1]
    decide
  exact ⟨fresh_empty, hcounts.1, hcounts.2, (writes_lawful fresh_empty abandonment hfew).2⟩

end Contest

end Election

end ServiceTunnel
