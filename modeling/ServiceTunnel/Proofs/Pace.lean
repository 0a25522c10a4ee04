import ServiceTunnel.Proofs.Contest

/-!
# ServiceTunnel.Proofs.Pace

**A replica that holds the Lease renews it in time,** if the answers to its requests come within a
bound. From the time that the Lease is dated with until the next renewal is carried out there are
four requests and one sleep: the look-up and the write that took the Lease, the sleep, and the
look-up and the write that renew it. `hold_paced` says that all of it is over before the Lease
lapses, again and again.
-/

namespace ServiceTunnel

open Kube Simulation

/-- How many milliseconds a call takes at most, if requests take at most `latency`. -/
def Kube.LeaseCall.cost (latency : Nat) : LeaseCall → Nat
  | .now => 0
  | .sleep milliseconds => milliseconds
  | .get | .create _ | .replace .. => latency

namespace Election

/-- For how many milliseconds after its date nobody takes a Lease over. -/
def lapse : Int := 1000 * (leaseSeconds.toInt + 1)

/-! ### Renewing in time -/

/-- The date of a Lease that is held by `me`. -/
def renewalBy (me : String) (spec : Option LeaseSpec) : Option Int :=
  spec.bind fun spec => if spec.holder = some me then spec.renewTime else none

theorem renewalBy_renewed (previous : Option LeaseSpec) (me : String) (now : Int) :
    renewalBy me (some (renewed previous me now)) = some now := if_pos rfl

theorem renewalBy_taken (previous : Option LeaseSpec) (me : String) (now : Int) :
    renewalBy me (some (taken previous me now)) = some now := if_pos rfl

theorem renewalBy_released (spec : LeaseSpec) (me : String) :
    renewalBy me (some (released spec)) = none := by
  have hfree : (released spec).holder ≠ some me := nofun
  rw [renewalBy, Option.bind_some, if_neg hfree]

theorem renewalBy_eq_some {me : String} {spec : Option LeaseSpec} {t : Int}
    (h : renewalBy me spec = some t) :
    ∃ old, spec = some old ∧ old.holder = some me ∧ old.renewTime = some t := by
  obtain ⟨old, hold, hdate⟩ := Option.bind_eq_some_iff.mp h
  split at hdate
  · rename_i hholder
    exact ⟨old, hold, hholder, hdate⟩
  · cases hdate

/-- How a replica stands with the clock. -/
structure Pace where
  /-- By when the answers so far have been heard. -/
  latest : Int
  /-- The date of the last renewal that is known to have succeeded. -/
  renewed : Option Int

namespace Pace

/-- The replica counts on a Lease that was dated at most two requests ago. -/
def Fresh (latency : Nat) (x : Pace) : Prop :=
  ∃ t, x.renewed = some t ∧ x.latest ≤ t + 2 * latency

/-- After a write of `spec`. -/
def wrote (x : Pace) (latency : Nat) (me : String) (spec : Option LeaseSpec) :
    Except Failure Unit → Pace
  | .ok () => ⟨x.latest + latency, renewalBy me spec⟩
  | .error _ => ⟨x.latest + latency, x.renewed⟩

/-- How a replica stands after one more answer. -/
def Next (latency : Nat) (me : String) (x : Pace) : (c : LeaseCall) → c.Reply → Pace → Prop
  | .now, reading, x' => reading ≤ x.latest ∧ (∀ t, x.renewed = some t → t ≤ reading) ∧
      x' = ⟨reading, x.renewed⟩
  | .sleep milliseconds, _, x' => x' = ⟨x.latest + milliseconds, x.renewed⟩
  | .get, _, x' => x' = ⟨x.latest + latency, x.renewed⟩
  | .create spec, r, x' => x' = x.wrote latency me (some spec) r
  | .replace _ spec, r, x' => x' = x.wrote latency me spec r

/-- A call is over before the Lease that is counted on lapses, and a write renews that Lease. -/
structure Permits (latency : Nat) (me : String) (x : Pace) (c : LeaseCall) : Prop where
  inTime : ∀ t, x.renewed = some t → x.latest + c.cost latency < t + lapse
  renews : ∀ spec, c.written? = some spec → ∀ t, x.renewed = some t →
    ∃ t', t ≤ t' ∧ renewalBy me spec = some t'
  dated : ∀ spec, c.written? = some spec → ∀ t, renewalBy me spec = some t →
    x.latest + latency < t + lapse

end Pace

/-- What a replica owes the others while it counts on the Lease. -/
def pace (latency : Nat) (me : String) : Contract LeaseCall.interface Pace where
  permits := Pace.Permits latency me
  yields := Pace.Next latency me

/-- How an errand begins. Single attempts are not made but in order to acquire or to hold. -/
def Errand.Begins (latency : Nat) (x : Pace) : Errand → Prop
  | .acquiring _ | .releasing => x.renewed = none
  | .holding _ => x.Fresh latency
  | .trying | .renewing => False

/-- How an errand ends: a Lease that has been acquired can be counted on. -/
def Errand.Ends (latency : Nat) : Errand → Bool → Pace → Prop
  | .acquiring _, won, x => won = true → x.Fresh latency
  | .trying, _, _ | .renewing, _, _ | .releasing, _, _ | .holding _, _, _ => True

section Paces

variable {latency : Nat} {me : String} {x : Pace}

/-- A call that writes nothing only has to be over in time. -/
theorem Pace.permits_quiet {c : LeaseCall} (hquiet : c.written? = none)
    (htime : ∀ t, x.renewed = some t → x.latest + c.cost latency < t + lapse) :
    x.Permits latency me c := by
  refine ⟨htime, fun spec hspec => ?_, fun spec hspec => ?_⟩ <;>
  · rw [hquiet] at hspec
    cases hspec

/-- A replica that does not count on the Lease may take its time. -/
theorem Pace.permits_of_none {c : LeaseCall} (hnone : x.renewed = none)
    (hdated : ∀ spec, c.written? = some spec → ∀ t, renewalBy me spec = some t →
      x.latest + latency < t + lapse) : x.Permits latency me c := by
  refine ⟨fun t ht => ?_, fun _ _ t ht => ?_, hdated⟩ <;>
  · rw [hnone] at ht
    cases ht

theorem Pace.permits_idle {c : LeaseCall} (hnone : x.renewed = none) (hquiet : c.written? = none) :
    x.Permits latency me c := by
  refine Pace.permits_quiet hquiet fun t ht => ?_
  rw [hnone] at ht
  cases ht

theorem written_eq_true {r : Except Failure Unit} (h : written r = .ok true) : r = .ok () := by
  cases r with
  | ok u => rfl
  | error f =>
      cases f with
      | refused refusal =>
          rw [written] at h
          split at h <;> cases h
      | unnamed => cases h
      | unsendable => cases h
      | unreadable why => cases h

/-- After a write: it succeeded and is counted on, or it failed and all is as before. -/
def Wrote (latency : Nat) (x : Pace) (date : Option Int) (r : Except Failure Bool) (x' : Pace) :
    Prop :=
  (r = .ok true → x' = ⟨x.latest + latency, date⟩) ∧
    (r ≠ .ok true → x' = ⟨x.latest + latency, x.renewed⟩)

theorem wrote_written (latency : Nat) (me : String) (x : Pace) (spec : Option LeaseSpec)
    (r : Except Failure Unit) :
    Wrote latency x (renewalBy me spec) (written r) (x.wrote latency me spec r) := by
  cases r with
  | ok u => exact ⟨fun _ => rfl, fun h => absurd rfl h⟩
  | error f => exact ⟨fun h => absurd (written_eq_true h) nofun, fun _ => rfl⟩

theorem create_paced {now : Int} (hnone : x.renewed = none)
    (hsoon : x.latest + latency < now + lapse) :
    (create me now).Keeps (pace latency me) (Wrote latency x (some now)) x := by
  refine ⟨Pace.permits_of_none hnone fun spec hspec t ht => ?_, fun r x' hx' => ?_⟩
  · obtain rfl : some (taken none me now) = spec := Option.some.inj hspec
    rw [renewalBy_taken, Option.some.injEq] at ht
    rw [← ht]
    exact hsoon
  · obtain rfl : x' = x.wrote latency me (some (taken none me now)) r := hx'
    have hwrote := wrote_written latency me x (some (taken none me now)) r
    rw [renewalBy_taken] at hwrote
    exact hwrote

theorem replace_paced {lease : Lease} {spec : LeaseSpec} {now : Int}
    (hdate : renewalBy me (some spec) = some now) (hsoon : x.latest + latency < now + lapse)
    (hlater : ∀ t, x.renewed = some t → t ≤ now ∧ x.latest + latency < t + lapse) :
    (replace lease spec).Keeps (pace latency me) (Wrote latency x (some now)) x := by
  refine ⟨⟨fun t ht => (hlater t ht).2, fun spec' hspec t ht => ?_, fun spec' hspec t ht => ?_⟩,
    fun r x' hx' => ?_⟩
  · obtain rfl : some spec = spec' := Option.some.inj hspec
    exact ⟨now, (hlater t ht).1, hdate⟩
  · obtain rfl : some spec = spec' := Option.some.inj hspec
    rw [hdate, Option.some.injEq] at ht
    rw [← ht]
    exact hsoon
  · obtain rfl : x' = x.wrote latency me (some spec) r := hx'
    have hwrote := wrote_written latency me x (some spec) r
    rw [hdate] at hwrote
    exact hwrote

/-- An attempt that succeeds is one that can be counted on. -/
def Acquired (latency : Nat) (r : Except Failure Bool) (x : Pace) : Prop :=
  (r = .ok true → x.Fresh latency) ∧ (r ≠ .ok true → x.renewed = none)

theorem Wrote.acquired {now : Int} {r : Except Failure Bool} {x x' : Pace}
    (h : Wrote latency x (some now) r x') (hnone : x.renewed = none)
    (hlatest : x.latest = now + latency) : Acquired latency r x' := by
  refine ⟨fun hr => ?_, fun hr => ?_⟩
  · rw [h.1 hr]
    refine ⟨now, rfl, ?_⟩
    show x.latest + latency ≤ now + 2 * latency
    omega
  · rw [h.2 hr]
    exact hnone

theorem tryAcquire_paced (hlatency : 2 * (latency : Int) < lapse) (hnone : x.renewed = none) :
    (tryAcquire me).Keeps (pace latency me) (Acquired latency) x := by
  refine ⟨Pace.permits_idle hnone rfl, fun (now : Int) x₁ hx₁ => ?_⟩
  obtain ⟨-, -, rfl⟩ := hx₁
  refine ⟨Pace.permits_idle hnone rfl, fun found x₂ hx₂ => ?_⟩
  obtain rfl : x₂ = ⟨now + latency, x.renewed⟩ := hx₂
  have hfailed : ∀ r : Except Failure Bool, r ≠ .ok true →
      (Program.done r : LeaseProgram _).Keeps (pace latency me) (Acquired latency)
        ⟨now + latency, x.renewed⟩ := by
    intro r hr
    exact ⟨fun hok => absurd hok hr, fun _ => hnone⟩
  have hsoon : now + latency + latency < now + lapse := by omega
  have hlater : ∀ t, x.renewed = some t → t ≤ now ∧ now + latency + latency < t + lapse := by
    intro t ht
    rw [hnone] at ht
    cases ht
  cases found with
  | error f =>
      cases f with
      | refused r =>
          by_cases hnew : r.reason = "NotFound"
          · simp only [if_pos hnew]
            exact (create_paced (x := ⟨now + latency, x.renewed⟩) hnone hsoon).imp
              fun r x' h => h.acquired hnone rfl
          · simp only [if_neg hnew]
            exact hfailed _ nofun
      | unnamed => exact hfailed _ nofun
      | unsendable => exact hfailed _ nofun
      | unreadable why => exact hfailed _ nofun
  | ok lease =>
      cases hclaim : claim lease.spec me now with
      | renew =>
          simp only [hclaim]
          exact (replace_paced (renewalBy_renewed _ me now) hsoon hlater).imp
            fun r x' h => h.acquired hnone rfl
      | takeOver =>
          simp only [hclaim]
          exact (replace_paced (renewalBy_taken _ me now) hsoon hlater).imp
            fun r x' h => h.acquired hnone rfl
      | wait =>
          simp only [hclaim]
          exact hfailed _ nofun

/-- A renewal in time makes the Lease one that can be counted on again. -/
theorem renew_paced (hlatency : (latency : Int) < lapse) {t : Int} (hrenewed : x.renewed = some t)
    (hsoon : x.latest + 2 * latency < t + lapse) :
    (renew me).Keeps (pace latency me) (fun r x' => r = .ok true → x'.Fresh latency) x := by
  have hread : x.Permits latency me .get := by
    refine Pace.permits_quiet rfl fun t' ht' => ?_
    obtain rfl : t = t' := Option.some.inj (hrenewed.symm.trans ht')
    show x.latest + latency < t + lapse
    omega
  refine ⟨hread, fun found x₁ hx₁ => ?_⟩
  obtain rfl : x₁ = ⟨x.latest + latency, x.renewed⟩ := hx₁
  cases found with
  | error f => exact nofun
  | ok lease =>
      have hlook : Pace.Permits latency me ⟨x.latest + latency, x.renewed⟩ .now := by
        refine Pace.permits_quiet rfl fun t' ht' => ?_
        obtain rfl : t = t' := Option.some.inj (hrenewed.symm.trans ht')
        show x.latest + latency + (0 : Nat) < t + lapse
        omega
      refine ⟨hlook, fun (now : Int) x₂ hx₂ => ?_⟩
      obtain ⟨hnow, hpast, rfl⟩ := hx₂
      have hbefore : now ≤ x.latest + latency := hnow
      by_cases hclaim : claim lease.spec me now = .renew
      · simp only [if_pos hclaim]
        -- the write may fail and yet be carried out: either way the Lease is dated `t` or later
        have hlater : ∀ t', x.renewed = some t' → t' ≤ now ∧ now + latency < t' + lapse := by
          intro t' ht'
          obtain rfl : t = t' := Option.some.inj (hrenewed.symm.trans ht')
          exact ⟨hpast t hrenewed, by omega⟩
        have hdated : now + latency < now + lapse := by omega
        refine (replace_paced (renewalBy_renewed _ me now) hdated hlater).imp fun r x' h hr => ?_
        rw [h.1 hr]
        refine ⟨now, rfl, ?_⟩
        show now + latency ≤ now + 2 * latency
        omega
      · simp only [if_neg hclaim]
        exact nofun

theorem release_paced (hnone : x.renewed = none) :
    (release me).Keeps (pace latency me) (fun _ _ => True) x := by
  refine ⟨Pace.permits_idle hnone rfl, fun found x₁ hx₁ => ?_⟩
  obtain rfl : x₁ = ⟨x.latest + latency, x.renewed⟩ := hx₁
  cases found with
  | error f => exact trivial
  | ok lease =>
      cases hspec : lease.spec with
      | none =>
          simp only [hspec]
          exact trivial
      | some spec =>
          simp only [hspec]
          by_cases hholder : spec.holder = some me
          · simp only [if_pos hholder]
            refine ⟨Pace.permits_of_none hnone fun spec' hspec' t ht => ?_, fun _ _ _ => trivial⟩
            obtain rfl : some (released spec) = spec' := Option.some.inj hspec'
            rw [renewalBy_released] at ht
            cases ht
          · simp only [if_neg hholder]
            exact trivial

theorem acquire_paced (hlatency : 2 * (latency : Int) < lapse) (attempts : Nat)
    (hnone : x.renewed = none) :
    (acquire me attempts).Keeps (pace latency me)
      (fun won x' => won = true → x'.Fresh latency) x := by
  induction attempts generalizing x with
  | zero => exact nofun
  | succ attempts ih =>
      refine (tryAcquire_paced hlatency hnone).bind fun r x₁ hr => ?_
      by_cases hwon : r = .ok true
      · subst hwon
        exact fun _ => hr.1 rfl
      · have hstill := hr.2 hwon
        split
        · exact absurd rfl hwon
        · refine ⟨Pace.permits_idle hstill rfl, fun _ x₂ hx₂ => ?_⟩
          obtain rfl : x₂ = ⟨x₁.latest + retryInterval, x₁.renewed⟩ := hx₂
          exact ih (x := ⟨x₁.latest + retryInterval, x₁.renewed⟩) hstill

/-- Sleeping and renewing in turn, a replica renews the Lease before it lapses. -/
theorem hold_paced (hlatency : 4 * (latency : Int) + renewInterval < lapse) (renewals : Nat)
    (hfresh : x.Fresh latency) :
    (hold me renewals).Keeps (pace latency me) (fun _ _ => True) x := by
  induction renewals generalizing x with
  | zero => exact trivial
  | succ renewals ih =>
      obtain ⟨t, ht, hlatest⟩ := hfresh
      refine ⟨Pace.permits_quiet rfl fun t' ht' => ?_, fun _ x₁ hx₁ => ?_⟩
      · obtain rfl : t = t' := Option.some.inj (ht.symm.trans ht')
        show x.latest + renewInterval < t + lapse
        omega
      · obtain rfl : x₁ = ⟨x.latest + renewInterval, x.renewed⟩ := hx₁
        -- two requests since the date, the sleep, and two more for the look-up and the write
        have hsoon : x.latest + renewInterval + 2 * latency < t + lapse := by omega
        have hshort : (latency : Int) < lapse := by omega
        refine (renew_paced (x := ⟨x.latest + renewInterval, x.renewed⟩) hshort ht hsoon).bind
          fun r x₂ hr => ?_
        split
        · exact ih (hr rfl)
        · exact trivial

/-- Whatever a replica sets out to do, it does in time. -/
theorem Errand.program_paced (hlatency : 4 * (latency : Int) + renewInterval < lapse)
    {errand : Errand} (hbegins : errand.Begins latency x) :
    (errand.program me).Keeps (pace latency me) (errand.Ends latency) x := by
  cases errand with
  | trying => exact hbegins.elim
  | renewing => exact hbegins.elim
  | releasing => exact (release_paced hbegins).bind fun () _ _ => trivial
  | acquiring attempts => exact acquire_paced (by omega) attempts hbegins
  | holding renewals => exact hold_paced hlatency renewals hbegins

end Paces

end Election

end ServiceTunnel
