import Mathlib.Data.Finset.Card
import ServiceTunnel.Proofs.HandOver
import ServiceTunnel.Proofs.Pace

/-!
# ServiceTunnel.Proofs.SoleHolder

**At most one replica is active, as long as requests are answered in time.** All replicas see one
clock, and local work takes no time; only sleeping and requests do. A replica that counts on the
Lease holds it and renews it before it lapses, and until then nobody else takes it over
(`Contest.one_active`).

Without a bound on requests this fails. A replica waits for the answer to a renewal without looking
at the clock, so it goes on counting on a Lease that another replica has taken over
(`Contest.two_active`).
-/

namespace ServiceTunnel

open Kube Simulation

/-- How many milliseconds a call takes at most, if requests take at most `limit`. -/
def Kube.LeaseCall.within (limit : Option Nat) : LeaseCall → Option Nat
  | .now => some 0
  | .sleep milliseconds => some milliseconds
  | .get | .create _ | .replace .. => limit

theorem Kube.LeaseCall.within_some (latency : Nat) (c : LeaseCall) :
    c.within (some latency) = some (c.cost latency) := by
  cases c <;> rfl

namespace Election

namespace Job

/-- The time at which a job's next answer is due, if requests take at most `limit`. A job that is
done is over at once. -/
def deadline (limit : Option Nat) (j : Job) : Option Int :=
  if j.waiting then limit.map fun (ms : Nat) => j.since + ms
  else match j.rest with
    | .done _ => some j.since
    | .call c _ => (LeaseCall.within limit c).map fun (ms : Nat) => j.since + ms

/-- The time at which a job has slept enough. -/
def wakes (j : Job) : Int :=
  match j.rest with
  | .call (.sleep milliseconds) _ => j.since + milliseconds
  | .call .now _ | .call .get _ | .call (.create _) _ | .call (.replace ..) _ | .done _ => j.since

/-- By when everything that was carried out for a job has been heard. -/
def upTo (latency : Nat) (j : Job) : Int := if j.waiting then j.since + latency else j.since

variable {latency : Nat} {j : Job}

theorem deadline_waiting (hwaiting : j.waiting = true) :
    j.deadline (some latency) = some (j.since + latency) := by
  rw [deadline, if_pos hwaiting, Option.map_some]

theorem deadline_done {b : Bool} (hheard : j.waiting = false) (hrest : j.rest = .done b) :
    j.deadline (some latency) = some j.since := by
  rw [deadline, hheard, if_neg Bool.false_ne_true, hrest]

theorem deadline_call {c : LeaseCall} {next : c.Reply → LeaseProgram Bool}
    (hheard : j.waiting = false) (hrest : j.rest = .call c next) :
    j.deadline (some latency) = some (j.since + c.cost latency) := by
  rw [deadline, hheard, if_neg Bool.false_ne_true, hrest]
  simp only [LeaseCall.within_some, Option.map_some]

/-- Nothing is due before it begins. -/
theorem since_le_deadline (hheard : j.waiting = false) {due : Int}
    (hdue : j.deadline (some latency) = some due) : j.since ≤ due := by
  cases hrest : j.rest with
  | done b =>
      rw [deadline_done hheard hrest, Option.some.injEq] at hdue
      omega
  | call c next =>
      rw [deadline_call hheard hrest, Option.some.injEq] at hdue
      omega

theorem upTo_waiting (hwaiting : j.waiting = true) : j.upTo latency = j.since + latency :=
  if_pos hwaiting

theorem upTo_heard (hheard : j.waiting = false) : j.upTo latency = j.since := by
  rw [upTo, hheard, if_neg Bool.false_ne_true]

end Job

/-! ### One clock -/

/-- What a replica sets out to do: to acquire the Lease, to hold it once it has been acquired, and
to release it once it is not counted on. -/
def Errand.Fits (me : String) (active : Finset String) : Errand → Prop
  | .acquiring _ | .releasing => me ∉ active
  | .holding _ => me ∈ active
  | .trying | .renewing => False

instance (me : String) (active : Finset String) : (e : Errand) → Decidable (e.Fits me active)
  | .acquiring _ | .releasing => inferInstanceAs (Decidable (me ∉ active))
  | .holding _ => inferInstanceAs (Decidable (me ∈ active))
  | .trying | .renewing => inferInstanceAs (Decidable False)

/-- The clock shows what it is. -/
def Fate.trueClock : Fate → Bool
  | .misread _ => false
  | .told | .failed .. => true

theorem Fate.answer_now {fate : Fate} (h : fate.trueClock = true) (clock : Int)
    (s : LeaseServer) : fate.answer clock s .now = (clock, s) := by
  cases fate with
  | told => rfl
  | misread reading => cases h
  | failed f carriedOut => rfl

/-- All replicas see one clock. Each does one thing at a time, and holds the Lease from when it has
acquired it. Sleeping takes its time, requests take at most `limit`, and nothing else takes time. -/
def Timed (limit : Option Nat) (s : Contest) : Act → Prop
  | .begin _ me errand => errand.Fits me s.active ∧ ∀ j ∈ s.jobs.values, j.me ≠ me
  | .call n fate => fate.trueClock = true ∧ ∀ j ∈ s.jobs.get? n, j.wakes ≤ s.clock
  | .hear _ | .finish _ => True
  | .advance milliseconds => (∀ me ∈ s.active, ∃ j ∈ s.jobs.values, j.me = me) ∧
      ∀ j ∈ s.jobs.values, ∀ due ∈ j.deadline limit, s.clock + milliseconds ≤ due

instance (limit : Option Nat) (s : Contest) : (a : Act) → Decidable (Timed limit s a)
  | .begin .. => inferInstanceAs (Decidable (_ ∧ _))
  | .call .. => inferInstanceAs (Decidable (_ ∧ _))
  | .hear _ | .finish _ => inferInstanceAs (Decidable True)
  | .advance _ => inferInstanceAs (Decidable (_ ∧ _))

/-! ### Who holds the Lease -/

/-- Since when `me` holds the Lease. -/
def heldSince (s : LeaseServer) (me : String) : Option Int := renewalBy me s.lease.join

theorem heldSince_eq_some {s : LeaseServer} {me : String} {t : Int}
    (h : heldSince s me = some t) :
    ∃ spec, s.lease = some (some spec) ∧ spec.holder = some me ∧ spec.renewTime = some t := by
  obtain ⟨spec, hspec, hholder, ht⟩ := renewalBy_eq_some h
  exact ⟨spec, Option.join_eq_some_iff.mp hspec, hholder, ht⟩

/-- The Lease has one holder. -/
theorem heldSince_inj {s : LeaseServer} {a b : String} {t t' : Int}
    (ha : heldSince s a = some t) (hb : heldSince s b = some t') : a = b := by
  obtain ⟨spec, hspec, hholder, -⟩ := heldSince_eq_some ha
  obtain ⟨spec', hspec', hholder', -⟩ := heldSince_eq_some hb
  obtain rfl : spec = spec' := Option.some.inj (Option.some.inj (hspec.symm.trans hspec'))
  exact Option.some.inj (hholder.symm.trans hholder')

/-- A job keeps its pace: its calls are over by when they are due, and the Lease is held for as long
as it is counted on. -/
structure Job.Paced (latency : Nat) (s : Contest) (j : Job) (x : Pace) : Prop where
  keeps : j.rest.Keeps (pace latency j.me) (j.errand.Ends latency) x
  onTime : ∀ due, j.deadline (some latency) = some due → s.clock ≤ due
  latest : j.upTo latency ≤ x.latest
  fresh : ∀ t, x.renewed = some t → x.latest < t + lapse
  held : ∀ t, x.renewed = some t → ∃ t', t ≤ t' ∧ heldSince s.server j.me = some t'
  active : j.me ∈ s.active → (∃ n, j.errand = .holding n) ∧ x.renewed ≠ none

namespace Job.Paced

variable {latency : Nat} {s s' : Contest} {j : Job} {x : Pace}

/-- The Lease does not lapse while it is counted on. -/
theorem clock_lt (h : j.Paced latency s x) {t : Int} (ht : x.renewed = some t) :
    s.clock < t + lapse := by
  have hlatest := h.latest
  have hfresh := h.fresh t ht
  cases hwaiting : j.waiting with
  | true =>
      have hclock := h.onTime _ (Job.deadline_waiting hwaiting)
      rw [Job.upTo_waiting hwaiting] at hlatest
      omega
  | false =>
      rw [Job.upTo_heard hwaiting] at hlatest
      cases hrest : j.rest with
      | done b =>
          have hclock := h.onTime _ (Job.deadline_done hwaiting hrest)
          omega
      | call c next =>
          have hclock := h.onTime _ (Job.deadline_call hwaiting hrest)
          have hkeeps := h.keeps
          rw [hrest] at hkeeps
          have hsoon := hkeeps.1.inTime t ht
          omega

/-- What others do leaves a job's pace, if the Lease stays with whoever holds it. -/
theorem aside (h : j.Paced latency s x) (hclock : s'.clock = s.clock)
    (hheld : ∀ t, s.clock < t + lapse → heldSince s.server j.me = some t →
      heldSince s'.server j.me = some t)
    (hactive : j.me ∈ s'.active → j.me ∈ s.active) : j.Paced latency s' x := by
  refine ⟨h.keeps, fun due hdue => ?_, h.latest, h.fresh, fun t ht => ?_,
    fun hme => h.active (hactive hme)⟩
  · rw [hclock]
    exact h.onTime due hdue
  · obtain ⟨t', hle, hsince⟩ := h.held t ht
    have hlt := h.clock_lt ht
    exact ⟨t', hle, hheld t' (by omega) hsince⟩

/-- A job that has just heard an answer, or looked at the clock, has all the time for its next
call. -/
theorem onTime_heard (hheard : j.waiting = false) (hsince : j.since = s.clock) {due : Int}
    (hdue : j.deadline (some latency) = some due) : s.clock ≤ due := by
  rw [← hsince]
  exact Job.since_le_deadline hheard hdue

end Job.Paced

/-- What a write makes of a replica's pace: the Lease is held as long as it is counted on. -/
theorem Pace.wrote_holds {latency : Nat} {me : String} {x : Pace} {c : LeaseCall}
    {spec : Option LeaseSpec} {s s' : LeaseServer} {r : Except Failure Unit}
    (hpermits : x.Permits latency me c) (hwritten : c.written? = some spec)
    (hcost : c.cost latency = latency)
    (hheld : ∀ t, x.renewed = some t → ∃ t', t ≤ t' ∧ heldSince s me = some t')
    (heffect : s' = s ∧ r ≠ .ok () ∨ s' = s.store spec) :
    (∀ t, (x.wrote latency me spec r).renewed = some t →
        (x.wrote latency me spec r).latest < t + lapse) ∧
      (∀ t, (x.wrote latency me spec r).renewed = some t →
        ∃ t', t ≤ t' ∧ heldSince s' me = some t') ∧
      (x.renewed ≠ none → (x.wrote latency me spec r).renewed ≠ none) := by
  cases r with
  | ok u =>
      obtain rfl : s' = s.store spec := heffect.resolve_left fun h => h.2 rfl
      refine ⟨fun t ht => hpermits.dated spec hwritten t ht, fun t ht => ⟨t, Int.le_refl t, ht⟩,
        fun hsome => ?_⟩
      obtain ⟨t, ht⟩ := Option.ne_none_iff_exists'.mp hsome
      obtain ⟨t', -, ht'⟩ := hpermits.renews spec hwritten t ht
      exact Option.ne_none_iff_exists'.mpr ⟨t', ht'⟩
  | error f =>
      refine ⟨fun t ht => ?_, fun t ht => ?_, id⟩
      · have hsoon := hpermits.inTime t ht
        rw [hcost] at hsoon
        exact hsoon
      · obtain ⟨rfl, -⟩ | rfl := heffect
        · exact hheld t ht
        · exact hpermits.renews spec hwritten t ht

namespace Job.Paced

variable {latency : Nat} {s : Contest} {n : Nat} {j : Job} {x : Pace}

/-- A look at the clock, or a sleep, is over at once or when it is over. -/
theorem local_answer (h : j.Paced latency s x) {c : LeaseCall}
    {next : c.Reply → LeaseProgram Bool} (hrest : j.rest = .call c next) {fate : Fate}
    (hlocal : c.isRequest = false) (hserver : (fate.answer s.clock s.server c).2 = s.server)
    {x' : Pace} (hnext : x.Next latency j.me c (fate.answer s.clock s.server c).1 x')
    (hlatest : s.clock ≤ x'.latest) (hrenewed : x'.renewed = x.renewed)
    (hfresh : ∀ t, x.renewed = some t → x'.latest < t + lapse) :
    (j.proceed s.clock c (fate.answer s.clock s.server c).1
      (next (fate.answer s.clock s.server c).1)).Paced latency (s.answered n j fate c next) x' := by
  have hkeeps := h.keeps
  rw [hrest] at hkeeps
  have hsince : (j.proceed s.clock c (fate.answer s.clock s.server c).1
      (next (fate.answer s.clock s.server c).1)).since = s.clock := by
    rw [Job.proceed, hlocal, if_neg Bool.false_ne_true]
  refine ⟨hkeeps.2 _ x' hnext, fun due hdue => onTime_heard hlocal hsince hdue, ?_,
    fun t ht => hfresh t (hrenewed ▸ ht), fun t ht => ?_, fun hme => ?_⟩
  · rw [Job.upTo_heard hlocal, hsince]
    exact hlatest
  · show ∃ t', t ≤ t' ∧ heldSince (fate.answer s.clock s.server c).2 j.me = some t'
    rw [hserver]
    exact h.held t (hrenewed ▸ ht)
  · rw [hrenewed]
    exact h.active hme

/-- The answer to a request is heard within the bound from when it was made. -/
theorem request_answer (h : j.Paced latency s x) {c : LeaseCall}
    {next : c.Reply → LeaseProgram Bool} (hrest : j.rest = .call c next)
    (hheard : j.waiting = false) {fate : Fate} (hrequest : c.isRequest = true)
    (hcost : c.cost latency = latency) {x' : Pace}
    (hnext : x.Next latency j.me c (fate.answer s.clock s.server c).1 x')
    (hlatest : x'.latest = x.latest + latency)
    (hholds : (∀ t, x'.renewed = some t → x'.latest < t + lapse) ∧
      (∀ t, x'.renewed = some t →
        ∃ t', t ≤ t' ∧ heldSince (fate.answer s.clock s.server c).2 j.me = some t') ∧
      (x.renewed ≠ none → x'.renewed ≠ none)) :
    (j.proceed s.clock c (fate.answer s.clock s.server c).1
      (next (fate.answer s.clock s.server c).1)).Paced latency (s.answered n j fate c next) x' := by
  have hkeeps := h.keeps
  rw [hrest] at hkeeps
  have hsince : (j.proceed s.clock c (fate.answer s.clock s.server c).1
      (next (fate.answer s.clock s.server c).1)).since = j.since := by
    rw [Job.proceed, if_pos hrequest]
  obtain ⟨hfresh, hheld, hrenewed⟩ := hholds
  refine ⟨hkeeps.2 _ x' hnext, fun due hdue => ?_, ?_, hfresh, hheld, fun hme => ?_⟩
  · rw [Job.deadline_waiting hrequest, hsince] at hdue
    refine h.onTime due ?_
    rw [Job.deadline_call hheard hrest, hcost]
    exact hdue
  · have hbefore := h.latest
    rw [Job.upTo_heard hheard] at hbefore
    rw [Job.upTo_waiting hrequest, hsince, hlatest]
    omega
  · obtain ⟨hholding, hcounted⟩ := h.active hme
    exact ⟨hholding, hrenewed hcounted⟩

end Job.Paced

/-- A write succeeds only if it has been carried out. -/
theorem Fate.write_effect (fate : Fate) (clock : Int) (s : LeaseServer) {c : LeaseCall}
    {spec : Option LeaseSpec} (hwritten : c.written? = some spec) :
    (fate.answer clock s c).2 = s ∧ ¬ c.Succeeds (fate.answer clock s c).1 ∨
      (fate.answer clock s c).2 = s.store spec := by
  by_cases hok : c.Succeeds (fate.answer clock s c).1
  · obtain ⟨spec', hcarries, hstore⟩ := fate.answer_succeeds clock s c hok
    obtain rfl : spec' = spec := Option.some.inj (hcarries.written.symm.trans hwritten)
    exact Or.inr hstore
  · obtain hsame | ⟨spec', hcarries, hstore⟩ := fate.answer_effect clock s c
    · exact Or.inl ⟨hsame, hok⟩
    · obtain rfl : spec' = spec := Option.some.inj (hcarries.written.symm.trans hwritten)
      exact Or.inr hstore

namespace Contest

/-- The replica whose job has the number `n`. -/
def replica? (s : Contest) (n : Nat) : Option String := (s.jobs.get? n).map (·.me)

/-- Every job keeps its pace and reads a clock that is not ahead, each replica does one thing at a
time, and one that is about to hold the Lease has just acquired it. -/
structure Timely (latency : Nat) (s : Contest) : Prop where
  sound : s.Sound
  read : ∀ n j, s.jobs.get? n = some j → ∀ t, j.known.reading = some t → t ≤ s.clock
  dated : ∀ spec t, s.server.lease = some (some spec) → spec.renewTime = some t → t ≤ s.clock
  paced : ∀ n j, s.jobs.get? n = some j → ∃ x, j.Paced latency s x
  single : ∀ n m me, s.replica? n = some me → s.replica? m = some me → n = m
  idle : ∀ me ∈ s.active, (∀ n, s.replica? n ≠ some me) →
    ∃ t, heldSince s.server me = some t ∧ s.clock ≤ t + 2 * latency

section

variable {latency : Nat} {s : Contest} {n : Nat} {j : Job}

theorem replica?_of_job (hjob : s.jobs.get? n = some j) : s.replica? n = some j.me := by
  rw [replica?, hjob, Option.map_some]

/-- A job moves on, and is the same replica's. -/
theorem replica?_withJob (hjob : s.jobs.get? n = some j) (i : Job) (hme : i.me = j.me) (m : Nat) :
    (s.withJob n i).replica? m = s.replica? m := by
  by_cases hm : m = n
  · subst hm
    rw [replica?_of_job hjob, replica?, withJob, Dict.get?_insert_self, Option.map_some, hme]
  · rw [replica?, withJob, Dict.get?_insert_ne _ hm]
    rfl

/-- Nobody writes over a Lease that is held and has not lapsed, but its holder. -/
theorem Timely.undisturbed (h : s.Timely latency) (hjob : s.jobs.get? n = some j) {c : LeaseCall}
    {next : c.Reply → LeaseProgram Bool} (hrest : j.rest = .call c next)
    {spec : Option LeaseSpec} (hcarries : s.server.Carries c spec) {me : String} {t : Int}
    (hheld : heldSince s.server me = some t) (hclock : s.clock < t + lapse) : j.me = me := by
  by_contra hne
  have hupheld := h.sound.upheld n j hjob
  have hkeeps := hupheld.keeps
  rw [hrest] at hkeeps
  obtain ⟨hcurrent, new, -, hwrites⟩ := hkeeps.1.carried hupheld.dated hcarries
  obtain ⟨old, hlease, hholder, ht⟩ := heldSince_eq_some hheld
  have hstands : s.server.current = some ⟨s.server.versionText, some old⟩ := by
    rw [LeaseServer.current, hlease, Option.map_some]
  have hstanding := h.sound.standing
  rw [← hcurrent, hstands] at hwrites
  rw [hstands] at hstanding
  obtain ⟨old', hold, htidy⟩ := hstanding
  obtain rfl : old = old' := Option.some.inj hold
  -- another replica could only take over, and its clock is not ahead of the one that all see
  obtain ⟨now, t', hnow, ht', hlate⟩ := hwrites.waited rfl htidy (Ne.symm hne) hholder
  obtain rfl : t = t' := Option.some.inj (ht.symm.trans ht')
  have hpast := h.read n j hjob now hnow
  unfold lapse at hclock
  omega

/-- The call of another replica leaves the Lease with its holder. -/
theorem Timely.heldSince_answer (h : s.Timely latency) (hjob : s.jobs.get? n = some j)
    {c : LeaseCall} {next : c.Reply → LeaseProgram Bool} (hrest : j.rest = .call c next)
    (fate : Fate) {me : String} (hne : j.me ≠ me) {t : Int} (hclock : s.clock < t + lapse)
    (hheld : heldSince s.server me = some t) :
    heldSince (s.answered n j fate c next).server me = some t := by
  obtain hsame | ⟨spec, hcarries, -⟩ := fate.answer_effect s.clock s.server c
  · show heldSince (fate.answer s.clock s.server c).2 me = some t
    rw [hsame]
    exact hheld
  · exact absurd (h.undisturbed hjob hrest hcarries hheld hclock) hne

/-! ### What each act keeps -/

/-- A replica that begins counts on the Lease that it has just acquired, or on none. -/
theorem Timely.begins {me : String} {errand : Errand} (h : s.Timely latency)
    (hlatency : 4 * (latency : Int) + renewInterval < lapse) (hfits : errand.Fits me s.active)
    (halone : ∀ m, s.replica? m ≠ some me) :
    ∃ x : Pace, x.latest = s.clock ∧ errand.Begins latency x ∧
      (∀ t, x.renewed = some t → s.clock < t + lapse ∧ heldSince s.server me = some t) ∧
      (me ∈ s.active → (∃ k, errand = .holding k) ∧ x.renewed ≠ none) := by
  have hnone : ∀ t, (⟨s.clock, none⟩ : Pace).renewed = some t →
      s.clock < t + lapse ∧ heldSince s.server me = some t := by
    intro t ht
    cases ht
  cases errand with
  | trying => exact hfits.elim
  | renewing => exact hfits.elim
  | releasing => exact ⟨⟨s.clock, none⟩, rfl, rfl, hnone, fun hme => absurd hme hfits⟩
  | acquiring attempts => exact ⟨⟨s.clock, none⟩, rfl, rfl, hnone, fun hme => absurd hme hfits⟩
  | holding renewals =>
      obtain ⟨t, ht, hclock⟩ := h.idle me hfits halone
      refine ⟨⟨s.clock, some t⟩, rfl, ⟨t, rfl, hclock⟩, fun t' ht' => ?_,
        fun _ => ⟨⟨renewals, rfl⟩, Option.some_ne_none t⟩⟩
      obtain rfl : t = t' := Option.some.inj ht'
      exact ⟨by omega, ht⟩

theorem Timely.begin {me : String} {errand : Errand} (h : s.Timely latency)
    (hlatency : 4 * (latency : Int) + renewInterval < lapse)
    (hstep : s.Step (.begin n me errand) (s.withJob n (Job.start me errand s.clock)))
    (hfree : s.jobs.get? n = none) (hfits : errand.Fits me s.active)
    (halone : ∀ i ∈ s.jobs.values, i.me ≠ me) :
    (s.withJob n (Job.start me errand s.clock)).Timely latency := by
  have halone' : ∀ m, s.replica? m ≠ some me := by
    intro m hm
    obtain ⟨i, hi, hsame⟩ := Option.map_eq_some_iff.mp hm
    exact halone i (Dict.mem_values.mpr ⟨m, hi⟩) hsame
  have hreplica : ∀ m, m ≠ n →
      (s.withJob n (Job.start me errand s.clock)).replica? m = s.replica? m := by
    intro m hm
    rw [replica?, withJob, Dict.get?_insert_ne _ hm]
    rfl
  have hown : (s.withJob n (Job.start me errand s.clock)).replica? n = some me := by
    rw [replica?, withJob, Dict.get?_insert_self]
    rfl
  refine ⟨h.sound.step hstep, fun m i hi => ?_, h.dated, fun m i hi => ?_,
    fun m k who hm hk => ?_, fun who hwho hnone => ?_⟩
  · obtain ⟨-, rfl⟩ | ⟨-, hi⟩ := get?_withJob hi
    · intro t ht
      cases ht
    · exact h.read m i hi
  · obtain ⟨-, rfl⟩ | ⟨-, hi⟩ := get?_withJob hi
    · obtain ⟨x, hlatest, hx, hheld, hactive⟩ := h.begins hlatency hfits halone'
      refine ⟨x, errand.program_paced hlatency hx, fun due hdue => ?_, Int.le_of_eq hlatest.symm,
        fun t ht => ?_, fun t ht => ⟨t, Int.le_refl t, (hheld t ht).2⟩, hactive⟩
      · exact Job.Paced.onTime_heard (s := s) rfl rfl hdue
      · rw [hlatest]
        exact (hheld t ht).1
    · obtain ⟨x, hx⟩ := h.paced m i hi
      exact ⟨x, hx.aside rfl (fun _ _ hheld => hheld) id⟩
  · -- of two jobs of one replica neither is the new one, unless both are
    by_cases hmn : m = n <;> by_cases hkn : k = n
    · rw [hmn, hkn]
    · rw [hmn, hown, Option.some.injEq] at hm
      rw [hreplica k hkn, ← hm] at hk
      exact absurd hk (halone' k)
    · rw [hkn, hown, Option.some.injEq] at hk
      rw [hreplica m hmn, ← hk] at hm
      exact absurd hm (halone' m)
    · rw [hreplica m hmn] at hm
      rw [hreplica k hkn] at hk
      exact h.single m k who hm hk
  · refine h.idle who hwho fun m hm => ?_
    by_cases hmn : m = n
    · rw [hmn, replica?, hfree] at hm
      cases hm
    · exact hnone m (by rw [hreplica m hmn]; exact hm)

/-- A job keeps its pace with its own calls. -/
theorem Timely.paced_answer (h : s.Timely latency) {x : Pace} (hx : j.Paced latency s x)
    {c : LeaseCall} {next : c.Reply → LeaseProgram Bool} (hrest : j.rest = .call c next)
    (hheard : j.waiting = false) {fate : Fate} (hclock : fate.trueClock = true) :
    ∃ x', (j.proceed s.clock c (fate.answer s.clock s.server c).1
      (next (fate.answer s.clock s.server c).1)).Paced latency (s.answered n j fate c next) x' := by
  have hkeeps := hx.keeps
  rw [hrest] at hkeeps
  have hdue := hx.onTime _ (Job.deadline_call hheard hrest)
  have hlatest := hx.latest
  rw [Job.upTo_heard hheard] at hlatest
  cases c with
  | now =>
      have hreading := Fate.answer_now hclock s.clock s.server
      have hnow : s.clock ≤ j.since + (0 : Nat) := hdue
      have hbefore : s.clock ≤ x.latest := by omega
      refine ⟨⟨s.clock, x.renewed⟩, hx.local_answer hrest rfl (by rw [hreading]) ?_
        (Int.le_refl _) rfl fun t ht => hx.clock_lt ht⟩
      rw [hreading]
      refine ⟨hbefore, fun t ht => ?_, rfl⟩
      obtain ⟨t', hle, hheld⟩ := hx.held t ht
      obtain ⟨spec, hspec, -, ht'⟩ := heldSince_eq_some hheld
      exact Int.le_trans hle (h.dated spec t' hspec ht')
  | sleep milliseconds =>
      have hwoken : s.clock ≤ j.since + milliseconds := hdue
      refine ⟨⟨x.latest + milliseconds, x.renewed⟩, hx.local_answer hrest rfl rfl rfl ?_ rfl
        hkeeps.1.inTime⟩
      show s.clock ≤ x.latest + milliseconds
      omega
  | get =>
      refine ⟨⟨x.latest + latency, x.renewed⟩, hx.request_answer hrest hheard rfl rfl rfl rfl
        ⟨hkeeps.1.inTime, ?_, id⟩⟩
      rw [fate.answer_get]
      exact hx.held
  | create spec =>
      refine ⟨x.wrote latency j.me (some spec) (fate.answer s.clock s.server (.create spec)).1,
        hx.request_answer hrest hheard rfl rfl rfl ?_ ?_⟩
      · cases (fate.answer s.clock s.server (.create spec)).1 <;> rfl
      · exact Pace.wrote_holds hkeeps.1 rfl rfl hx.held (fate.write_effect s.clock s.server rfl)
  | replace version spec =>
      refine ⟨x.wrote latency j.me spec (fate.answer s.clock s.server (.replace version spec)).1,
        hx.request_answer hrest hheard rfl rfl rfl ?_ ?_⟩
      · cases (fate.answer s.clock s.server (.replace version spec)).1 <;> rfl
      · exact Pace.wrote_holds hkeeps.1 rfl rfl hx.held (fate.write_effect s.clock s.server rfl)

/-- What is written is dated no later than the clock. -/
theorem Timely.dated_answer (h : s.Timely latency) (hjob : s.jobs.get? n = some j)
    {c : LeaseCall} {next : c.Reply → LeaseProgram Bool} (hrest : j.rest = .call c next)
    (fate : Fate) (spec : LeaseSpec) (t : Int)
    (hspec : (fate.answer s.clock s.server c).2.lease = some (some spec))
    (ht : spec.renewTime = some t) : t ≤ s.clock := by
  obtain hsame | ⟨written, hcarries, hstore⟩ := fate.answer_effect s.clock s.server c
  · rw [hsame] at hspec
    exact h.dated spec t hspec ht
  · have hupheld := h.sound.upheld n j hjob
    have hkeeps := hupheld.keeps
    rw [hrest] at hkeeps
    obtain ⟨hcurrent, new, rfl, hwrites⟩ := hkeeps.1.carried hupheld.dated hcarries
    rw [hstore] at hspec
    obtain rfl : new = spec := Option.some.inj (Option.some.inj hspec)
    obtain hnow | ⟨lease, old, hread, hold, hsame⟩ := hwrites.renewTime
    · exact h.read n j hjob t (hnow.symm.trans ht)
    · have hlease : s.server.lease = some (some old) := by
        rw [hread] at hcurrent
        obtain ⟨stored, hstored, rfl⟩ := Option.map_eq_some_iff.mp hcurrent
        exact hstored.trans (congrArg some hold)
      exact h.dated old t hlease (hsame.symm.trans ht)

theorem Timely.call (h : s.Timely latency) {fate : Fate} {c : LeaseCall}
    {next : c.Reply → LeaseProgram Bool}
    (hstep : s.Step (.call n fate) (s.answered n j fate c next))
    (hlatency : 2 * (latency : Int) < lapse) (hjob : s.jobs.get? n = some j)
    (hrest : j.rest = .call c next) (hheard : j.waiting = false)
    (hclock : fate.trueClock = true) : (s.answered n j fate c next).Timely latency := by
  have hreplica : ∀ m, (s.answered n j fate c next).replica? m = s.replica? m := by
    intro m
    exact replica?_withJob hjob (j.proceed s.clock c (fate.answer s.clock s.server c).1
      (next (fate.answer s.clock s.server c).1)) rfl m
  refine ⟨h.sound.step hstep, fun m i hi t ht => ?_, h.dated_answer hjob hrest fate,
    fun m i hi => ?_, fun m k who hm hk => ?_, fun who hwho hnone => ?_⟩
  · obtain ⟨-, rfl⟩ | ⟨-, hi⟩ := get?_withJob hi
    · cases c with
      | now =>
          obtain rfl : (fate.answer s.clock s.server .now).1 = t := Option.some.inj ht
          rw [Fate.answer_now hclock]
          exact Int.le_refl s.clock
      | sleep milliseconds => exact h.read n j hjob t ht
      | get =>
          refine h.read n j hjob t ?_
          cases hfound : (fate.answer s.clock s.server .get).1 <;> rw [hfound] at ht <;> exact ht
      | create spec => exact h.read n j hjob t ht
      | replace version spec => exact h.read n j hjob t ht
    · exact h.read m i hi t ht
  · obtain ⟨-, rfl⟩ | ⟨hmn, hi⟩ := get?_withJob hi
    · obtain ⟨x, hx⟩ := h.paced n j hjob
      exact h.paced_answer hx hrest hheard hclock
    · obtain ⟨x, hx⟩ := h.paced m i hi
      have hne : j.me ≠ i.me := by
        intro hsame
        refine hmn (h.single m n i.me (replica?_of_job hi) ?_)
        rw [← hsame]
        exact replica?_of_job hjob
      exact ⟨x, hx.aside rfl (fun _ => h.heldSince_answer hjob hrest fate hne) id⟩
  · rw [hreplica] at hm hk
    exact h.single m k who hm hk
  · have hnone' : ∀ m, s.replica? m ≠ some who := by
      intro m hm
      exact hnone m (by rw [hreplica m]; exact hm)
    obtain ⟨t, ht, hlate⟩ := h.idle who hwho hnone'
    -- the call is another replica's, since whoever is idle has no job
    have hne : j.me ≠ who := by
      intro hsame
      exact hnone' n (hsame ▸ replica?_of_job hjob)
    have hlt : s.clock < t + lapse := by omega
    exact ⟨t, h.heldSince_answer hjob hrest fate hne hlt ht, hlate⟩

theorem Timely.hear (h : s.Timely latency)
    (hstep : s.Step (.hear n) (s.withJob n (j.hear s.clock))) (hjob : s.jobs.get? n = some j)
    (hwaiting : j.waiting = true) : (s.withJob n (j.hear s.clock)).Timely latency := by
  have hreplica : ∀ m, (s.withJob n (j.hear s.clock)).replica? m = s.replica? m :=
    replica?_withJob hjob (j.hear s.clock) rfl
  refine ⟨h.sound.step hstep, fun m i hi t ht => ?_, h.dated, fun m i hi => ?_,
    fun m k who hm hk => ?_, fun who hwho hnone => h.idle who hwho fun m hm => ?_⟩
  · obtain ⟨-, rfl⟩ | ⟨-, hi⟩ := get?_withJob hi
    · exact h.read n j hjob t ht
    · exact h.read m i hi t ht
  · obtain ⟨-, rfl⟩ | ⟨-, hi⟩ := get?_withJob hi
    · obtain ⟨x, hx⟩ := h.paced n j hjob
      refine ⟨x, hx.keeps, fun due hdue => Job.Paced.onTime_heard (s := s) rfl rfl hdue, ?_,
        hx.fresh, hx.held, hx.active⟩
      have hdue := hx.onTime _ (Job.deadline_waiting hwaiting)
      have hlatest := hx.latest
      rw [Job.upTo_waiting hwaiting] at hlatest
      exact Int.le_trans hdue hlatest
    · obtain ⟨x, hx⟩ := h.paced m i hi
      exact ⟨x, hx.aside rfl (fun _ _ hheld => hheld) id⟩
  · rw [hreplica] at hm hk
    exact h.single m k who hm hk
  · exact hnone m (by rw [hreplica m]; exact hm)

/-- Whoever has just acquired the Lease holds it, and it is fresh. -/
theorem Timely.acquired (h : s.Timely latency) (hjob : s.jobs.get? n = some j)
    (hacquiring : ∃ k, j.errand = .acquiring k) (hwon : j.result? = some true) :
    ∃ t, heldSince s.server j.me = some t ∧ s.clock ≤ t + 2 * latency := by
  obtain ⟨x, hx⟩ := h.paced n j hjob
  obtain ⟨k, herrand⟩ := hacquiring
  have hdone : j.rest = .done true ∧ j.waiting = false := by
    unfold Job.result? at hwon
    split at hwon
    · rename_i b hrest
      split at hwon
      · cases hwon
      · rename_i hheard
        obtain rfl : b = true := Option.some.inj hwon
        exact ⟨hrest, Bool.eq_false_of_not_eq_true hheard⟩
    · cases hwon
  obtain ⟨hrest, hheard⟩ := hdone
  have hkeeps := hx.keeps
  rw [hrest, herrand] at hkeeps
  obtain ⟨t, ht, hfresh⟩ := hkeeps rfl
  obtain ⟨t', hle, hheld⟩ := hx.held t ht
  have hdue := hx.onTime _ (Job.deadline_done hheard hrest)
  have hlatest := hx.latest
  rw [Job.upTo_heard hheard] at hlatest
  exact ⟨t', hheld, by omega⟩

/-- Whoever is active once a job is over was active before, or has just acquired the Lease; and the
replica that is no longer holding it is not. -/
theorem mem_activeAfter {who : String} (hwho : who ∈ s.activeAfter j) :
    (who = j.me ∧ (∃ k, j.errand = .acquiring k) ∧ j.result? = some true) ∨
      who ∈ s.active ∧ (who = j.me → ∀ k, j.errand ≠ .holding k) := by
  unfold activeAfter at hwho
  cases herrand : j.errand with
  | acquiring k =>
      simp only [herrand] at hwho
      split at hwho
      · rename_i hwon
        obtain hme | hbefore := Finset.mem_insert.mp hwho
        · exact Or.inl ⟨hme, ⟨k, rfl⟩, hwon⟩
        · exact Or.inr ⟨hbefore, fun _ _ => nofun⟩
      · exact Or.inr ⟨hwho, fun _ _ => nofun⟩
  | holding k =>
      simp only [herrand] at hwho
      obtain ⟨hne, hbefore⟩ := Finset.mem_erase.mp hwho
      exact Or.inr ⟨hbefore, fun hme => absurd hme hne⟩
  | trying =>
      simp only [herrand] at hwho
      exact Or.inr ⟨hwho, fun _ _ => nofun⟩
  | renewing =>
      simp only [herrand] at hwho
      exact Or.inr ⟨hwho, fun _ _ => nofun⟩
  | releasing =>
      simp only [herrand] at hwho
      exact Or.inr ⟨hwho, fun _ _ => nofun⟩

theorem Timely.finish (h : s.Timely latency) (hstep : s.Step (.finish n) (s.without n j))
    (hjob : s.jobs.get? n = some j) : (s.without n j).Timely latency := by
  have hreplica : ∀ {m who}, (s.without n j).replica? m = some who →
      m ≠ n ∧ s.replica? m = some who := by
    intro m who hm
    obtain ⟨i, hi, rfl⟩ := Option.map_eq_some_iff.mp hm
    obtain ⟨hmn, hi⟩ := get?_without hi
    exact ⟨hmn, replica?_of_job hi⟩
  refine ⟨h.sound.step hstep, fun m i hi => h.read m i (get?_without hi).2, h.dated,
    fun m i hi => ?_, fun m k who hm hk => ?_, fun who hwho hnone => ?_⟩
  · obtain ⟨hmn, hi⟩ := get?_without hi
    obtain ⟨x, hx⟩ := h.paced m i hi
    refine ⟨x, hx.aside rfl (fun _ _ hheld => hheld) fun hme => ?_⟩
    obtain ⟨hsame, -⟩ | ⟨hbefore, -⟩ := mem_activeAfter hme
    · refine absurd (h.single m n i.me (replica?_of_job hi) ?_) hmn
      rw [hsame]
      exact replica?_of_job hjob
    · exact hbefore
  · exact h.single m k who (hreplica hm).2 (hreplica hk).2
  · obtain ⟨rfl, hacquiring, hwon⟩ | ⟨hbefore, hnot⟩ := mem_activeAfter hwho
    · exact h.acquired hjob hacquiring hwon
    · -- an active replica that is at a job holds the Lease, and then it is active no more
      have hne : who ≠ j.me := by
        rintro rfl
        obtain ⟨x, hx⟩ := h.paced n j hjob
        obtain ⟨⟨k, hholding⟩, -⟩ := hx.active hbefore
        exact hnot rfl k hholding
      refine h.idle who hbefore fun m hm => ?_
      have hmn : m ≠ n := by
        rintro rfl
        exact hne (Option.some.inj (hm.symm.trans (replica?_of_job hjob)))
      refine hnone m ?_
      rw [replica?, without, Dict.get?_erase_ne _ hmn]
      exact hm

theorem Timely.advance (h : s.Timely latency) {milliseconds : Nat}
    (hstep : s.Step (.advance milliseconds) { s with clock := s.clock + milliseconds })
    (hbusy : ∀ me ∈ s.active, ∃ i ∈ s.jobs.values, i.me = me)
    (hdue : ∀ i ∈ s.jobs.values, ∀ due ∈ i.deadline (some latency), s.clock + milliseconds ≤ due) :
    Timely latency { s with clock := s.clock + milliseconds } := by
  refine ⟨h.sound.step hstep, fun m i hi t ht => ?_, fun spec t hspec ht => ?_, fun m i hi => ?_,
    h.single, fun who hwho hnone => ?_⟩
  · have hread := h.read m i hi t ht
    show t ≤ s.clock + milliseconds
    omega
  · have hdated := h.dated spec t hspec ht
    show t ≤ s.clock + milliseconds
    omega
  · obtain ⟨x, hx⟩ := h.paced m i hi
    exact ⟨x, hx.keeps, fun due hd => hdue i (Dict.mem_values.mpr ⟨m, hi⟩) due hd, hx.latest,
      hx.fresh, hx.held, hx.active⟩
  · -- nobody who is active is idle while time passes
    obtain ⟨i, hi, hme⟩ := hbusy who hwho
    obtain ⟨m, hm⟩ := Dict.mem_values.mp hi
    exact absurd (hme ▸ replica?_of_job hm) (hnone m)

end

/-- Whatever happens in time, everything stays in time. -/
theorem Timely.step {latency : Nat} (hlatency : 4 * (latency : Int) + renewInterval < lapse)
    {s s' : Contest} {a : Act} (h : s.Timely latency) (htimed : Timed (some latency) s a)
    (hstep : s.Step a s') : s'.Timely latency := by
  cases hstep with
  | begin hfree hme => exact h.begin hlatency (.begin hfree hme) hfree htimed.1 htimed.2
  | call hjob hrest hheard =>
      exact h.call (.call hjob hrest hheard) (by omega) hjob hrest hheard htimed.1
  | hear hjob hwaiting => exact h.hear (.hear hjob hwaiting) hjob hwaiting
  | finish hjob => exact h.finish (.finish hjob) hjob
  | advance milliseconds => exact h.advance (.advance milliseconds) htimed.1 htimed.2

theorem Fresh.timely {s : Contest} (h : s.Fresh) (latency : Nat) : s.Timely latency := by
  have hnojob : ∀ n, s.jobs.get? n = none := by
    intro n
    rw [h.noJobs]
    rfl
  have hnobody : ∀ n, s.replica? n = none := by
    intro n
    rw [replica?, hnojob, Option.map_none]
  refine ⟨h.sound, fun n j hjob => ?_, fun spec t hspec => ?_, fun n j hjob => ?_,
    fun n m me hn => ?_, fun me hme => ?_⟩
  · rw [hnojob] at hjob
    cases hjob
  · rw [h.noLease] at hspec
    cases hspec
  · rw [hnojob] at hjob
    cases hjob
  · rw [hnobody] at hn
    cases hn
  · rw [h.noneActive] at hme
    exact absurd hme (Finset.notMem_empty me)

/-- Whoever is active holds the Lease. -/
theorem Timely.held_of_active {latency : Nat} {s : Contest} (h : s.Timely latency) {me : String}
    (hme : me ∈ s.active) : ∃ t, heldSince s.server me = some t := by
  by_cases hidle : ∀ n, s.replica? n ≠ some me
  · obtain ⟨t, ht, -⟩ := h.idle me hme hidle
    exact ⟨t, ht⟩
  · obtain ⟨n, hn⟩ := not_forall_not.mp hidle
    obtain ⟨j, hjob, rfl⟩ := Option.map_eq_some_iff.mp hn
    obtain ⟨x, hx⟩ := h.paced n j hjob
    obtain ⟨t, ht⟩ := Option.ne_none_iff_exists'.mp (hx.active hme).2
    obtain ⟨t', -, hheld⟩ := hx.held t ht
    exact ⟨t', hheld⟩

/-- **At most one replica is active.** However many replicas contend for a Lease that does not exist
at first, in whichever order their calls are carried out and heard: if four requests and the sleep
between two renewals fit into the time after which a Lease lapses, no two replicas count on it at
once. -/
theorem one_active {latency : Nat} (hlatency : 4 * (latency : Int) + renewInterval < lapse)
    {s : Contest} (hfresh : s.Fresh) {acts : List Act}
    (htimed : s.Obeys (Timed (some latency)) acts) : (s.play acts).active.card ≤ 1 := by
  have htimely : (s.play acts).Timely latency :=
    play_keeps (fun h hact hstep => h.step hlatency hact hstep) (hfresh.timely latency) htimed
  refine Finset.card_le_one.mpr fun a ha b hb => ?_
  obtain ⟨t, hheld⟩ := htimely.held_of_active ha
  obtain ⟨t', hheld'⟩ := htimely.held_of_active hb
  exact heldSince_inj hheld hheld'

/-- One replica acquires the Lease and holds it for a while. A renewal fails, so it counts on the
Lease no more and releases it, and another replica acquires it. -/
def succession : List Act :=
  .begin 0 "a" (.acquiring 1) :: Act.serve 0 3 ++ .finish 0 ::
  .begin 0 "a" (.holding 2) :: .advance 10000 :: .call 0 .told :: .call 0 .told ::
  .advance 1000 :: .hear 0 :: Act.serve 0 2 ++ .advance 10000 :: .call 0 .told ::
  .call 0 (.failed .unsendable false) :: .hear 0 :: .finish 0 ::
  .begin 0 "a" .releasing :: Act.serve 0 2 ++ .finish 0 ::
  .begin 1 "b" (.acquiring 1) :: Act.serve 1 3 ++ [.finish 1]

theorem one_active_succession :
    Fresh {} ∧ ({} : Contest).Obeys (Timed (some 1000)) succession ∧
      (({} : Contest).play succession).active = {"b"} ∧
      (({} : Contest).play succession).active.card ≤ 1 := by
  have hfits : 4 * ((1000 : Nat) : Int) + renewInterval < lapse := by decide
  have hrun : ({} : Contest).Obeys (Timed (some 1000)) succession ∧
      (({} : Contest).play succession).active = {"b"} := by decide +kernel
  exact ⟨fresh_empty, hrun.1, hrun.2, one_active hfits fresh_empty hrun.1⟩

/-- One replica acquires the Lease and holds it. The answer to its first look-up takes six seconds,
and meanwhile another replica takes the Lease over. -/
def slowAnswer : List Act :=
  .begin 0 "a" (.acquiring 1) :: Act.serve 0 3 ++ .finish 0 ::
  .begin 0 "a" (.holding 1) :: .advance 10000 :: .call 0 .told :: .call 0 .told ::
  .advance 6000 :: .begin 1 "b" (.acquiring 1) :: Act.serve 1 3 ++ [.finish 1]

/-- If requests may take any time, two replicas can be active at once. -/
theorem two_active :
    ¬ ∀ (s : Contest) (acts : List Act), s.Fresh → s.Obeys (Timed none) acts →
      (s.play acts).active.card ≤ 1 := by
  intro hone
  have hrun : ({} : Contest).Obeys (Timed none) slowAnswer ∧
      (({} : Contest).play slowAnswer).active = {"a", "b"} := by decide +kernel
  have hcard := hone {} slowAnswer fresh_empty hrun.1
  rw [hrun.2] at hcard
  exact absurd hcard (by decide)

end Contest

end Election

end ServiceTunnel
