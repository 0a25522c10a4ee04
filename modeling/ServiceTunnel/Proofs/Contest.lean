import Mathlib.Data.Finset.Basic
import ServiceTunnel.Proofs.Contract
import ServiceTunnel.Proofs.Lookup
import ServiceTunnel.Simulation.LeaseServer

/-!
# ServiceTunnel.Proofs.Contest

**Replicas that contend for the Lease, call by call.** A contest is the cluster's Lease, a clock,
and what is left to do of every job under way: an attempt to take the Lease, to renew it, or to give
it up. Jobs take their calls in turn in any order. A request is carried out at some moment, and its
answer is heard later; it may fail, carried out or not. A clock may show a replica anything.

A contest goes on by acts, and is a value: `Contest.play` lets a list of acts happen, one after the
other. An act that cannot happen changes nothing. `Contest.act_cases` says what an act can do, and
`Contest.play_keeps` is the induction over acts.
-/

namespace ServiceTunnel

open Kube Simulation

/-! ### Calls on the Lease -/

namespace Kube.LeaseCall

/-- A call that goes to the cluster. -/
def isRequest : LeaseCall → Bool
  | .now | .sleep _ => false
  | .get | .create _ | .replace .. => true

/-- What the Lease is to say. -/
def written? : LeaseCall → Option (Option LeaseSpec)
  | .create spec => some (some spec)
  | .replace _ spec => some spec
  | .now | .sleep _ | .get => none

/-- A write that succeeds. -/
def Succeeds : (c : LeaseCall) → c.Reply → Prop
  | .create _, r | .replace .., r => r = .ok ()
  | .now, _ | .sleep _, _ | .get, _ => False

end Kube.LeaseCall

namespace Simulation.LeaseServer

/-- The Lease as it is stored. -/
def current (s : LeaseServer) : Option Lease := s.lease.map fun spec => ⟨s.versionText, spec⟩

/-- The writes that the cluster carries out: one that makes the Lease where there is none, and one
over the version that is there. -/
inductive Carries (s : LeaseServer) : LeaseCall → Option LeaseSpec → Prop where
  | create (spec : LeaseSpec) (hnone : s.lease = none) : Carries s (.create spec) (some spec)
  | replace (spec : Option LeaseSpec) (hsome : s.lease ≠ none) :
    Carries s (.replace s.versionText spec) spec

theorem Carries.written {s : LeaseServer} {c : LeaseCall} {spec : Option LeaseSpec}
    (h : s.Carries c spec) : c.written? = some spec := by
  cases h <;> rfl

/-- What a write does is carried out as the cluster has it, or it is refused and nothing is done. -/
theorem answerCreate_cases (s : LeaseServer) (spec : LeaseSpec) :
    (s.Carries (.create spec) (some spec) ∧ s.answerCreate spec = (.ok (), s.store (some spec))) ∨
      ∃ f, s.answerCreate spec = (.error f, s) := by
  unfold answerCreate
  split
  · exact Or.inr ⟨_, rfl⟩
  · rename_i hnone
    exact Or.inl ⟨.create spec (Option.not_isSome_iff_eq_none.mp hnone), rfl⟩

theorem answerReplace_cases (s : LeaseServer) (version : String) (spec : Option LeaseSpec) :
    (s.Carries (.replace version spec) spec ∧
        s.answerReplace version spec = (.ok (), s.store spec)) ∨
      ∃ f, s.answerReplace version spec = (.error f, s) := by
  unfold answerReplace
  split
  · exact Or.inr ⟨_, rfl⟩
  · rename_i hsome
    split
    · exact Or.inr ⟨_, rfl⟩
    · rename_i hversion
      obtain rfl := not_not.mp hversion
      exact Or.inl ⟨.replace spec fun hnone => hsome (by rw [hnone]; rfl), rfl⟩

end Simulation.LeaseServer

namespace Election

/-! ### How calls go -/

/-- How a call goes. -/
inductive Fate where
  /-- It is answered as things are. -/
  | told
  /-- The clock shows the replica another time. -/
  | misread (reading : Int)
  /-- A request fails, carried out or not. -/
  | failed (f : Failure) (carriedOut : Bool)

namespace Fate

/-- The answer to a write that the cluster takes for `truth`. -/
def settle (fate : Fate) (s : LeaseServer) (truth : Except Failure Unit × LeaseServer) :
    Except Failure Unit × LeaseServer :=
  match fate with
  | .failed f carriedOut => (.error f, if carriedOut then truth.2 else s)
  | .told | .misread _ => truth

/-- The answer to a call at the time `clock`. -/
def answer (fate : Fate) (clock : Int) (s : LeaseServer) : (c : LeaseCall) → c.Reply × LeaseServer
  | .now =>
    match fate with
    | .misread reading => (reading, s)
    | .told | .failed .. => (clock, s)
  | .sleep _ => ((), s)
  | .get =>
    match fate with
    | .failed f _ => (.error f, s)
    | .told | .misread _ => (s.answerGet, s)
  | .create spec => fate.settle s (s.answerCreate spec)
  | .replace version spec => fate.settle s (s.answerReplace version spec)

/-- A write is answered as the cluster has it, or with an error; it is carried out or not. -/
theorem settle_cases (fate : Fate) (s : LeaseServer) (truth : Except Failure Unit × LeaseServer) :
    fate.settle s truth = truth ∨
      ∃ f, fate.settle s truth = (.error f, s) ∨ fate.settle s truth = (.error f, truth.2) := by
  cases fate with
  | told => exact Or.inl rfl
  | misread reading => exact Or.inl rfl
  | failed f carriedOut =>
      cases carriedOut with
      | false => exact Or.inr ⟨f, Or.inl rfl⟩
      | true => exact Or.inr ⟨f, Or.inr rfl⟩

variable {s : LeaseServer} {c : LeaseCall} {spec : Option LeaseSpec}
  {truth : Except Failure Unit × LeaseServer}

theorem settle_effect (fate : Fate)
    (htruth : (s.Carries c spec ∧ truth = (.ok (), s.store spec)) ∨ ∃ f, truth = (.error f, s)) :
    (fate.settle s truth).2 = s ∨ s.Carries c spec ∧ (fate.settle s truth).2 = s.store spec := by
  have hdone : truth.2 = s ∨ s.Carries c spec ∧ truth.2 = s.store spec := by
    obtain ⟨hcarries, rfl⟩ | ⟨f, rfl⟩ := htruth
    · exact Or.inr ⟨hcarries, rfl⟩
    · exact Or.inl rfl
  obtain h | ⟨f, h | h⟩ := fate.settle_cases s truth <;> rw [h]
  · exact hdone
  · exact Or.inl rfl
  · exact hdone

theorem settle_ok (fate : Fate)
    (htruth : (s.Carries c spec ∧ truth = (.ok (), s.store spec)) ∨ ∃ f, truth = (.error f, s))
    (hok : (fate.settle s truth).1 = .ok ()) :
    s.Carries c spec ∧ (fate.settle s truth).2 = s.store spec := by
  obtain h | ⟨f, h | h⟩ := fate.settle_cases s truth <;> rw [h] at hok ⊢
  · obtain ⟨hcarries, rfl⟩ | ⟨f, rfl⟩ := htruth
    · exact ⟨hcarries, rfl⟩
    · cases hok
  · cases hok
  · cases hok

/-- A call leaves the Lease as it is, or writes it as the cluster carries it out. -/
theorem answer_effect (fate : Fate) (clock : Int) (s : LeaseServer) (c : LeaseCall) :
    (fate.answer clock s c).2 = s ∨
      ∃ spec, s.Carries c spec ∧ (fate.answer clock s c).2 = s.store spec := by
  cases c with
  | now => cases fate <;> exact Or.inl rfl
  | sleep ms => exact Or.inl rfl
  | get => cases fate <;> exact Or.inl rfl
  | create spec =>
      exact (fate.settle_effect (s.answerCreate_cases spec)).imp_right fun h => ⟨_, h⟩
  | replace version spec =>
      exact (fate.settle_effect (s.answerReplace_cases version spec)).imp_right fun h => ⟨_, h⟩

/-- A write that succeeds has been carried out. -/
theorem answer_succeeds (fate : Fate) (clock : Int) (s : LeaseServer) (c : LeaseCall)
    (h : c.Succeeds (fate.answer clock s c).1) :
    ∃ spec, s.Carries c spec ∧ (fate.answer clock s c).2 = s.store spec := by
  cases c with
  | now => exact h.elim
  | sleep ms => exact h.elim
  | get => exact h.elim
  | create spec => exact ⟨_, fate.settle_ok (s.answerCreate_cases spec) h⟩
  | replace version spec => exact ⟨_, fate.settle_ok (s.answerReplace_cases version spec) h⟩

/-- A look-up changes nothing. -/
theorem answer_get (fate : Fate) (clock : Int) (s : LeaseServer) :
    (fate.answer clock s .get).2 = s := by
  cases fate <;> rfl

/-- A Lease that is found is the one stored. -/
theorem answer_found (fate : Fate) (clock : Int) (s : LeaseServer) {lease : Lease}
    (h : (fate.answer clock s .get).1 = .ok lease) : s.current = some lease := by
  have hget : s.answerGet = .ok lease := by
    cases fate with
    | told => exact h
    | misread reading => exact h
    | failed f carriedOut => cases h
  unfold LeaseServer.answerGet at hget
  unfold LeaseServer.current
  cases hlease : s.lease with
  | none => rw [hlease] at hget; cases hget
  | some spec =>
      rw [hlease] at hget
      exact congrArg some (Except.ok.inj hget)

end Fate

/-! ### Jobs -/

/-- What a replica sets out to do. -/
inductive Errand where
  | trying
  | renewing
  | releasing
  | acquiring (attempts : Nat)
  | holding (renewals : Nat)
deriving DecidableEq, Repr

namespace Errand

/-- Whether an attempt has succeeded. -/
def won : Except Failure Bool → Bool
  | .ok b => b
  | .error _ => false

/-- The calls of an errand. -/
def program (me : String) : Errand → LeaseProgram Bool
  | .trying => (tryAcquire me).bind fun r => .done (won r)
  | .renewing => (renew me).bind fun r => .done (won r)
  | .releasing => (release me).bind fun () => .done true
  | .acquiring attempts => acquire me attempts
  | .holding renewals => hold me renewals

/-- An errand of a replica that does not hold the Lease yet. -/
def contends : Errand → Bool
  | .trying | .acquiring _ => true
  | .renewing | .releasing | .holding _ => false

end Errand

/-- What a job knows: what its clock last showed, and the Lease as it last found it. -/
structure Known where
  reading : Option Int := none
  read : Option Lease := none
deriving DecidableEq, Repr

/-- What is known after one more answer. -/
def Known.see (k : Known) : (c : LeaseCall) → c.Reply → Known
  | .now, reading => { k with reading := some reading }
  | .get, .ok lease => { k with read := some lease }
  | .get, .error _ => { k with read := none }
  | .sleep _, _ | .create _, _ | .replace .., _ => k

/-- An errand under way. -/
structure Job where
  me : String
  errand : Errand
  /-- What is left to do. -/
  rest : LeaseProgram Bool
  known : Known := {}
  /-- The last request has been carried out, and its answer not been heard. -/
  waiting : Bool := false
  /-- When the last answer was heard. -/
  since : Int

namespace Job

/-- An errand that begins. -/
def start (me : String) (errand : Errand) (clock : Int) : Job where
  me := me
  errand := errand
  rest := errand.program me
  since := clock

/-- A call has been answered. The answer to a request is still to be heard. -/
def proceed (j : Job) (clock : Int) (c : LeaseCall) (r : c.Reply) (rest : LeaseProgram Bool) :
    Job :=
  { j with
    rest := rest
    known := j.known.see c r
    waiting := c.isRequest
    since := if c.isRequest then j.since else clock }

/-- The answer is heard. -/
def hear (j : Job) (clock : Int) : Job := { j with waiting := false, since := clock }

/-- The result of a job that is over. -/
def result? (j : Job) : Option Bool :=
  match j.rest with
  | .done b => if j.waiting then none else some b
  | .call .. => none

end Job

/-! ### Contests -/

/-- A write that was carried out: whose it was, what was known of it, and what it made of the
Lease. -/
structure Write where
  writer : String
  errand : Errand
  known : Known
  before : Option Lease
  after : Option Lease

/-- What happens in a contest. -/
inductive Act where
  | begin (job : Nat) (me : String) (errand : Errand)
  /-- The next call of a job is carried out. -/
  | call (job : Nat) (fate : Fate)
  | hear (job : Nat)
  /-- A job is over, done or broken off. -/
  | finish (job : Nat)
  | advance (milliseconds : Nat)

/-- The next `k` calls of a job are carried out as things are, and each answer is heard at once. -/
def Act.serve (job k : Nat) : List Act :=
  (List.replicate k [Act.call job .told, Act.hear job]).flatten

/-- The Lease, the clock, and the jobs under way. A replica can be at several jobs at once. -/
structure Contest where
  server : LeaseServer := {}
  clock : Int := 0
  jobs : Dict Nat Job := ∅
  /-- The replicas that have acquired the Lease and still count on it. -/
  active : Finset String := ∅
  /-- The writes carried out, in order. -/
  writes : List Write := []

namespace Contest

/-- The writes carried out, once the Lease of a job's call is at `server`. -/
def noted (s : Contest) (j : Job) (server : LeaseServer) : List Write :=
  if server.version = s.server.version then s.writes
  else s.writes ++ [⟨j.me, j.errand, j.known, s.server.current, server.current⟩]

/-- A job is put under way, or moves on. -/
def withJob (s : Contest) (n : Nat) (j : Job) : Contest := { s with jobs := s.jobs.insert n j }

/-- A call of a job is carried out. -/
def answered (s : Contest) (n : Nat) (j : Job) (fate : Fate) (c : LeaseCall)
    (next : c.Reply → LeaseProgram Bool) : Contest :=
  let truth := fate.answer s.clock s.server c
  { s with
    server := truth.2
    jobs := s.jobs.insert n (j.proceed s.clock c truth.1 (next truth.1))
    writes := s.noted j truth.2 }

/-- Who is active when a job is over: whoever has acquired the Lease, until it holds it no more. -/
def activeAfter (s : Contest) (j : Job) : Finset String :=
  match j.errand with
  | .acquiring _ => if j.result? = some true then insert j.me s.active else s.active
  | .holding _ => s.active.erase j.me
  | .trying | .renewing | .releasing => s.active

/-- A job is over. -/
def without (s : Contest) (n : Nat) (j : Job) : Contest :=
  { s with jobs := s.jobs.erase n, active := s.activeAfter j }

/-- The next call of a job is carried out, if its last answer has been heard. -/
def called (s : Contest) (n : Nat) (fate : Fate) (j : Job) : Contest :=
  match j.rest with
  | .call c next => if j.waiting then s else s.answered n j fate c next
  | .done _ => s

/-- What an act makes of a contest. -/
def act (s : Contest) : Act → Contest
  | .begin n me errand =>
    if me ≠ "" ∧ s.jobs.get? n = none then s.withJob n (Job.start me errand s.clock) else s
  | .call n fate => (s.jobs.get? n).elim s (s.called n fate)
  | .hear n => (s.jobs.get? n).elim s fun j => if j.waiting then s.withJob n (j.hear s.clock) else s
  | .finish n => (s.jobs.get? n).elim s (s.without n)
  | .advance milliseconds => { s with clock := s.clock + milliseconds }

/-- Acts happen one after the other. -/
def play (s : Contest) (acts : List Act) : Contest := acts.foldl act s

@[simp] theorem play_cons (s : Contest) (a : Act) (acts : List Act) :
    s.play (a :: acts) = (s.act a).play acts := rfl

/-- What an act can do. -/
inductive Step (s : Contest) : Act → Contest → Prop where
  | begin {n : Nat} {me : String} {errand : Errand} (hfree : s.jobs.get? n = none)
    (hme : me ≠ "") : Step s (.begin n me errand) (s.withJob n (Job.start me errand s.clock))
  | call {n : Nat} {j : Job} {fate : Fate} {c : LeaseCall} {next : c.Reply → LeaseProgram Bool}
    (hjob : s.jobs.get? n = some j) (hrest : j.rest = .call c next) (hheard : j.waiting = false) :
    Step s (.call n fate) (s.answered n j fate c next)
  | hear {n : Nat} {j : Job} (hjob : s.jobs.get? n = some j) (hwaiting : j.waiting = true) :
    Step s (.hear n) (s.withJob n (j.hear s.clock))
  | finish {n : Nat} {j : Job} (hjob : s.jobs.get? n = some j) :
    Step s (.finish n) (s.without n j)
  | advance (milliseconds : Nat) :
    Step s (.advance milliseconds) { s with clock := s.clock + milliseconds }

/-- An act changes nothing, or does what it can do. -/
theorem act_cases (s : Contest) (a : Act) : s.act a = s ∨ s.Step a (s.act a) := by
  cases a with
  | begin n me errand =>
      rw [act]
      split
      · rename_i h
        exact Or.inr (.begin h.2 h.1)
      · exact Or.inl rfl
  | call n fate =>
      rw [act]
      cases hjob : s.jobs.get? n with
      | none => exact Or.inl rfl
      | some j =>
          rw [Option.elim_some, called]
          split
          · rename_i c next hrest
            split
            · exact Or.inl rfl
            · rename_i hheard
              exact Or.inr (.call hjob hrest (Bool.eq_false_of_not_eq_true hheard))
          · exact Or.inl rfl
  | hear n =>
      rw [act]
      cases hjob : s.jobs.get? n with
      | none => exact Or.inl rfl
      | some j =>
          rw [Option.elim_some]
          split
          · rename_i hwaiting
            exact Or.inr (.hear hjob hwaiting)
          · exact Or.inl rfl
  | finish n =>
      rw [act]
      cases hjob : s.jobs.get? n with
      | none => exact Or.inl rfl
      | some j => exact Or.inr (.finish hjob)
  | advance milliseconds => exact Or.inr (.advance milliseconds)

/-! ### Runs -/

/-- What a run may do, beyond what every run obeys. -/
abbrev Regime := Contest → Act → Prop

/-- Each act happens as the regime allows it. -/
def Obeys (R : Regime) (s : Contest) : List Act → Prop
  | [] => True
  | a :: acts => R s a ∧ Obeys R (s.act a) acts

instance decidableObeys (R : Regime) [∀ s a, Decidable (R s a)] (s : Contest) :
    (acts : List Act) → Decidable (s.Obeys R acts)
  | [] => inferInstanceAs (Decidable True)
  | a :: acts =>
    have := decidableObeys R (s.act a) acts
    inferInstanceAs (Decidable (R s a ∧ (s.act a).Obeys R acts))

/-- What everything that can happen keeps, a run keeps. -/
theorem play_keeps {R : Regime} {inv : Contest → Prop}
    (hstep : ∀ {s s' a}, inv s → R s a → s.Step a s' → inv s') {s : Contest} (h : inv s)
    {acts : List Act} (hobeys : s.Obeys R acts) : inv (s.play acts) := by
  induction acts generalizing s with
  | nil => exact h
  | cons a acts ih =>
      obtain ⟨hallowed, hrest⟩ := hobeys
      -- an act that cannot happen changes nothing, so the regime is asked only about the others
      obtain hsame | hact := s.act_cases a
      · rw [play_cons]
        rw [hsame] at hrest ⊢
        exact ih h hrest
      · exact ih (hstep h hallowed hact) hrest

/-- Without a regime everything is allowed. -/
theorem obeys_true (s : Contest) (acts : List Act) : s.Obeys (fun _ _ => True) acts := by
  induction acts generalizing s with
  | nil => exact trivial
  | cons a acts ih => exact ⟨trivial, ih (s.act a)⟩

/-- Nobody has begun, and there is no Lease. -/
structure Fresh (s : Contest) : Prop where
  noLease : s.server.lease = none
  noJobs : s.jobs = ∅
  noneActive : s.active = ∅
  unwritten : s.writes = []

theorem fresh_empty : Fresh {} := ⟨rfl, rfl, rfl, rfl⟩

/-! ### What an act leaves alone -/

variable {s : Contest} {n m : Nat} {j i : Job}

/-- A job under way after one of them has moved on is that one, or one that was under way. -/
theorem get?_withJob (h : (s.withJob n j).jobs.get? m = some i) :
    m = n ∧ i = j ∨ m ≠ n ∧ s.jobs.get? m = some i := by
  by_cases hm : m = n
  · subst hm
    rw [withJob, Dict.get?_insert_self, Option.some.injEq] at h
    exact Or.inl ⟨rfl, h.symm⟩
  · rw [withJob, Dict.get?_insert_ne _ hm] at h
    exact Or.inr ⟨hm, h⟩

theorem get?_without (h : (s.without n j).jobs.get? m = some i) :
    m ≠ n ∧ s.jobs.get? m = some i := by
  by_cases hm : m = n
  · subst hm
    rw [without, Dict.get?_erase_self] at h
    cases h
  · rw [without, Dict.get?_erase_ne _ hm] at h
    exact ⟨hm, h⟩

/-- Without a new version nothing has been written. -/
theorem noted_same (s : Contest) (j : Job) : s.noted j s.server = s.writes := if_pos rfl

theorem noted_store (s : Contest) (j : Job) (spec : Option LeaseSpec) :
    s.noted j (s.server.store spec) =
      s.writes ++ [⟨j.me, j.errand, j.known, s.server.current, (s.server.store spec).current⟩] :=
  if_neg (Nat.succ_ne_self _)

end Contest

end Election

end ServiceTunnel
