import Mathlib.Data.Set.Insert
import Mathlib.Logic.Function.Basic
import ServiceTunnel.Call

/-!
# ServiceTunnel.Proofs.Estate

**The provider as far as the operator may rely on it.** An estate holds applications, and for every
identifier of a machine or an address whether it was ever given out and what it stands for. The
provider chooses the identifiers and addresses that it gives out. It gives out no identifier twice,
it makes a machine or an address only in an application that exists, and with an application it
deletes exactly what belongs to it.

A call may fail for any reason, before it was carried out or after (`Estate.Answers`).
-/

namespace ServiceTunnel

/-! ### Identifiers -/

/-- What an identifier stands for. -/
inductive Slot (α : Type) where
  /-- It was never given out. -/
  | unissued
  /-- It stands for a thing that belongs to an application. -/
  | held (app : String) (a : α)
  /-- The thing that it stood for is gone. -/
  | gone

namespace Slot

variable {α : Type}

/-- The thing, if it belongs to `app`. -/
def of? (app : String) : Slot α → Option α
  | held owner a => if owner = app then some a else none
  | _ => none

/-- The identifier once its thing is deleted. -/
def clear : Slot α → Slot α
  | held _ _ => gone
  | s => s

/-- The identifier once everything of `app` is deleted. -/
def clearOf (app : String) : Slot α → Slot α
  | held owner a => if owner = app then gone else held owner a
  | s => s

/-- It was given out, and stands for nothing outside `app`, now or ever again. -/
def BelongsTo (app : String) : Slot α → Prop
  | unissued => False
  | held owner _ => owner = app
  | gone => True

/-- It stands for nothing outside `app`, as long as it is not given out. -/
def Within (app : String) : Slot α → Prop
  | held owner _ => owner = app
  | _ => True

theorem of?_eq_some {app : String} {s : Slot α} {a : α} : s.of? app = some a ↔ s = held app a := by
  cases s with
  | held owner b =>
      by_cases h : owner = app
      · subst h; simp [of?]
      · simp [of?, h]
  | unissued | gone => simp [of?]

@[simp] theorem of?_unissued (app : String) : (unissued : Slot α).of? app = none := rfl

@[simp] theorem of?_gone (app : String) : (gone : Slot α).of? app = none := rfl

@[simp] theorem of?_held_self (app : String) (a : α) : (held app a).of? app = some a := if_pos rfl

theorem of?_held_ne {app owner : String} (h : owner ≠ app) (a : α) :
    (held owner a).of? app = none := if_neg h

theorem held_ne_unissued (app : String) (a : α) : held app a ≠ unissued := fun h => by cases h

theorem BelongsTo.within {s : Slot α} {app : String} (h : s.BelongsTo app) : s.Within app := by
  cases s with
  | unissued | gone => exact trivial
  | held owner a => exact h

/-- What stands for a thing of one application is nothing of another. -/
theorem Within.of?_ne {s : Slot α} {app other : String} (h : s.Within app)
    (hne : app ≠ other) : s.of? other = none := by
  cases s with
  | unissued | gone => rfl
  | held owner a => exact of?_held_ne (by rw [show owner = app from h]; exact hne) a

theorem clear_ne_held (s : Slot α) (app : String) (a : α) : s.clear ≠ held app a := by
  cases s <;> simp [clear]

theorem clearOf_eq_held {app owner : String} {s : Slot α} {a : α} :
    s.clearOf app = held owner a ↔ s = held owner a ∧ owner ≠ app := by
  cases s with
  | unissued | gone => simp [clearOf]
  | held owner' b =>
      by_cases h : owner' = app
      · subst h
        simp only [clearOf, if_true, reduceCtorEq, held.injEq, false_iff, not_and, ne_eq, not_not]
        intro hheld
        exact hheld.1.symm
      · simp only [clearOf, h, if_false, held.injEq]
        constructor
        · intro hheld
          obtain ⟨rfl, rfl⟩ := hheld
          exact ⟨⟨rfl, rfl⟩, h⟩
        · exact And.left

/-! ### What one call does to an identifier -/

/-- A change of what an identifier stands for, within one application: it is given out, if `makes`,
or its thing changes, or its thing goes. -/
inductive Moves (app : String) (makes : Prop) : Slot α → Slot α → Prop where
  | stays (s : Slot α) : Moves app makes s s
  | issued (hmakes : makes) (a : α) : Moves app makes unissued (held app a)
  | changed (a b : α) : Moves app makes (held app a) (held app b)
  | dropped (a : α) : Moves app makes (held app a) gone

/-- An identifier never passes from one application to another. -/
theorem Moves.belongsTo {owner app : String} {makes : Prop} {s s' : Slot α}
    (h : Moves owner makes s s') (hs : s.BelongsTo app) : s'.BelongsTo app := by
  cases h with
  | stays => exact hs
  | issued hmakes a => exact absurd hs id
  | changed a b => exact hs
  | dropped a => exact trivial

/-- What is made in an application stays within it. -/
theorem Moves.within {owner app : String} {makes : Prop} {s s' : Slot α}
    (h : Moves owner makes s s') (hmakes : makes → owner = app) (hs : s.Within app) :
    s'.Within app := by
  cases h with
  | stays => exact hs
  | issued hmade a => exact hmakes hmade
  | changed a b => exact hs
  | dropped a => exact trivial

/-- A change within one application is none to another. -/
theorem Moves.of?_ne {owner app : String} {makes : Prop} {s s' : Slot α}
    (h : Moves owner makes s s') (hne : owner ≠ app) : s'.of? app = s.of? app := by
  cases h with
  | stays => rfl
  | issued hmakes a => rw [of?_held_ne hne, of?_unissued]
  | changed a b => rw [of?_held_ne hne, of?_held_ne hne]
  | dropped a => rw [of?_held_ne hne, of?_gone]

/-- What an application has after a change that makes nothing, it had before. -/
theorem Moves.of?_before {owner app : String} {makes : Prop} {s s' : Slot α} {a : α}
    (h : Moves owner makes s s') (hmakes : ¬ makes) (ha : s'.of? app = some a) :
    ∃ b, s.of? app = some b := by
  rw [of?_eq_some] at ha
  cases h with
  | stays => exact ⟨a, of?_eq_some.mpr ha⟩
  | issued hmade b => exact absurd hmade hmakes
  | changed b b' => cases ha; exact ⟨b, of?_held_self _ b⟩
  | dropped b => cases ha

theorem moves_clear (s : Slot α) : ∃ owner, ∀ makes, Moves owner makes s s.clear := by
  cases s with
  | unissued => exact ⟨"", fun _ => .stays _⟩
  | held owner a => exact ⟨owner, fun _ => .dropped a⟩
  | gone => exact ⟨"", fun _ => .stays _⟩

theorem moves_clearOf (app : String) (makes : Prop) (s : Slot α) :
    Moves app makes s (s.clearOf app) := by
  cases s with
  | unissued => exact .stays _
  | held owner a =>
      by_cases h : owner = app
      · subst h
        rw [clearOf, if_pos rfl]
        exact .dropped a
      · rw [clearOf, if_neg h]
        exact .stays _
  | gone => exact .stays _

end Slot

/-! ### What a call is about -/

/-- An identifier that was given out, of a machine or of an address. -/
inductive Title where
  | machine (id : String)
  | ip (id : String)

namespace ProviderCall

/-- The application that a call names. -/
def app : ProviderCall → String
  | .ensureApp app _ | .deleteApp app | .createMachine app _ | .getMachine app _
  | .updateMachine app _ _ | .deleteMachine app _ | .waitForMachine app _ _ _ _ | .allocateIp app
  | .releaseIp app _ | .listIps app => app

/-- The identifiers that a call acts on, whatever application they belong to. -/
def uses : ProviderCall → Set Title
  | .deleteMachine _ id | .waitForMachine _ id _ _ _ => {.machine id}
  | .releaseIp _ id => {.ip id}
  | _ => ∅

end ProviderCall

/-! ### The estate -/

/-- What exists at the provider. -/
structure Estate where
  apps : Set String
  machines : String → Slot Machine
  ips : String → Slot IpAddress

namespace Estate

/-- The machine `id` of an application. -/
def machineOf? (e : Estate) (app id : String) : Option Machine := (e.machines id).of? app

/-- The address `id` of an application. -/
def ipOf? (e : Estate) (app id : String) : Option IpAddress := (e.ips id).of? app

/-- What exists at the provider in the name of an application: the application itself, a machine
of it, or an address of it. -/
def Bears (e : Estate) (app : String) : Prop :=
  app ∈ e.apps ∨ (∃ id m, e.machineOf? app id = some m) ∨ ∃ id ip, e.ipOf? app id = some ip

/-- What the identifier of a machine stands for, changed. -/
def setMachine (e : Estate) (id : String) (s : Slot Machine) : Estate :=
  { e with machines := Function.update e.machines id s }

/-- What the identifier of an address stands for, changed. -/
def setIp (e : Estate) (id : String) (s : Slot IpAddress) : Estate :=
  { e with ips := Function.update e.ips id s }

/-- The same applications, machines and addresses exist. -/
structure Same (e e' : Estate) : Prop where
  apps : e'.apps = e.apps
  machines : e'.machineOf? = e.machineOf?
  ips : e'.ipOf? = e.ipOf?

/-- The same exists of every application but one. -/
structure Beside (app : String) (e e' : Estate) : Prop where
  apps : ∀ other, app ≠ other → (other ∈ e'.apps ↔ other ∈ e.apps)
  machines : ∀ other, app ≠ other → e'.machineOf? other = e.machineOf? other
  ips : ∀ other, app ≠ other → e'.ipOf? other = e.ipOf? other

/-- The estate without an application and everything that belongs to it. -/
def withoutApp (e : Estate) (app : String) : Estate where
  apps := e.apps \ {app}
  machines id := (e.machines id).clearOf app
  ips id := (e.ips id).clearOf app

/-- A machine as it is made at a request. -/
def MadeAs (m : Machine) (input : MachineInput) : Prop :=
  m.name = input.name ∧ m.region = input.region ∧ m.config = input.config

/-- The call is carried out with an answer, and leaves the estate `e'`. -/
def Carries (e : Estate) : (c : ProviderCall) → c.Result → Estate → Prop
  | .ensureApp app _, _, e' => e' = { e with apps := insert app e.apps }
  | .deleteApp app, _, e' => e' = e.withoutApp app
  | .createMachine app input, m, e' =>
    app ∈ e.apps ∧ e.machines m.id = .unissued ∧ MadeAs m input ∧
      e' = e.setMachine m.id (.held app m)
  | .getMachine app id, m, e' => e.machineOf? app id = some m ∧ e' = e
  | .updateMachine app id input, m, e' =>
    ∃ old, e.machineOf? app id = some old ∧
      m = { old with config := input.config, region := input.region } ∧
      e' = e.setMachine id (.held app m)
  | .deleteMachine _ id, _, e' => e' = e.setMachine id (e.machines id).clear
  | .waitForMachine _ id _ state _, _, e' =>
    ∃ owner m, e.machines id = .held owner m ∧
      e' = e.setMachine id (.held owner { m with state := state })
  | .allocateIp app, ip, e' =>
    app ∈ e.apps ∧ e.ips ip.id = .unissued ∧ e' = e.setIp ip.id (.held app ip)
  | .releaseIp _ id, _, e' => e' = e.setIp id (e.ips id).clear
  | .listIps app, ips, e' =>
    app ∈ e.apps ∧ (∀ ip, ip ∈ ips ↔ e.ipOf? app ip.id = some ip) ∧ e' = e

/-- The call is answered, and leaves the estate `e'`. A call that fails may yet have been carried
out. -/
def Answers (e : Estate) (c : ProviderCall) (r : Except ProviderError c.Result) (e' : Estate) :
    Prop :=
  match r with
  | .ok a => e.Carries c a e'
  | .error _ => e' = e ∨ ∃ a, e.Carries c a e'

/-- However a call ends, the estate is as before, or as the call leaves it. -/
theorem Answers.effect {e e' : Estate} {c : ProviderCall} {r : Except ProviderError c.Result}
    (h : e.Answers c r e') : e' = e ∨ ∃ a, e.Carries c a e' := by
  cases r with
  | ok a => exact Or.inr ⟨a, h⟩
  | error x => exact h

@[simp] theorem machines_setMachine_self (e : Estate) (id : String) (s : Slot Machine) :
    (e.setMachine id s).machines id = s := Function.update_self _ _ _

theorem machines_setMachine_ne (e : Estate) {id other : String} (h : other ≠ id)
    (s : Slot Machine) : (e.setMachine id s).machines other = e.machines other :=
  Function.update_of_ne h _ _

@[simp] theorem ips_setIp_self (e : Estate) (id : String) (s : Slot IpAddress) :
    (e.setIp id s).ips id = s := Function.update_self _ _ _

theorem ips_setIp_ne (e : Estate) {id other : String} (h : other ≠ id)
    (s : Slot IpAddress) : (e.setIp id s).ips other = e.ips other :=
  Function.update_of_ne h _ _

/-! ### What one call does to the estate -/

/-- A call changes a machine of the application that it names, or the one that it acts on. -/
theorem Carries.machine_moves {e e' : Estate} {c : ProviderCall} {r : c.Result}
    (h : e.Carries c r e') (id : String) :
    ∃ owner, Slot.Moves owner (∃ input, c = .createMachine owner input) (e.machines id)
        (e'.machines id) ∧ (.machine id ∈ c.uses ∨ owner = c.app) := by
  cases c with
  | ensureApp app org => cases h; exact ⟨app, .stays _, Or.inr rfl⟩
  | deleteApp app => cases h; exact ⟨app, Slot.moves_clearOf app _ _, Or.inr rfl⟩
  | createMachine app input =>
      obtain ⟨-, hnew, -, rfl⟩ := h
      refine ⟨app, ?_, Or.inr rfl⟩
      by_cases hid : id = r.id
      · rw [hid, hnew, machines_setMachine_self]; exact .issued ⟨input, rfl⟩ _
      · rw [machines_setMachine_ne _ hid]; exact .stays _
  | getMachine app at_ => obtain ⟨-, rfl⟩ := h; exact ⟨app, .stays _, Or.inr rfl⟩
  | updateMachine app at_ input =>
      obtain ⟨old, hold, -, rfl⟩ := h
      refine ⟨app, ?_, Or.inr rfl⟩
      by_cases hid : id = at_
      · rw [hid, Slot.of?_eq_some.mp hold, machines_setMachine_self]; exact .changed _ _
      · rw [machines_setMachine_ne _ hid]; exact .stays _
  | deleteMachine app at_ =>
      cases h
      by_cases hid : id = at_
      · -- whoever it belongs to: the provider does not look at the application
        obtain ⟨owner, hm⟩ := Slot.moves_clear (e.machines at_)
        refine ⟨owner, ?_, Or.inl (by rw [hid]; rfl)⟩
        rw [hid, machines_setMachine_self]; exact hm _
      · refine ⟨app, ?_, Or.inr rfl⟩
        rw [machines_setMachine_ne _ hid]; exact .stays _
  | waitForMachine app at_ inst state seconds =>
      obtain ⟨owner, m, hm, rfl⟩ := h
      by_cases hid : id = at_
      · refine ⟨owner, ?_, Or.inl (by rw [hid]; rfl)⟩
        rw [hid, hm, machines_setMachine_self]; exact .changed _ _
      · refine ⟨app, ?_, Or.inr rfl⟩
        rw [machines_setMachine_ne _ hid]; exact .stays _
  | allocateIp app => obtain ⟨-, -, rfl⟩ := h; exact ⟨app, .stays _, Or.inr rfl⟩
  | releaseIp app at_ => cases h; exact ⟨app, .stays _, Or.inr rfl⟩
  | listIps app => obtain ⟨-, -, rfl⟩ := h; exact ⟨app, .stays _, Or.inr rfl⟩

/-- A call changes an address of the application that it names, or the one that it acts on. -/
theorem Carries.ip_moves {e e' : Estate} {c : ProviderCall} {r : c.Result}
    (h : e.Carries c r e') (id : String) :
    ∃ owner, Slot.Moves owner (c = .allocateIp owner) (e.ips id) (e'.ips id) ∧
      (.ip id ∈ c.uses ∨ owner = c.app) := by
  cases c with
  | ensureApp app org => cases h; exact ⟨app, .stays _, Or.inr rfl⟩
  | deleteApp app => cases h; exact ⟨app, Slot.moves_clearOf app _ _, Or.inr rfl⟩
  | createMachine app input => obtain ⟨-, -, -, rfl⟩ := h; exact ⟨app, .stays _, Or.inr rfl⟩
  | getMachine app at_ => obtain ⟨-, rfl⟩ := h; exact ⟨app, .stays _, Or.inr rfl⟩
  | updateMachine app at_ input =>
      obtain ⟨old, -, -, rfl⟩ := h; exact ⟨app, .stays _, Or.inr rfl⟩
  | deleteMachine app at_ => cases h; exact ⟨app, .stays _, Or.inr rfl⟩
  | waitForMachine app at_ inst state seconds =>
      obtain ⟨owner, m, -, rfl⟩ := h; exact ⟨app, .stays _, Or.inr rfl⟩
  | allocateIp app =>
      obtain ⟨-, hnew, rfl⟩ := h
      refine ⟨app, ?_, Or.inr rfl⟩
      by_cases hid : id = r.id
      · rw [hid, hnew, ips_setIp_self]; exact .issued rfl _
      · rw [ips_setIp_ne _ hid]; exact .stays _
  | releaseIp app at_ =>
      cases h
      by_cases hid : id = at_
      · obtain ⟨owner, hm⟩ := Slot.moves_clear (e.ips at_)
        refine ⟨owner, ?_, Or.inl (by rw [hid]; rfl)⟩
        rw [hid, ips_setIp_self]; exact hm _
      · refine ⟨app, ?_, Or.inr rfl⟩
        rw [ips_setIp_ne _ hid]; exact .stays _
  | listIps app => obtain ⟨-, -, rfl⟩ := h; exact ⟨app, .stays _, Or.inr rfl⟩

/-- A call makes or deletes no application but the one that it names. -/
theorem Carries.mem_apps_iff {e e' : Estate} {c : ProviderCall} {r : c.Result}
    (h : e.Carries c r e') {other : String} (hne : c.app ≠ other) :
    other ∈ e'.apps ↔ other ∈ e.apps := by
  have hne' : other ≠ c.app := Ne.symm hne
  cases c with
  | ensureApp app org => cases h; exact Set.mem_insert_iff.trans (or_iff_right hne')
  | deleteApp app => cases h; exact and_iff_left hne'
  | createMachine app input => obtain ⟨-, -, -, rfl⟩ := h; exact Iff.rfl
  | getMachine app id => obtain ⟨-, rfl⟩ := h; exact Iff.rfl
  | updateMachine app id input => obtain ⟨old, -, -, rfl⟩ := h; exact Iff.rfl
  | deleteMachine app id => cases h; exact Iff.rfl
  | waitForMachine app id inst state seconds => obtain ⟨owner, m, -, rfl⟩ := h; exact Iff.rfl
  | allocateIp app => obtain ⟨-, -, rfl⟩ := h; exact Iff.rfl
  | releaseIp app id => cases h; exact Iff.rfl
  | listIps app => obtain ⟨-, -, rfl⟩ := h; exact Iff.rfl

/-! ### Titles -/

/-- A title belongs to an application: it was given out there, and stands for nothing elsewhere. -/
def Owns (e : Estate) (app : String) : Title → Prop
  | .machine id => (e.machines id).BelongsTo app
  | .ip id => (e.ips id).BelongsTo app

/-- A title stands for nothing outside an application, as long as it is not given out. -/
def Within (e : Estate) (app : String) : Title → Prop
  | .machine id => (e.machines id).Within app
  | .ip id => (e.ips id).Within app

theorem Owns.within {e : Estate} {app : String} {t : Title} (h : e.Owns app t) :
    e.Within app t := by
  cases t <;> exact Slot.BelongsTo.within h

/-- A title stays with its application for good. -/
theorem Carries.owns {e e' : Estate} {c : ProviderCall} {r : c.Result} (h : e.Carries c r e')
    {app : String} {t : Title} (ht : e.Owns app t) : e'.Owns app t := by
  cases t with
  | machine id =>
      obtain ⟨owner, hm, -⟩ := h.machine_moves id
      exact hm.belongsTo ht
  | ip id =>
      obtain ⟨owner, hm, -⟩ := h.ip_moves id
      exact hm.belongsTo ht

theorem Carries.owns_machine {e e' : Estate} {app : String} {input : MachineInput} {m : Machine}
    (h : e.Carries (.createMachine app input) m e') : e'.Owns app (.machine m.id) := by
  obtain ⟨-, -, -, rfl⟩ := h
  show ((e.setMachine m.id _).machines m.id).BelongsTo app
  rw [machines_setMachine_self]
  exact rfl

theorem Carries.owns_ip {e e' : Estate} {app : String} {ip : IpAddress}
    (h : e.Carries (.allocateIp app) ip e') : e'.Owns app (.ip ip.id) := by
  obtain ⟨-, -, rfl⟩ := h
  show ((e.setIp ip.id _).ips ip.id).BelongsTo app
  rw [ips_setIp_self]
  exact rfl

/-- A call about one application takes no title out of it. -/
theorem Carries.within {e e' : Estate} {c : ProviderCall} {r : c.Result} (h : e.Carries c r e')
    {t : Title} (ht : e.Within c.app t) : e'.Within c.app t := by
  cases t with
  | machine id =>
      obtain ⟨owner, hm, -⟩ := h.machine_moves id
      refine hm.within (fun hmakes => ?_) ht
      obtain ⟨input, rfl⟩ := hmakes
      rfl
  | ip id =>
      obtain ⟨owner, hm, -⟩ := h.ip_moves id
      refine hm.within (fun hmakes => ?_) ht
      subst hmakes
      rfl

/-! ### What a call leaves alone -/

theorem Beside.refl (app : String) (e : Estate) : e.Beside app e :=
  ⟨fun _ _ => Iff.rfl, fun _ _ => rfl, fun _ _ => rfl⟩

theorem Beside.trans {app : String} {e e' e'' : Estate} (h : e.Beside app e')
    (h' : e'.Beside app e'') : e.Beside app e'' :=
  ⟨fun other hne => (h'.apps other hne).trans (h.apps other hne),
    fun other hne => (h'.machines other hne).trans (h.machines other hne),
    fun other hne => (h'.ips other hne).trans (h.ips other hne)⟩

/-- A call about one application, acting on titles of that application only, changes nothing of
another. -/
theorem Carries.beside {e e' : Estate} {c : ProviderCall} {r : c.Result} (h : e.Carries c r e')
    (huses : ∀ t ∈ c.uses, e.Within c.app t) : e.Beside c.app e' := by
  refine ⟨fun other hne => h.mem_apps_iff hne, fun other hne => ?_, fun other hne => ?_⟩
  · funext id
    obtain ⟨owner, hm, hused | rfl⟩ := h.machine_moves id
    · have hwithin : e.Within c.app (.machine id) := huses _ hused
      exact (Slot.Within.of?_ne (h.within hwithin) hne).trans (Slot.Within.of?_ne hwithin hne).symm
    · exact hm.of?_ne hne
  · funext id
    obtain ⟨owner, hm, hused | rfl⟩ := h.ip_moves id
    · have hwithin : e.Within c.app (.ip id) := huses _ hused
      exact (Slot.Within.of?_ne (h.within hwithin) hne).trans (Slot.Within.of?_ne hwithin hne).symm
    · exact hm.of?_ne hne

/-- Nothing is left of an application that is deleted. -/
theorem not_bears_withoutApp (e : Estate) (app : String) : ¬ (e.withoutApp app).Bears app := by
  intro hbears
  rcases hbears with happ | ⟨id, m, hm⟩ | ⟨id, ip, hip⟩
  · exact happ.2 rfl
  · exact (Slot.clearOf_eq_held.mp (Slot.of?_eq_some.mp hm)).2 rfl
  · exact (Slot.clearOf_eq_held.mp (Slot.of?_eq_some.mp hip)).2 rfl

theorem Beside.withoutApp {app : String} {e e' : Estate} (h : e.Beside app e') :
    e.Beside app (e'.withoutApp app) := by
  have hdeletes : e'.Carries (.deleteApp app) () (e'.withoutApp app) := rfl
  exact h.trans (hdeletes.beside fun _ ht => ht.elim)

theorem machineOf?_eq_none {e : Estate} {app : String} (h : ¬ e.Bears app) (id : String) :
    e.machineOf? app id = none :=
  Option.eq_none_iff_forall_ne_some.mpr fun m hm => h (Or.inr (Or.inl ⟨id, m, hm⟩))

theorem ipOf?_eq_none {e : Estate} {app : String} (h : ¬ e.Bears app) (id : String) :
    e.ipOf? app id = none :=
  Option.eq_none_iff_forall_ne_some.mpr fun ip hip => h (Or.inr (Or.inr ⟨id, ip, hip⟩))

/-- Two estates that differ in one application at most, and have nothing of it, are the same. -/
theorem Beside.same {app : String} {e e' : Estate} (h : e.Beside app e') (he : ¬ e.Bears app)
    (he' : ¬ e'.Bears app) : e.Same e' := by
  refine ⟨Set.ext fun other => ?_, funext fun other => ?_, funext fun other => ?_⟩
  · by_cases hne : app = other
    · subst hne
      exact iff_of_false (fun hmem => he' (Or.inl hmem)) fun hmem => he (Or.inl hmem)
    · exact h.apps other hne
  · by_cases hne : app = other
    · subst hne
      exact funext fun id => (machineOf?_eq_none he' id).trans (machineOf?_eq_none he id).symm
    · exact h.machines other hne
  · by_cases hne : app = other
    · subst hne
      exact funext fun id => (ipOf?_eq_none he' id).trans (ipOf?_eq_none he id).symm
    · exact h.ips other hne

/-! ### How much there is -/

/-- A machine of an application after a call was there before, unless the call makes one. -/
theorem Carries.machine_before {e e' : Estate} {c : ProviderCall} {r : c.Result}
    (h : e.Carries c r e') (hc : ∀ app input, c ≠ .createMachine app input) {app id : String}
    {m : Machine} (hm : e'.machineOf? app id = some m) :
    ∃ m', e.machineOf? app id = some m' := by
  obtain ⟨owner, hmoves, -⟩ := h.machine_moves id
  refine hmoves.of?_before ?_ hm
  intro hcreates
  obtain ⟨input, hmakes⟩ := hcreates
  exact hc owner input hmakes

/-- An address of an application after a call was there before, unless the call makes one. -/
theorem Carries.ip_before {e e' : Estate} {c : ProviderCall} {r : c.Result}
    (h : e.Carries c r e') (hc : ∀ app, c ≠ .allocateIp app) {app id : String} {ip : IpAddress}
    (hip : e'.ipOf? app id = some ip) : ∃ ip', e.ipOf? app id = some ip' := by
  obtain ⟨owner, hmoves, -⟩ := h.ip_moves id
  exact hmoves.of?_before (hc owner) hip

/-- The one machine that a call may add is the one that it makes. -/
theorem Carries.machine_made {e e' : Estate} {app : String} {input : MachineInput} {made : Machine}
    (h : e.Carries (.createMachine app input) made e') {app' id : String} {m : Machine}
    (hm : e'.machineOf? app' id = some m) : id = made.id ∨ e.machineOf? app' id = some m := by
  obtain ⟨-, -, -, rfl⟩ := h
  by_cases hid : id = made.id
  · exact Or.inl hid
  · rw [machineOf?, machines_setMachine_ne e hid] at hm
    exact Or.inr hm

/-- The one address that a call may add is the one that it allocates. -/
theorem Carries.ip_made {e e' : Estate} {app : String} {made : IpAddress}
    (h : e.Carries (.allocateIp app) made e') {app' id : String} {ip : IpAddress}
    (hip : e'.ipOf? app' id = some ip) : id = made.id ∨ e.ipOf? app' id = some ip := by
  obtain ⟨-, -, rfl⟩ := h
  by_cases hid : id = made.id
  · exact Or.inl hid
  · rw [ipOf?, ips_setIp_ne e hid] at hip
    exact Or.inr hip

/-! ### Nothing without an application -/

/-- Only `ensureApp` makes an application. -/
theorem Carries.mem_apps {e e' : Estate} {c : ProviderCall} {r : c.Result}
    (h : e.Carries c r e') {app : String} (happ : app ∈ e'.apps) :
    app ∈ e.apps ∨ ∃ org, c = .ensureApp app org := by
  cases c with
  | ensureApp app' org =>
      cases h
      rcases happ with rfl | happ
      · exact Or.inr ⟨org, rfl⟩
      · exact Or.inl happ
  | deleteApp app' => cases h; exact Or.inl happ.1
  | createMachine app' input => obtain ⟨-, -, -, rfl⟩ := h; exact Or.inl happ
  | getMachine app' id => obtain ⟨-, rfl⟩ := h; exact Or.inl happ
  | updateMachine app' id input => obtain ⟨old, -, -, rfl⟩ := h; exact Or.inl happ
  | deleteMachine app' id => cases h; exact Or.inl happ
  | waitForMachine app' id inst state seconds => obtain ⟨owner, m, -, rfl⟩ := h; exact Or.inl happ
  | allocateIp app' => obtain ⟨-, -, rfl⟩ := h; exact Or.inl happ
  | releaseIp app' id => cases h; exact Or.inl happ
  | listIps app' => obtain ⟨-, -, rfl⟩ := h; exact Or.inl happ

/-- Every machine and every address belongs to an application that exists. -/
structure Tidy (e : Estate) : Prop where
  machines : ∀ id owner m, e.machines id = .held owner m → owner ∈ e.apps
  ips : ∀ id owner ip, e.ips id = .held owner ip → owner ∈ e.apps

theorem Tidy.setMachine {e : Estate} (h : e.Tidy) (id : String) {s : Slot Machine}
    (hs : ∀ owner m, s = .held owner m → owner ∈ e.apps) : (e.setMachine id s).Tidy := by
  refine ⟨fun other owner m hm => ?_, h.ips⟩
  by_cases hid : other = id
  · subst hid
    rw [machines_setMachine_self] at hm
    exact hs owner m hm
  · rw [machines_setMachine_ne e hid] at hm
    exact h.machines other owner m hm

theorem Tidy.setIp {e : Estate} (h : e.Tidy) (id : String) {s : Slot IpAddress}
    (hs : ∀ owner ip, s = .held owner ip → owner ∈ e.apps) : (e.setIp id s).Tidy := by
  refine ⟨h.machines, fun other owner ip hip => ?_⟩
  by_cases hid : other = id
  · subst hid
    rw [ips_setIp_self] at hip
    exact hs owner ip hip
  · rw [ips_setIp_ne e hid] at hip
    exact h.ips other owner ip hip

theorem Tidy.withoutApp {e : Estate} (h : e.Tidy) (app : String) : (e.withoutApp app).Tidy := by
  refine ⟨fun id owner m hm => ?_, fun id owner ip hip => ?_⟩
  · obtain ⟨hheld, hne⟩ := Slot.clearOf_eq_held.mp hm
    exact ⟨h.machines id owner m hheld, hne⟩
  · obtain ⟨hheld, hne⟩ := Slot.clearOf_eq_held.mp hip
    exact ⟨h.ips id owner ip hheld, hne⟩

theorem Carries.tidy {e e' : Estate} {c : ProviderCall} {r : c.Result} (h : e.Carries c r e')
    (ht : e.Tidy) : e'.Tidy := by
  cases c with
  | ensureApp app org =>
      cases h
      exact ⟨fun id owner m hm => Or.inr (ht.machines id owner m hm),
        fun id owner ip hip => Or.inr (ht.ips id owner ip hip)⟩
  | deleteApp app => cases h; exact ht.withoutApp app
  | createMachine app input =>
      obtain ⟨happ, -, -, rfl⟩ := h
      exact ht.setMachine _ fun owner m hm => by cases hm; exact happ
  | getMachine app id => obtain ⟨-, rfl⟩ := h; exact ht
  | updateMachine app id input =>
      obtain ⟨old, hold, -, rfl⟩ := h
      have happ := ht.machines id app old (Slot.of?_eq_some.mp hold)
      exact ht.setMachine _ fun owner m hm => by cases hm; exact happ
  | deleteMachine app id =>
      cases h
      exact ht.setMachine _ fun owner m hm => absurd hm (Slot.clear_ne_held _ owner m)
  | waitForMachine app id inst state seconds =>
      obtain ⟨owner, m, hm, rfl⟩ := h
      have hmem := ht.machines id owner m hm
      exact ht.setMachine _ fun owner' m' hm' => by cases hm'; exact hmem
  | allocateIp app =>
      obtain ⟨happ, -, rfl⟩ := h
      exact ht.setIp _ fun owner ip hip => by cases hip; exact happ
  | releaseIp app id =>
      cases h
      exact ht.setIp _ fun owner ip hip => absurd hip (Slot.clear_ne_held _ owner ip)
  | listIps app => obtain ⟨-, -, rfl⟩ := h; exact ht

end Estate

end ServiceTunnel
