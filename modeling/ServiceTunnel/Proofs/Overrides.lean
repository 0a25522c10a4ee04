import ServiceTunnel.Lifecycle
import ServiceTunnel.Proofs.Grammar
import ServiceTunnel.Proofs.Record
import ServiceTunnel.Simulation.World

/-!
# ServiceTunnel.Proofs.Overrides

**What a Service can ask for its client, and what becomes of a bad wish.** Four annotations replace
the defaults. Each is checked alone (`override?_of_acceptable`, `override?_of_not_acceptable`), and
all are read in one order, so the first bad one decides (`resolve_of_first`). As nothing else is
done before, a bad one keeps a tunnel from being set up or changed at all.
-/

namespace ServiceTunnel

open Simulation

namespace Requirements

variable {annotations : Dict String String} {key : String}

/-- The annotations that replace a default, in the order in which they are read. -/
def overrideKeys : List String :=
  [Annotations.cpuRequest, Annotations.cpuLimit, Annotations.memoryRequest,
    Annotations.memoryLimit]

/-- The annotation is missing, empty or a quantity. -/
inductive Acceptable (annotations : Dict String String) (key : String) : Prop
  | missing (h : annotations.get? key = none) : Acceptable annotations key
  | empty (h : annotations.get? key = some "") : Acceptable annotations key
  | quantity {raw : String} (h : annotations.get? key = some raw)
    (hraw : Quantity.Written (Text.trim raw).toList) : Acceptable annotations key

/-- What the annotation asks for, without blanks at its ends, unless it is missing or empty. -/
def wish? (annotations : Dict String String) (key : String) : Option String :=
  (Annotations.nonEmpty? annotations key).map Text.trim

/-- What the client is to get at least of a resource. -/
def request? (annotations : Dict String String) (resource : String) : Option String :=
  if resource = "cpu" then some ((wish? annotations Annotations.cpuRequest).getD "10m")
  else if resource = "memory" then some ((wish? annotations Annotations.memoryRequest).getD "32Mi")
  else none

/-- What the client may use at most of a resource. -/
def limit? (annotations : Dict String String) (resource : String) : Option String :=
  if resource = "cpu" then wish? annotations Annotations.cpuLimit
  else if resource = "memory" then some ((wish? annotations Annotations.memoryLimit).getD "128Mi")
  else none

/-! ### One annotation -/

/-- An annotation that is neither missing nor empty is acceptable if it is a quantity. -/
theorem acceptable_iff {raw : String} (h : Annotations.nonEmpty? annotations key = some raw) :
    Acceptable annotations key ↔ Quantity.Written (Text.trim raw).toList := by
  obtain ⟨hget, hraw⟩ := Annotations.nonEmpty?_eq_some.mp h
  constructor
  · intro hkey
    cases hkey with
    | missing hnone =>
        rw [hnone] at hget
        cases hget
    | empty hempty => exact absurd (Option.some.inj (hget.symm.trans hempty)) hraw
    | quantity hsome hwritten =>
        obtain rfl := Option.some.inj (hget.symm.trans hsome)
        exact hwritten
  · exact .quantity hget

theorem override?_of_acceptable (h : Acceptable annotations key) :
    override? annotations key = .ok ((wish? annotations key).map Quantity.mk) := by
  rw [override?, wish?]
  cases hwish : Annotations.nonEmpty? annotations key with
  | none => rfl
  | some raw =>
      have hparse : Quantity.parse raw = .ok ⟨Text.trim raw⟩ :=
        Quantity.parse_eq_ok_iff.mpr ⟨rfl, (acceptable_iff hwish).mp h⟩
      simp [hparse]

/-- A bad annotation is reported with its text and with what is wrong with it. -/
theorem override?_of_not_acceptable (h : ¬ Acceptable annotations key) :
    ∃ raw reason, annotations.get? key = some raw ∧ Quantity.parse raw = .error reason ∧
      override? annotations key = .error ⟨key, raw, reason⟩ := by
  cases hwish : Annotations.nonEmpty? annotations key with
  | none => exact absurd ((Annotations.nonEmpty?_eq_none.mp hwish).elim .missing .empty) h
  | some raw =>
      rw [acceptable_iff hwish] at h
      cases hparse : Quantity.parse raw with
      | ok q => exact absurd (Quantity.parse_eq_ok_iff.mp hparse).2 h
      | error reason =>
          refine ⟨raw, reason, (Annotations.nonEmpty?_eq_some.mp hwish).1, hparse, ?_⟩
          simp [override?, hwish, hparse]

/-! ### All annotations -/

/-- The requirements with what is found under `overrideKeys` in place of the defaults. -/
def ofOverrides : List (Option Quantity) → Requirements
  | [cpuRequest, cpuLimit, memoryRequest, memoryLimit] => {
      cpuRequest := cpuRequest.getD ⟨"10m"⟩
      cpuLimit
      memoryRequest := memoryRequest.getD ⟨"32Mi"⟩
      memoryLimit := memoryLimit.getD ⟨"128Mi"⟩ }
  | _ => {}

/-- The annotations are read one after another. -/
theorem resolve_eq_mapM (annotations : Dict String String) :
    resolve annotations = ofOverrides <$> overrideKeys.mapM (override? annotations) := by
  simp [resolve, overrideKeys, List.mapM_cons, ofOverrides]

section Reading

variable {ε κ β : Type} {f : κ → Except ε β}

theorem mapM_of_ok {g : κ → β} {l : List κ} (h : ∀ k ∈ l, f k = .ok (g k)) :
    l.mapM f = .ok (l.map g) := by
  induction l with
  | nil => rfl
  | cons k l ih =>
      obtain ⟨hk, hrest⟩ := List.forall_mem_cons.mp h
      rw [List.mapM_cons, hk, ih hrest]
      rfl

theorem mapM_of_first {before after : List κ} {k : κ} {e : ε}
    (hbefore : ∀ k ∈ before, ∃ b, f k = .ok b) (hk : f k = .error e) :
    (before ++ k :: after).mapM f = .error e := by
  induction before with
  | nil =>
      rw [List.nil_append, List.mapM_cons, hk]
      rfl
  | cons k' before ih =>
      obtain ⟨⟨b, hb⟩, hrest⟩ := List.forall_mem_cons.mp hbefore
      rw [List.cons_append, List.mapM_cons, hb, ih hrest]
      rfl

end Reading

theorem resolve_of_acceptable (h : ∀ key ∈ overrideKeys, Acceptable annotations key) :
    resolve annotations =
      .ok (ofOverrides (overrideKeys.map fun key => (wish? annotations key).map Quantity.mk)) := by
  rw [resolve_eq_mapM, mapM_of_ok fun key hkey => override?_of_acceptable (h key hkey)]
  rfl

/-- **The first bad annotation is the one that is reported.** -/
theorem resolve_of_first {before after : List String}
    (hkeys : overrideKeys = before ++ key :: after)
    (hbefore : ∀ k ∈ before, Acceptable annotations k) (hkey : ¬ Acceptable annotations key) :
    ∃ raw reason, annotations.get? key = some raw ∧ Quantity.parse raw = .error reason ∧
      resolve annotations = .error ⟨key, raw, reason⟩ := by
  obtain ⟨raw, reason, hraw, hreason, hbad⟩ := override?_of_not_acceptable hkey
  refine ⟨raw, reason, hraw, hreason, ?_⟩
  rw [resolve_eq_mapM, hkeys,
    mapM_of_first (fun k hk => ⟨_, override?_of_acceptable (hbefore k hk)⟩) hbad]
  rfl

theorem exists_first (h : ¬ ∀ key ∈ overrideKeys, Acceptable annotations key) :
    ∃ before key after, overrideKeys = before ++ key :: after ∧
      (∀ k ∈ before, Acceptable annotations k) ∧ ¬ Acceptable annotations key := by
  classical
  cases hfind : overrideKeys.find? fun key => ¬ Acceptable annotations key with
  | none =>
      refine absurd (fun key hkey => ?_) h
      simpa using List.find?_eq_none.mp hfind key hkey
  | some key =>
      obtain ⟨hbad, before, after, hkeys, hbefore⟩ := List.find?_eq_some_iff_append.mp hfind
      exact ⟨before, key, after, hkeys, by simpa using hbefore, by simpa using hbad⟩

/-- Either every annotation is acceptable, or one is reported. -/
theorem resolve_eq_ok_iff : (∃ r, resolve annotations = .ok r) ↔
    ∀ key ∈ overrideKeys, Acceptable annotations key := by
  constructor
  · rintro ⟨r, hr⟩
    by_contra h
    obtain ⟨before, key, after, hkeys, hbefore, hkey⟩ := exists_first h
    obtain ⟨raw, reason, -, -, hbad⟩ := resolve_of_first hkeys hbefore hkey
    rw [hbad] at hr
    cases hr
  · intro h
    exact ⟨_, resolve_of_acceptable h⟩

/-! ### What is asked for -/

theorem get?_requests (r : Requirements) (resource : String) : r.requests.get? resource =
    if resource = "cpu" then some r.cpuRequest.text
    else if resource = "memory" then some r.memoryRequest.text else none := by
  rw [requests, Dict.get?_ofList (by simp)]
  simp [Dict.find]

theorem get?_limits (r : Requirements) (resource : String) : r.limits.get? resource =
    if resource = "cpu" then r.cpuLimit.map (·.text)
    else if resource = "memory" then some r.memoryLimit.text else none := by
  rw [limits]
  cases r.cpuLimit with
  | none =>
      rw [Dict.get?_ofList (by simp)]
      rcases eq_or_ne resource "cpu" with rfl | hcpu
      · simp [Dict.find]
      · simp [Dict.find, hcpu]
  | some q =>
      rw [Dict.get?_ofList (by simp)]
      simp [Dict.find]

/-- Each resource is as it is asked for, or by default. -/
theorem get?_of_acceptable (h : ∀ key ∈ overrideKeys, Acceptable annotations key)
    {r : Requirements} (hr : resolve annotations = .ok r) (resource : String) :
    r.requests.get? resource = request? annotations resource ∧
      r.limits.get? resource = limit? annotations resource := by
  obtain rfl := Except.ok.inj ((resolve_of_acceptable h).symm.trans hr)
  rw [get?_requests, get?_limits, request?, limit?]
  simp [ofOverrides, overrideKeys, Option.getD_map, Function.comp_def]

end Requirements

/-! ### Before anything is done -/

namespace Lifecycle

/-- The program is over before its first call, because the Service is not valid: in every world it
leaves everything as it is and notes nothing. -/
def Refuses {α : Type} (p : Operation (Except OperatorError α)) : Prop :=
  ∃ message, p = .done (.error (.validation message)) ∧
    ∀ w : World, w.run p = (.error (.validation message), w)

theorem refuses_done {α : Type} (message : String) :
    Refuses (.done (.error (.validation message)) : Operation (Except OperatorError α)) :=
  ⟨message, rfl, fun _ => rfl⟩

variable {service : Kube.Service} {message : String}

theorem refuses_provision (h : requirements service = .error (.validation message))
    (config : TunnelConfig) : Refuses (provision config service) := by
  rw [provision, h]
  exact refuses_done message

theorem refuses_update (h : requirements service = .error (.validation message))
    (config : TunnelConfig) : Refuses (update config service) := by
  unfold update
  dsimp only
  split
  · rw [h]
    exact refuses_done message
  · exact refuses_done _

end Lifecycle

namespace Requirements

open Kube Lifecycle

/-- What becomes of the annotations of a Service. -/
structure Resolves (annotations : Dict String String) : Prop where
  accepts : (∃ r, resolve annotations = .ok r) ↔
    ∀ key ∈ overrideKeys, Acceptable annotations key
  /-- Every resource of the client's container is as the annotations ask or by default, and nothing
  else is set. -/
  sets : ∀ r, resolve annotations = .ok r → ∀ spec : Workload.Spec, spec.requirements = r →
    ∃ requests limits, (Workload.buildContainer spec).resources =
        some { requests := some requests, limits := some limits } ∧
      ∀ resource, requests.get? resource = request? annotations resource ∧
        limits.get? resource = limit? annotations resource
  /-- The first bad annotation is named with its text. -/
  reports : ∀ before key after, overrideKeys = before ++ key :: after →
    (∀ k ∈ before, Acceptable annotations k) → ¬ Acceptable annotations key →
    ∃ raw reason, annotations.get? key = some raw ∧ Quantity.parse raw = .error reason ∧
      ∀ service : Service, service.annotations = annotations →
        requirements service = .error (.validation
          ("parsing annotation " ++ key ++ "=" ++ Text.quote raw ++ ": " ++ reason.message))
  refuses : ∀ key ∈ overrideKeys, ¬ Acceptable annotations key →
    ∀ (config : TunnelConfig) (service : Service), service.annotations = annotations →
      Refuses (provision config service) ∧ Refuses (update config service)

theorem requirements_of_first {before after : List String}
    (hkeys : overrideKeys = before ++ key :: after)
    (hbefore : ∀ k ∈ before, Acceptable annotations k) (hkey : ¬ Acceptable annotations key) :
    ∃ raw reason, annotations.get? key = some raw ∧ Quantity.parse raw = .error reason ∧
      ∀ service : Service, service.annotations = annotations →
        requirements service = .error (.validation
          ("parsing annotation " ++ key ++ "=" ++ Text.quote raw ++ ": " ++ reason.message)) := by
  obtain ⟨raw, reason, hraw, hreason, hbad⟩ := resolve_of_first hkeys hbefore hkey
  refine ⟨raw, reason, hraw, hreason, fun service hservice => ?_⟩
  rw [requirements, hservice, hbad]
  rfl

/-- **The wishes of a Service for its client are met as a whole or refused before anything is
done.** They are met exactly if each of the four annotations is missing, empty or a quantity; then
the client gets what they ask for and the default of what they do not ask for, with no limit on
processor time unless one is asked for. Otherwise the first bad annotation is reported with its
text, and neither setting the tunnel up nor keeping it in step makes a single call. -/
theorem resolves (annotations : Dict String String) : Resolves annotations where
  accepts := resolve_eq_ok_iff
  sets r hr spec hspec := by
    have hkeys := resolve_eq_ok_iff.mp ⟨r, hr⟩
    subst hspec
    exact ⟨_, _, rfl, get?_of_acceptable hkeys hr⟩
  reports _ _ _ := requirements_of_first
  refuses key hkey hbad config service hservice := by
    obtain ⟨_, _, _, hkeys, hbefore, hfirst⟩ := exists_first fun h => hbad (h key hkey)
    obtain ⟨raw, reason, -, -, hrefused⟩ := requirements_of_first hkeys hbefore hfirst
    exact ⟨refuses_provision (hrefused service hservice) config,
      refuses_update (hrefused service hservice) config⟩

/-- Of two bad annotations the one that is read first is reported. -/
example : (resolve (.ofList [(Annotations.cpuRequest, " 50m "), (Annotations.memoryLimit, "64MB"),
    (Annotations.cpuLimit, "lots")])) = .error ⟨Annotations.cpuLimit, "lots", .noDigits⟩ := by
  decide +kernel

end Requirements

end ServiceTunnel
