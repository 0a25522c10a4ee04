import Mathlib.Data.List.Induction
import ServiceTunnel.Admission
import ServiceTunnel.Proofs.Lookup

/-!
# ServiceTunnel.Proofs.Watched

**The filter loses no change that matters.** What the filter remembers is told by the events alone:
the last version shown of every Service that it knows, and it knows a Service from the first managed
version on, until the Service is deleted, leaves the class, or is missing from a listing
(`AdmissionFilter.get?_eq_none_iff`). A change is passed over only if it leaves the ports and the
annotations as they are (`passed_of_not_shouldReconcile`), so by induction over the events the
version that was last admitted still has the ports and annotations of the one that is remembered
(`filter_lossless`).
-/

namespace ServiceTunnel

open Kube

/-! ### Single changes -/

/-- What there is to say of a change from `old` to `new` that calls for no pass. -/
structure Passed (old new : Service) : Prop where
  ports : old.spec.bind (·.ports) = new.spec.bind (·.ports)
  annotations : old.metadata.annotations = new.metadata.annotations
  live : new.isDeleting = false
  /-- The status shows an address: the recorded one, if one is recorded. -/
  shown : ∃ ingress, new.firstIngress? = some ingress ∧
    ∀ ip, Annotations.nonEmpty? new.annotations Annotations.publicIp = some ip →
      ingress.ip.getD "" = ip

variable {cls : String}

/-- A change of a managed Service is passed over only if the Service has been seen before, and
nothing that matters is different. -/
theorem passed_of_not_shouldReconcile {old : Option Service} {new : Service}
    (hmanaged : isManaged new cls = true) (h : shouldReconcile old new cls = false) :
    ∃ seen, old = some seen ∧ Passed seen new := by
  cases old with
  | none =>
      simp only [shouldReconcile, hmanaged, Bool.and_self, Bool.true_eq_false] at h
  | some seen =>
      simp only [shouldReconcile, hmanaged, Bool.true_and, Bool.or_eq_false_iff,
        bne_eq_false_iff_eq] at h
      obtain ⟨⟨⟨hports, hannotations⟩, hlive⟩, hshown⟩ := h
      refine ⟨seen, rfl, hports, hannotations, hlive, ?_⟩
      split at hshown
      · cases hshown
      · rename_i ingress hingress
        refine ⟨ingress, hingress, fun ip hip => ?_⟩
        rw [hip] at hshown
        exact (bne_eq_false_iff_eq.mp hshown).symm

/-! ### What events show -/

/-- The last of some versions that is one of the Service `key`. -/
def Kube.Service.latest (key : ObjectRef) (versions : List Service) : Option Service :=
  (versions.filter fun s => ObjectRef.ofService s = key).getLast?

theorem Kube.Service.latest_snoc (key : ObjectRef) (versions : List Service) (s : Service) :
    Service.latest key (versions ++ [s]) =
      if ObjectRef.ofService s = key then some s else Service.latest key versions := by
  unfold Service.latest
  rw [List.filter_append, List.filter_cons, List.filter_nil]
  by_cases hkey : ObjectRef.ofService s = key
  · rw [if_pos hkey, if_pos (decide_eq_true hkey), List.getLast?_concat]
  · rw [if_neg hkey, if_neg (by simpa using hkey), List.append_nil]

/-- What is not of the Service changes nothing. -/
theorem Kube.Service.latest_append {key : ObjectRef} (versions : List Service)
    {more : Option Service} (h : ∀ s, more = some s → ObjectRef.ofService s ≠ key) :
    Service.latest key (versions ++ more.toList) = Service.latest key versions := by
  cases more with
  | none => rw [Option.toList_none, List.append_nil]
  | some s => rw [Option.toList_some, Service.latest_snoc, if_neg (h s rfl)]

theorem Kube.Service.latest_eq_none_iff {key : ObjectRef} {versions : List Service} :
    Service.latest key versions = none ↔ ∀ s ∈ versions, ObjectRef.ofService s ≠ key := by
  rw [Service.latest, List.getLast?_eq_none_iff, List.filter_eq_nil_iff]
  simp only [decide_eq_true_eq, ne_eq]

namespace WatchEvent

/-- The version of a Service that an event shows. -/
def shown? : WatchEvent → Option Service
  | .listed service | .applied service => some service
  | _ => none

/-- A whole listing. -/
def wholeListing (services : List Service) : List WatchEvent :=
  .listStart :: services.map .listed ++ [.listEnd]

/-- The event begins or ends a listing. -/
def Bounds : WatchEvent → Prop
  | .listStart | .listEnd => True
  | _ => False

/-- The event shows a managed version of the Service `key`. -/
def Shows (cls : String) (key : ObjectRef) (event : WatchEvent) : Prop :=
  ∃ service, event.shown? = some service ∧ ObjectRef.ofService service = key ∧
    isManaged service cls = true

/-- After the event, which follows the events `past`, the Service `key` counts as new: it is
deleted, it is not managed, or a listing has ended that did not name it. -/
def Forgets (cls : String) (key : ObjectRef) (past : List WatchEvent) : WatchEvent → Prop
  | .listStart => False
  | .listed service | .applied service =>
    ObjectRef.ofService service = key ∧ isManaged service cls = false
  | .listEnd => ∃ before during, past = before ++ .listStart :: during ∧
    (∀ event ∈ during, ¬ event.Bounds) ∧
    ∀ service, .listed service ∈ during → ObjectRef.ofService service ≠ key
  | .deleted service => ObjectRef.ofService service = key

/-- No managed version of the Service `key` has been shown since the beginning, or since it counts
as new. -/
def Unknown (cls : String) (key : ObjectRef) (events : List WatchEvent) : Prop :=
  ∃ past since, events = past ++ since ∧
    (past = [] ∨ ∃ earlier event, past = earlier ++ [event] ∧ event.Forgets cls key earlier) ∧
    ∀ event ∈ since, ¬ event.Shows cls key

variable {key : ObjectRef} {events during : List WatchEvent} {event : WatchEvent}

/-- The Services that the events of a listing name, the last first. -/
def named (during : List WatchEvent) : List ObjectRef :=
  during.reverse.filterMap fun
    | .listed service => some (ObjectRef.ofService service)
    | _ => none

theorem mem_named : key ∈ named during ↔
    ∃ service, .listed service ∈ during ∧ ObjectRef.ofService service = key := by
  rw [named, List.mem_filterMap]
  constructor
  · rintro ⟨event, hevent, hkey⟩
    split at hkey
    · exact ⟨_, List.mem_reverse.mp hevent, Option.some.inj hkey⟩
    · cases hkey
  · rintro ⟨service, hlisted, hkey⟩
    exact ⟨_, List.mem_reverse.mpr hlisted, congrArg some hkey⟩

theorem forgets_of_shown {past : List WatchEvent} {service : Service}
    (h : event.shown? = some service) : event.Forgets cls key past ↔
      ObjectRef.ofService service = key ∧ isManaged service cls = false := by
  cases event with
  | listStart | listEnd | deleted => cases h
  | listed | applied => cases h; rfl

theorem shows_of_shown {service : Service} (h : event.shown? = some service) :
    event.Shows cls key ↔ ObjectRef.ofService service = key ∧ isManaged service cls = true := by
  constructor
  · rintro ⟨service', hservice', hshows⟩
    obtain rfl := Option.some.inj (h.symm.trans hservice')
    exact hshows
  · exact fun hshows => ⟨service, h, hshows⟩

theorem not_shows (h : event.shown? = none) : ¬ event.Shows cls key := by
  rintro ⟨service, hservice, -⟩
  rw [h] at hservice
  cases hservice

theorem unknown_nil : Unknown cls key [] := ⟨[], [], rfl, Or.inl rfl, List.forall_mem_nil _⟩

theorem unknown_snoc : Unknown cls key (events ++ [event]) ↔
    event.Forgets cls key events ∨ Unknown cls key events ∧ ¬ event.Shows cls key := by
  constructor
  · rintro ⟨past, since, hevents, hpast, hsince⟩
    obtain rfl | ⟨earlier, last, rfl⟩ := since.eq_nil_or_concat
    · rw [List.append_nil] at hevents
      obtain hnil | ⟨earlier, last, hlast, hforgets⟩ := hpast
      · exact absurd (hevents.trans hnil) (List.append_ne_nil_of_right_ne_nil _ nofun)
      · obtain ⟨rfl, rfl⟩ := List.append_singleton_inj.mp (hevents.trans hlast)
        exact Or.inl hforgets
    · rw [List.concat_eq_append, ← List.append_assoc, List.append_singleton_inj] at hevents
      obtain ⟨rfl, rfl⟩ := hevents
      rw [List.concat_eq_append, List.forall_mem_append, List.forall_mem_singleton] at hsince
      exact Or.inr ⟨⟨past, earlier, rfl, hpast, hsince.1⟩, hsince.2⟩
  · rintro (hforgets | ⟨⟨past, since, rfl, hpast, hsince⟩, hevent⟩)
    · exact ⟨_, [], (List.append_nil _).symm, Or.inr ⟨events, event, rfl, hforgets⟩,
        List.forall_mem_nil _⟩
    · refine ⟨past, since ++ [event], List.append_assoc _ _ _, hpast, ?_⟩
      exact List.forall_mem_append.mpr ⟨hsince, List.forall_mem_singleton.mpr hevent⟩

end WatchEvent

/-! ### The filter after some events -/

namespace AdmissionFilter

open WatchEvent

variable {f : AdmissionFilter} {key : ObjectRef} {events : List WatchEvent}

/-- The filter after it has taken events in. -/
def after (cls : String) (events : List WatchEvent) : AdmissionFilter :=
  events.foldl (fun f event => (f.receive event).1) { cls }

/-- The Services that passes are called for over, in the order of the events. -/
def admitted (cls : String) (events : List WatchEvent) : List Service :=
  (receiveAll { cls } events).filterMap id

@[simp] theorem after_snoc (cls : String) (events : List WatchEvent) (event : WatchEvent) :
    after cls (events ++ [event]) = ((after cls events).receive event).1 := by
  rw [after, List.foldl_append]
  rfl

theorem receiveAll_snoc (f : AdmissionFilter) (events : List WatchEvent) (event : WatchEvent) :
    f.receiveAll (events ++ [event]) = f.receiveAll events ++
      [((events.foldl (fun f event => (f.receive event).1) f).receive event).2] := by
  induction events generalizing f with
  | nil => rfl
  | cons first rest ih => exact congrArg _ (ih _)

theorem admitted_snoc (cls : String) (events : List WatchEvent) (event : WatchEvent) :
    admitted cls (events ++ [event]) =
      admitted cls events ++ ((after cls events).receive event).2.toList := by
  rw [admitted, receiveAll_snoc, List.filterMap_append]
  show _ ++ List.filterMap id [((after cls events).receive event).2] = _
  cases ((after cls events).receive event).2 <;> rfl

/-! What one event does. -/

theorem observe_eq (f : AdmissionFilter) (service : Service) :
    f.observe service = ({ f with
        lastSeen := (if isManaged service f.cls then f.lastSeen.insert (.ofService service) service
          else f.lastSeen.erase (.ofService service)) },
      if shouldReconcile (f.lastSeen.get? (.ofService service)) service f.cls then some service
      else none) := by
  unfold observe
  cases hmanaged : isManaged service f.cls with
  | true => rfl
  | false => simp only [shouldReconcile, hmanaged, Bool.false_and, Bool.false_eq_true, if_false]

theorem get?_observe (f : AdmissionFilter) (service : Service) (key : ObjectRef) :
    (f.observe service).1.lastSeen.get? key =
      if ObjectRef.ofService service = key then
        if isManaged service f.cls then some service else none
      else f.lastSeen.get? key := by
  rw [observe_eq]
  dsimp only
  by_cases hkey : ObjectRef.ofService service = key
  · rw [if_pos hkey, ← hkey]
    split
    · exact Dict.get?_insert_self _ _ _
    · exact Dict.get?_erase_self _ _
  · rw [if_neg hkey]
    split
    · exact Dict.get?_insert_ne _ (Ne.symm hkey) _
    · exact Dict.get?_erase_ne _ (Ne.symm hkey)

@[simp] theorem cls_receive (f : AdmissionFilter) (event : WatchEvent) :
    (f.receive event).1.cls = f.cls := by
  cases event with
  | listStart | deleted => rfl
  | listed service | applied service =>
      exact congrArg (fun r => r.1.cls) (observe_eq _ service)
  | listEnd =>
      unfold receive
      dsimp only
      split <;> rfl

@[simp] theorem cls_after (cls : String) (events : List WatchEvent) :
    (after cls events).cls = cls := by
  induction events using List.reverseRecOn with
  | nil => rfl
  | append_singleton events event ih => rw [after_snoc, cls_receive, ih]

/-- What is remembered of a Service after a version of one has been shown. -/
theorem get?_of_shown {event : WatchEvent} {service : Service}
    (h : event.shown? = some service) (key : ObjectRef) :
    (f.receive event).1.lastSeen.get? key =
      if ObjectRef.ofService service = key then
        if isManaged service f.cls then some service else none
      else f.lastSeen.get? key := by
  cases event with
  | listStart | listEnd | deleted => cases h
  | listed service' | applied service' =>
      obtain rfl := Option.some.inj h
      exact get?_observe _ _ _

theorem get?_deleted (f : AdmissionFilter) (service : Service) (key : ObjectRef) :
    (f.receive (.deleted service)).1.lastSeen.get? key =
      if ObjectRef.ofService service = key then none else f.lastSeen.get? key := by
  show (f.lastSeen.erase (.ofService service)).get? key = _
  by_cases hkey : ObjectRef.ofService service = key
  · rw [if_pos hkey, ← hkey]
    exact Dict.get?_erase_self _ _
  · rw [if_neg hkey]
    exact Dict.get?_erase_ne _ (Ne.symm hkey)

/-- At the end of a listing, what it has not named is forgotten. -/
theorem get?_listEnd (f : AdmissionFilter) (key : ObjectRef) (service : Service) :
    (f.receive .listEnd).1.lastSeen.get? key = some service ↔
      f.lastSeen.get? key = some service ∧ ∀ seen, f.listing = some seen → key ∈ seen := by
  unfold receive
  dsimp only
  split
  · rename_i hidle
    rw [hidle]
    exact (and_iff_left nofun).symm
  · rename_i seen hseen
    rw [Dict.get?_filter, Option.filter_eq_some_iff, List.contains_iff_mem, hseen]
    refine and_congr_right fun _ => ⟨fun hkey _ hsame => Option.some.inj hsame ▸ hkey, ?_⟩
    exact fun h => h seen rfl

@[simp] theorem answer_listEnd (f : AdmissionFilter) : (f.receive .listEnd).2 = none := by
  unfold receive
  dsimp only
  split <;> rfl

/-- What an event that shows a version is answered with. -/
theorem answer_of_shown {event : WatchEvent} {service : Service}
    (h : event.shown? = some service) : (f.receive event).2 =
      if shouldReconcile (f.lastSeen.get? (.ofService service)) service f.cls then some service
      else none := by
  cases event with
  | listStart | listEnd | deleted => cases h
  | listed service' | applied service' =>
      obtain rfl := Option.some.inj h
      exact congrArg Prod.snd (observe_eq _ _)

/-! ### Listings -/

/-- What a listing has named so far. -/
theorem listing_after (before : List WatchEvent) {during : List WatchEvent}
    (h : ∀ event ∈ during, ¬ event.Bounds) :
    (after cls (before ++ .listStart :: during)).listing = some (named during) := by
  induction during using List.reverseRecOn with
  | nil =>
      rw [after_snoc]
      rfl
  | append_singleton during event ih =>
      rw [List.forall_mem_append, List.forall_mem_singleton] at h
      have hstep : (after cls (before ++ .listStart :: (during ++ [event]))).listing =
          ((after cls (before ++ .listStart :: during)).receive event).1.listing := by
        rw [← List.cons_append, ← List.append_assoc, after_snoc]
      rw [hstep]
      cases event with
      | listStart | listEnd => exact absurd trivial h.2
      | listed service =>
          rw [named, List.reverse_append]
          refine (congrArg (fun r => r.1.listing) (observe_eq _ service)).trans ?_
          rw [ih h.1]
          rfl
      | applied service =>
          rw [named, List.reverse_append]
          exact (congrArg (fun r => r.1.listing) (observe_eq _ service)).trans (ih h.1)
      | deleted service =>
          rw [named, List.reverse_append]
          exact ih h.1

/-- Under way is the listing that was begun last, unless it has ended. -/
theorem during_of_listing {seen : List ObjectRef} (h : (after cls events).listing = some seen) :
    ∃ before during, events = before ++ .listStart :: during ∧
      (∀ event ∈ during, ¬ event.Bounds) ∧ seen = named during := by
  have hsplit : ∃ before during, events = before ++ .listStart :: during ∧
      ∀ event ∈ during, ¬ event.Bounds := by
    induction events using List.reverseRecOn generalizing seen with
    | nil => cases h
    | append_singleton events event ih =>
        rw [after_snoc] at h
        have hgoes : (∃ seen, (after cls events).listing = some seen) → ¬ event.Bounds →
            ∃ before during, events ++ [event] = before ++ .listStart :: during ∧
              ∀ event ∈ during, ¬ event.Bounds := by
          rintro ⟨seen, hseen⟩ hevent
          obtain ⟨before, during, rfl, hduring⟩ := ih hseen
          refine ⟨before, during ++ [event], List.append_assoc _ _ _, ?_⟩
          exact List.forall_mem_append.mpr ⟨hduring, List.forall_mem_singleton.mpr hevent⟩
        cases event with
        | listStart => exact ⟨events, [], rfl, List.forall_mem_nil _⟩
        | listEnd =>
            unfold receive at h
            dsimp only at h
            split at h
            · rename_i hidle
              rw [hidle] at h
              cases h
            · cases h
        | listed service =>
            have hlisting := (congrArg (fun r => r.1.listing) (observe_eq _ service)).symm.trans h
            obtain ⟨seen', hseen', -⟩ := Option.map_eq_some_iff.mp hlisting
            exact hgoes ⟨seen', hseen'⟩ id
        | applied service =>
            exact hgoes ⟨seen, (congrArg (fun r => r.1.listing)
              (observe_eq _ service)).symm.trans h⟩ id
        | deleted service => exact hgoes ⟨seen, h⟩ id
  obtain ⟨before, during, rfl, hduring⟩ := hsplit
  rw [listing_after before hduring] at h
  exact ⟨before, during, rfl, hduring, (Option.some.inj h).symm⟩

/-! ### What is remembered -/

/-- At the end of a listing, exactly those Services count as new that it has not named. -/
theorem forgets_listEnd : WatchEvent.listEnd.Forgets cls key events ↔
    ∃ seen, (after cls events).listing = some seen ∧ key ∉ seen := by
  constructor
  · rintro ⟨before, during, rfl, hduring, hnamed⟩
    refine ⟨named during, listing_after before hduring, fun hkey => ?_⟩
    obtain ⟨service, hlisted, hservice⟩ := mem_named.mp hkey
    exact hnamed service hlisted hservice
  · rintro ⟨seen, hseen, hkey⟩
    obtain ⟨before, during, rfl, hduring, rfl⟩ := during_of_listing hseen
    exact ⟨before, during, rfl, hduring, fun service hlisted hservice =>
      hkey (mem_named.mpr ⟨service, hlisted, hservice⟩)⟩

/-- Nothing is remembered of exactly those Services that count as new. -/
theorem get?_eq_none_iff :
    (after cls events).lastSeen.get? key = none ↔ Unknown cls key events := by
  induction events using List.reverseRecOn with
  | nil => exact iff_of_true rfl unknown_nil
  | append_singleton events event ih =>
      rw [after_snoc, unknown_snoc, ← ih]
      cases hshown : event.shown? with
      | some service =>
          rw [get?_of_shown hshown, cls_after, forgets_of_shown hshown, shows_of_shown hshown]
          by_cases hkey : ObjectRef.ofService service = key
          · cases hmanaged : isManaged service cls with
            | true => simp [hkey]
            | false => simp [hkey]
          · simp [hkey]
      | none =>
          rw [and_iff_left (not_shows hshown)]
          cases event with
          | listed | applied => cases hshown
          | listStart => exact (or_iff_right fun h : False => h).symm
          | deleted service =>
              rw [get?_deleted]
              by_cases hkey : ObjectRef.ofService service = key
              · simp [hkey, Forgets]
              · simp [hkey, Forgets]
          | listEnd =>
              rw [forgets_listEnd, Option.eq_none_iff_forall_ne_some]
              simp only [ne_eq, get?_listEnd]
              cases (after cls events).lastSeen.get? key with
              | none => simp
              | some service => simp

/-- What is remembered after an event is the managed version that it shows, or was remembered
before, and the event is of other Services. -/
theorem get?_receive_cases {event : WatchEvent} {service : Service}
    (h : (f.receive event).1.lastSeen.get? key = some service) :
    (event.shown? = some service ∧ isManaged service f.cls = true ∧
        ObjectRef.ofService service = key) ∨
      f.lastSeen.get? key = some service ∧
        (∀ s, event.shown? = some s → ObjectRef.ofService s ≠ key) ∧
        ∀ s, (f.receive event).2 = some s → ObjectRef.ofService s ≠ key := by
  cases hshown : event.shown? with
  | some shown =>
      rw [get?_of_shown hshown] at h
      by_cases hkey : ObjectRef.ofService shown = key
      · rw [if_pos hkey, Option.ite_none_right_eq_some] at h
        obtain ⟨hmanaged, hsame⟩ := h
        obtain rfl := Option.some.inj hsame
        exact Or.inl ⟨rfl, hmanaged, hkey⟩
      · rw [if_neg hkey] at h
        refine Or.inr ⟨h, fun s hs => Option.some.inj hs ▸ hkey, fun s hs => ?_⟩
        rw [answer_of_shown hshown, Option.ite_none_right_eq_some] at hs
        exact Option.some.inj hs.2 ▸ hkey
  | none =>
      cases event with
      | listed | applied => cases hshown
      | listStart =>
          refine Or.inr ⟨h, fun s hs => ?_, fun s hs => ?_⟩
          · cases hs
          · cases hs
      | listEnd =>
          refine Or.inr ⟨((get?_listEnd _ _ _).mp h).1, fun s hs => ?_, fun s hs => ?_⟩
          · cases hs
          · rw [answer_listEnd] at hs
            cases hs
      | deleted gone =>
          rw [get?_deleted, Option.ite_none_left_eq_some] at h
          refine Or.inr ⟨h.2, fun s hs => ?_, fun s hs => ?_⟩
          · cases hs
          · have hgone : (if isManaged gone f.cls then some gone else none) = some s := hs
            rw [Option.ite_none_right_eq_some] at hgone
            exact Option.some.inj hgone.2 ▸ h.1

/-- What is remembered is the last version that was shown, and a managed one. -/
theorem kept_of_get? {service : Service}
    (h : (after cls events).lastSeen.get? key = some service) :
    isManaged service cls = true ∧ ObjectRef.ofService service = key ∧
      Service.latest key (events.filterMap WatchEvent.shown?) = some service := by
  induction events using List.reverseRecOn with
  | nil => cases h
  | append_singleton events event ih =>
      rw [after_snoc] at h
      have hmore : (events ++ [event]).filterMap WatchEvent.shown? =
          events.filterMap WatchEvent.shown? ++ event.shown?.toList := by
        rw [List.filterMap_append, List.filterMap_cons, List.filterMap_nil]
        cases event.shown? <;> rfl
      rw [hmore]
      obtain ⟨hshown, hmanaged, hkey⟩ | ⟨hbefore, hothers, -⟩ := get?_receive_cases h
      · rw [cls_after] at hmanaged
        rw [hshown, Option.toList_some, Service.latest_snoc, if_pos hkey]
        exact ⟨hmanaged, hkey, rfl⟩
      · rw [Service.latest_append _ hothers]
        exact ih hbefore

/-! ### What is admitted -/

/-- The version that was last admitted has the ports and the annotations of the one that is
remembered. -/
theorem admitted_of_get? {service : Service}
    (h : (after cls events).lastSeen.get? key = some service) :
    ∃ last, Service.latest key (admitted cls events) = some last ∧
      last.spec.bind (·.ports) = service.spec.bind (·.ports) ∧
      last.metadata.annotations = service.metadata.annotations := by
  induction events using List.reverseRecOn generalizing service with
  | nil => cases h
  | append_singleton events event ih =>
      rw [after_snoc] at h
      rw [admitted_snoc]
      obtain ⟨hshown, hmanaged, rfl⟩ | ⟨hbefore, -, hothers⟩ := get?_receive_cases h
      · rw [cls_after] at hmanaged
        rw [answer_of_shown hshown, cls_after]
        split
        · rw [Option.toList_some, Service.latest_snoc, if_pos rfl]
          exact ⟨service, rfl, rfl, rfl⟩
        · -- a version that is passed over has what the one remembered before has
          rename_i hdropped
          obtain ⟨seen, hseen, hpassed⟩ :=
            passed_of_not_shouldReconcile hmanaged (Bool.eq_false_iff.mpr hdropped)
          obtain ⟨last, hlast, hports, hannotations⟩ := ih hseen
          rw [Option.toList_none, List.append_nil]
          exact ⟨last, hlast, hports.trans hpassed.ports, hannotations.trans hpassed.annotations⟩
      · rw [Service.latest_append _ hothers]
        exact ih hbefore

/-! ### After a listing -/

/-- Until a listing ends, what is remembered is what it has named, and what was remembered before
of the others. -/
theorem get?_listed (before : List WatchEvent) (services : List Service) (key : ObjectRef) :
    (after cls (before ++ .listStart :: services.map .listed)).lastSeen.get? key =
      match Service.latest key services with
      | some service => if isManaged service cls then some service else none
      | none => (after cls before).lastSeen.get? key := by
  induction services using List.reverseRecOn with
  | nil =>
      rw [List.map_nil, after_snoc]
      rfl
  | append_singleton services service ih =>
      rw [List.map_append, List.map_singleton, ← List.cons_append, ← List.append_assoc, after_snoc,
        get?_of_shown rfl, cls_after, Service.latest_snoc]
      by_cases hkey : ObjectRef.ofService service = key
      · rw [if_pos hkey, if_pos hkey]
      · rw [if_neg hkey, if_neg hkey, ih]

/-- After a listing exactly those Services are remembered that it has named last as managed. -/
theorem isSome_get?_wholeListing (before : List WatchEvent) (services : List Service)
    (key : ObjectRef) :
    ((after cls (before ++ wholeListing services)).lastSeen.get? key).isSome = true ↔
      ∃ service, Service.latest key services = some service ∧ isManaged service cls = true := by
  have hbounds : ∀ event ∈ services.map WatchEvent.listed, ¬ event.Bounds := by
    intro event hevent
    obtain ⟨service, -, rfl⟩ := List.mem_map.mp hevent
    exact id
  have hend : after cls (before ++ wholeListing services) =
      ((after cls (before ++ .listStart :: services.map .listed)).receive .listEnd).1 := by
    rw [wholeListing, ← List.append_assoc, after_snoc]
  rw [hend, Option.isSome_iff_exists]
  simp only [get?_listEnd, listing_after before hbounds, get?_listed]
  cases hlatest : Service.latest key services with
  | none =>
      -- what the listing has not named is forgotten
      have hunnamed : key ∉ named (services.map .listed) := by
        intro hkey
        obtain ⟨service, hlisted, hservice⟩ := mem_named.mp hkey
        obtain ⟨service', hmem, hsame⟩ := List.mem_map.mp hlisted
        obtain rfl := WatchEvent.listed.inj hsame
        exact Service.latest_eq_none_iff.mp hlatest service' hmem hservice
      simp [hunnamed]
  | some service =>
      have hnamed : key ∈ named (services.map .listed) := by
        by_contra hkey
        rw [Service.latest_eq_none_iff.mpr] at hlatest
        · cases hlatest
        · intro service' hmem hservice
          exact hkey (mem_named.mpr ⟨service', List.mem_map.mpr ⟨service', hmem, rfl⟩, hservice⟩)
      simp [hnamed]

end AdmissionFilter

/-! ### All together -/

open WatchEvent AdmissionFilter

/-- What the filter owes the passes after some events. -/
structure Lossless (cls : String) (events : List WatchEvent) : Prop where
  /-- What is remembered is managed, stands under its own identity, and was shown last. -/
  kept : ∀ key service, (after cls events).lastSeen.get? key = some service →
    isManaged service cls = true ∧ ObjectRef.ofService service = key ∧
      Service.latest key (events.filterMap WatchEvent.shown?) = some service
  /-- Nothing is remembered of exactly those Services that count as new. -/
  known : ∀ key, (after cls events).lastSeen.get? key = none ↔ Unknown cls key events
  /-- The first managed version of a Service that counts as new is admitted. -/
  first : ∀ event service, event.shown? = some service → isManaged service cls = true →
    Unknown cls (.ofService service) events →
    ((after cls events).receive event).2 = some service
  /-- A managed version that is being deleted, or has no address, is admitted. -/
  urgent : ∀ event service, event.shown? = some service → isManaged service cls = true →
    (service.isDeleting = true ∨ service.firstIngress? = none) →
    ((after cls events).receive event).2 = some service
  /-- The version that was admitted last has the ports and the annotations of the one that is
  remembered. -/
  faithful : ∀ key service, (after cls events).lastSeen.get? key = some service →
    ∃ last, Service.latest key (admitted cls events) = some last ∧
      last.spec.bind (·.ports) = service.spec.bind (·.ports) ∧
      last.metadata.annotations = service.metadata.annotations
  /-- After a whole listing exactly those Services are remembered that it has named last as
  managed. -/
  listed : ∀ before services, events = before ++ wholeListing services → ∀ key,
    ((after cls events).lastSeen.get? key).isSome = true ↔
      ∃ service, Service.latest key services = some service ∧ isManaged service cls = true

/-- **Nothing that matters is lost.** Whatever the watch reports, listings broken off and begun
again included, after every event the filter remembers the last version of every managed Service
that it has been shown, and the passes that it has called for have seen the ports and annotations of
what it remembers. -/
theorem filter_lossless (cls : String) (events : List WatchEvent) : Lossless cls events where
  kept _ _ := kept_of_get?
  known _ := get?_eq_none_iff
  first event service hshown hmanaged hunknown := by
    rw [answer_of_shown hshown, cls_after, get?_eq_none_iff.mpr hunknown]
    refine if_pos ?_
    simp only [shouldReconcile, hmanaged, Bool.and_self]
  urgent event service hshown hmanaged hurgent := by
    rw [answer_of_shown hshown, cls_after]
    refine if_pos ?_
    by_contra hdropped
    obtain ⟨seen, -, hpassed⟩ :=
      passed_of_not_shouldReconcile hmanaged (Bool.eq_false_iff.mpr hdropped)
    obtain ⟨ingress, hingress, -⟩ := hpassed.shown
    obtain hdeleting | hnone := hurgent
    · rw [hpassed.live] at hdeleting
      cases hdeleting
    · rw [hnone] at hingress
      cases hingress
  faithful _ _ := admitted_of_get?
  listed before services hevents key := by
    subst hevents
    exact isSome_get?_wholeListing before services key

end ServiceTunnel
