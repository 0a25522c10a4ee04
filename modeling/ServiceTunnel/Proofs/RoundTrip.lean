import ServiceTunnel.Proofs.Compact
import ServiceTunnel.Provider.Client

/-!
# ServiceTunnel.Proofs.RoundTrip

**What is written reads back.** A machine and each of its parts, and an address, are read back from
their texts as they were, whatever strings, numbers, lists and maps they hold
(`wire_round_trips`). What is empty or absent is not in the text, and its absence is read as just
that; a part that is there but empty is in the text, so it is not taken for one that is absent.

A provider that repeats the region and the configuration that it was sent therefore describes a
machine that is as asked for.
-/

namespace ServiceTunnel

namespace Json

variable {α : Type}

/-! ### Forms that read back -/

/-- Every value has a form that is exact and is read as that value. -/
structure Faithful (toJson : α → Json) (ofJson? : Decoder α) : Prop where
  exact : ∀ v, (toJson v).Exact
  reads : ∀ v, ofJson? (toJson v) = some v

/-- Every value is read back from its text. -/
def RoundTrips (toJson : α → Json) (ofJson? : Decoder α) : Prop :=
  ∀ v, (parse (toJson v).compact).toOption.bind ofJson? = some v

theorem Faithful.roundTrips {toJson : α → Json} {ofJson? : Decoder α}
    (h : Faithful toJson ofJson?) : RoundTrips toJson ofJson? := by
  intro v
  rw [parse_compact (h.exact v)]
  exact h.reads v

/-! ### Fields of records -/

/-- The slots of an object in which each name stands once at most. -/
theorem slots?_of_filter {fields : List (String × Json)} (slots : List (String × Option Json))
    {names : List String} (hnames : slots.map (·.1) = names)
    (h : ∀ s ∈ slots, (fields.filter fun f => f.1 == s.1) = s.2.toList.map (s.1, ·))
    (least : Nat) : slots? names least (.obj fields) = some (slots.map (·.2)) := by
  subst hnames
  refine mapM_map fun s hs => ?_
  obtain ⟨name, slot⟩ := s
  rw [h _ hs]
  cases slot <;> rfl

/-- A name that a record does not have stands nowhere in its object. -/
theorem filter_record_of_not_mem {fields : List (String × Option Json)} {name : String}
    (h : name ∉ fields.map (·.1)) :
    ((fields.filterMap fun f => f.2.map (f.1, ·)).filter fun f => f.1 == name) = [] := by
  refine List.filter_eq_nil_iff.mpr fun e he => ?_
  obtain ⟨f, hf, hmade⟩ := List.mem_filterMap.mp he
  obtain ⟨j, -, rfl⟩ := Option.map_eq_some_iff.mp hmade
  intro heq
  exact h (List.mem_map.mpr ⟨f, hf, beq_iff_eq.mp heq⟩)

/-- A name that stands once in a record stands in its object with its value, if it has one. -/
theorem filter_record {fields : List (String × Option Json)} (hnames : (fields.map (·.1)).Nodup)
    {s : String × Option Json} (hs : s ∈ fields) :
    ((fields.filterMap fun f => f.2.map (f.1, ·)).filter fun f => f.1 == s.1) =
      s.2.toList.map (s.1, ·) := by
  induction fields with
  | nil => cases hs
  | cons g fields ih =>
    obtain ⟨hnew, hlater⟩ := List.nodup_cons.mp hnames
    obtain ⟨name, slot⟩ := g
    rcases List.mem_cons.mp hs with rfl | hs
    · have hrest := filter_record_of_not_mem hnew
      cases slot <;> simp [hrest]
    · have hne : name ≠ s.1 := fun heq => hnew (heq ▸ List.mem_map.mpr ⟨s, hs, rfl⟩)
      rw [← ih hlater hs]
      cases slot <;> simp [hne]

theorem slots?_record {fields : List (String × Option Json)} {names : List String}
    (hnames : fields.map (·.1) = names) (hnodup : names.Nodup) (least : Nat) :
    slots? names least (record fields) = some (fields.map (·.2)) := by
  subst hnames
  exact slots?_of_filter fields rfl (fun s hs => filter_record hnodup hs) least

/-- An object is the record of its fields. -/
theorem obj_eq_record (fields : List (String × Json)) :
    Json.obj fields = record (fields.map fun f => (f.1, some f.2)) := by
  simp [record]

theorem slots?_obj {fields : List (String × Json)} {names : List String}
    (hnames : fields.map (·.1) = names) (hnodup : names.Nodup) (least : Nat) :
    slots? names least (.obj fields) = some (fields.map fun f => some f.2) := by
  have hslots : slots? names least (record (fields.map fun f => (f.1, some f.2))) = _ :=
    slots?_record (by rw [List.map_map]; exact hnames) hnodup least
  rw [obj_eq_record, hslots, List.map_map]
  rfl

theorem Exact.record {fields : List (String × Option Json)}
    (h : fields.Forall fun f => ∀ j, f.2 = some j → j.Exact) : (record fields).Exact := by
  refine .obj fun e he => ?_
  obtain ⟨f, hf, hmade⟩ := List.mem_filterMap.mp he
  obtain ⟨j, hj, rfl⟩ := Option.map_eq_some_iff.mp hmade
  exact List.forall_iff_forall_mem.mp h f hf j hj

/-! ### Values that are no records -/

theorem faithful_str : Faithful Json.str str? where
  exact := .str
  reads _ := rfl

theorem faithful_int32 : Faithful ofInt32 asInt32 where
  exact _ := .int _
  reads i := by
    have hrange : -2147483648 ≤ i.toInt ∧ i.toInt ≤ 2147483647 :=
      ⟨i.le_toInt, Int.le_of_lt_add_one i.toInt_lt⟩
    rw [ofInt32, asInt32, if_pos hrange, Int32.ofInt_toInt]

theorem faithful_uint32 : Faithful (fun n : UInt32 => ofNat n.toNat) asUInt32 where
  exact _ := .int _
  reads n := by
    have hlt := n.toNat_lt
    rw [ofNat, asUInt32, if_pos ⟨by omega, by omega⟩, Int.toNat_natCast, UInt32.ofNat_toNat]

/-- The entries of a map are in order and have different names, so they make the same map again. -/
theorem faithful_texts : Faithful texts asTexts where
  exact _ := .obj (List.forall_mem_map.mpr fun _ _ => .str _)
  reads m := by
    have hentries : (m.entries.map fun e => (e.1, Json.str e.2)).mapM
        (fun (f : String × Json) => f.2.str?.map (f.1, ·)) = some (m.entries.map id) :=
      mapM_map fun e _ => rfl
    have hback : Dict.ofList m.entries = m :=
      Dict.ext_get? fun k => Dict.get?_ofList m.nodup_keys k
    rw [texts, asTexts, hentries, List.map_id, Option.map_some, hback]

/-! ### Fields that can be left out -/

theorem exact_of_texts {m : Dict String String} {j : Json}
    (hj : (if m.isEmpty then none else some (texts m)) = some j) : j.Exact := by
  split at hj
  · cases hj
  · obtain rfl := Option.some.inj hj
    exact faithful_texts.exact m

/-- An empty map is left out, and what is left out is read as empty. -/
theorem orElse_texts (m : Dict String String) :
    orElse ∅ asTexts (if m.isEmpty then none else some (texts m)) = some m := by
  split
  · rename_i hempty
    have hentries : m.entries = [] := List.isEmpty_iff.mp hempty
    exact congrArg some (Dict.ext_get? fun k => by rw [Dict.get?, Dict.get?, hentries]; rfl)
  · exact faithful_texts.reads m

namespace Faithful

variable {toJson : α → Json} {ofJson? : Decoder α} (h : Faithful toJson ofJson?)

include h

theorem required_some (v : α) : required ofJson? (some (toJson v)) = some v := h.reads v

theorem orElse_some (a v : α) : orElse a ofJson? (some (toJson v)) = some v := h.reads v

theorem exact_of_listField {l : List α} {j : Json} (hj : listField toJson l = some j) :
    j.Exact := by
  rw [listField] at hj
  split at hj
  · cases hj
  · obtain rfl := Option.some.inj hj
    exact .arr (List.forall_mem_map.mpr fun v _ => h.exact v)

/-- An empty list is left out, and what is left out is read as empty. -/
theorem orElse_listField (l : List α) :
    orElse [] (asList ofJson?) (listField toJson l) = some l := by
  cases l with
  | nil => rfl
  | cons a l =>
    have hall : ((a :: l).map toJson).mapM ofJson? = some ((a :: l).map id) :=
      mapM_map fun v _ => h.reads v
    rw [List.map_id] at hall
    exact hall

theorem exact_of_map {o : Option α} {j : Json} (hj : o.map toJson = some j) : j.Exact := by
  obtain ⟨v, -, rfl⟩ := Option.map_eq_some_iff.mp hj
  exact h.exact v

/-- What is absent is left out. What is there is not null, however little it holds. -/
theorem optional_map (hnull : ofJson? .null = none) (o : Option α) :
    optional ofJson? (o.map toJson) = some o := by
  cases o with
  | none => rfl
  | some v =>
    have hne : toJson v ≠ .null := by
      intro hj
      have hread := h.reads v
      rw [hj, hnull] at hread
      cases hread
    rw [Option.map_some, optional, h.reads v]
    · rfl
    · exact hne

end Faithful

end Json

open Json

/-! ### Machines, their parts, and addresses -/

theorem GuestConfig.faithful : Faithful GuestConfig.toJson GuestConfig.ofJson? where
  exact g := by
    refine .obj ?_
    simp [faithful_str.exact, faithful_uint32.exact]
  reads g := by
    rw [toJson, ofJson?, slots?_obj]
    · simp [faithful_str.required_some, faithful_uint32.required_some]
    · rfl
    · decide

theorem InitConfig.faithful : Faithful InitConfig.toJson InitConfig.ofJson? where
  exact i := by
    refine Exact.record ?_
    simp only [List.Forall]
    exact ⟨fun _ => faithful_str.exact_of_listField, fun _ => faithful_str.exact_of_listField⟩
  reads i := by
    rw [toJson, ofJson?, slots?_record]
    · simp [faithful_str.orElse_listField]
    · rfl
    · decide

theorem MachinePort.faithful : Faithful MachinePort.toJson MachinePort.ofJson? where
  exact p := by
    refine Exact.record ?_
    simp only [List.Forall]
    exact ⟨by simp [faithful_int32.exact], fun _ => faithful_str.exact_of_listField⟩
  reads p := by
    rw [toJson, ofJson?, slots?_record]
    · simp [faithful_int32.orElse_some, faithful_str.orElse_listField]
    · rfl
    · decide

theorem MachineService.faithful : Faithful MachineService.toJson MachineService.ofJson? where
  exact s := by
    refine Exact.record ?_
    simp only [List.Forall]
    exact ⟨by simp [faithful_str.exact], by simp [faithful_int32.exact],
      fun _ => MachinePort.faithful.exact_of_listField⟩
  reads s := by
    rw [toJson, ofJson?, slots?_record]
    · simp [faithful_str.orElse_some, faithful_int32.orElse_some,
        MachinePort.faithful.orElse_listField]
    · rfl
    · decide

theorem MachineConfig.faithful : Faithful MachineConfig.toJson MachineConfig.ofJson? where
  exact c := by
    refine Exact.record ?_
    simp only [List.Forall]
    exact ⟨by simp [faithful_str.exact], fun _ => exact_of_texts,
      fun _ => MachineService.faithful.exact_of_listField,
      fun _ => GuestConfig.faithful.exact_of_map, fun _ => InitConfig.faithful.exact_of_map⟩
  reads c := by
    rw [toJson, ofJson?, slots?_record]
    · simp [faithful_str.orElse_some, orElse_texts, MachineService.faithful.orElse_listField,
        GuestConfig.faithful.optional_map rfl, InitConfig.faithful.optional_map rfl]
    · rfl
    · decide

theorem Machine.faithful : Faithful Machine.toJson Machine.ofJson? where
  exact m := by
    refine .obj ?_
    simp [faithful_str.exact, MachineConfig.faithful.exact]
  reads m := by
    rw [toJson, ofJson?, slots?_obj]
    · simp [faithful_str.orElse_some, MachineConfig.faithful.orElse_some]
    · rfl
    · decide

theorem MachineInput.faithful : Faithful MachineInput.toJson MachineInput.ofJson? where
  exact i := by
    refine .obj ?_
    simp [faithful_str.exact, MachineConfig.faithful.exact]
  reads i := by
    rw [toJson, ofJson?, slots?_obj]
    · simp [faithful_str.required_some, MachineConfig.faithful.required_some]
    · rfl
    · decide

theorem IpAddress.faithful : Faithful IpAddress.toJson IpAddress.ofJson? where
  exact i := by
    refine .obj ?_
    simp [faithful_str.exact]
  reads i := by
    rw [toJson, ofJson?, slots?_obj]
    · simp [faithful_str.orElse_some]
    · rfl
    · decide

/-! ### What is left out -/

/-- The text is that of an object whose fields have these names. -/
def Json.Names (text : String) (names : List String) : Prop :=
  ∃ fields, Json.parse text = .ok (.obj fields) ∧ fields.map (·.1) = names

/-- The names of the fields that are there. -/
def Json.present (fields : List (String × Bool)) : List String :=
  (fields.filter (·.2)).map (·.1)

/-- The text of a record names the fields that have a value, and no others. -/
theorem Json.names_record {fields : List (String × Option Json)} (h : (record fields).Exact) :
    Names (record fields).compact (present (fields.map fun f => (f.1, f.2.isSome))) := by
  refine ⟨_, parse_compact h, ?_⟩
  clear h
  induction fields with
  | nil => rfl
  | cons f fields ih =>
    obtain ⟨name, slot⟩ := f
    cases slot with
    | none => exact ih
    | some j => exact congrArg (name :: ·) ih

theorem isSome_listField {α : Type} (f : α → Json) (l : List α) :
    (listField f l).isSome = !l.isEmpty := by
  cases l <;> rfl

theorem isSome_texts (m : Dict String String) :
    (if m.isEmpty then none else some (texts m)).isSome = !m.isEmpty := by
  cases m.isEmpty <;> rfl

theorem MachineConfig.names (c : MachineConfig) :
    Names c.toJson.compact (present [("image", true), ("env", !c.env.isEmpty),
      ("services", !c.services.isEmpty), ("guest", c.guest.isSome), ("init", c.init.isSome)]) := by
  have h := names_record (MachineConfig.faithful.exact c)
  simp only [List.map_cons, List.map_nil, isSome_texts, isSome_listField, Option.isSome_map] at h
  exact h

theorem MachineService.names (s : MachineService) :
    Names s.toJson.compact (present [("protocol", true), ("internal_port", true),
      ("ports", !s.ports.isEmpty)]) := by
  have h := names_record (MachineService.faithful.exact s)
  simp only [List.map_cons, List.map_nil, isSome_listField] at h
  exact h

theorem MachinePort.names (p : MachinePort) :
    Names p.toJson.compact (present [("port", true), ("handlers", !p.handlers.isEmpty)]) := by
  have h := names_record (MachinePort.faithful.exact p)
  simp only [List.map_cons, List.map_nil, isSome_listField] at h
  exact h

theorem InitConfig.names (i : InitConfig) :
    Names i.toJson.compact (present [("entrypoint", !i.entrypoint.isEmpty),
      ("cmd", !i.cmd.isEmpty)]) := by
  have h := names_record (InitConfig.faithful.exact i)
  simp only [List.map_cons, List.map_nil, isSome_listField] at h
  exact h

/-! ### Echoes -/

namespace Provider

/-- An answer of success that describes a machine with the region and the configuration that stand
in the text `sent`. What else is known of a machine is a text or missing; other fields do not
count. -/
structure Echoes (a : Http.Answer) (sent : String) : Prop where
  success : Http.isSuccess a.status = true
  body : ∃ fields asked, Json.parse a.body = .ok (.obj fields) ∧
    Json.parse sent = .ok (.obj asked) ∧
    (∀ name ∈ ["region", "config"],
      (fields.filter fun f => f.1 == name) = asked.filter fun f => f.1 == name) ∧
    ∀ name ∈ ["id", "name", "state", "instance_id", "private_ip"], ∃ text : Option String,
      (fields.filter fun f => f.1 == name) = (text.map Json.str).toList.map (name, ·)

theorem orElse_text (text : Option String) :
    Json.orElse "" Json.str? (text.map .str) = some (text.getD "") := by
  cases text <;> rfl

/-- An echo of what was asked for is read as a machine with that region and configuration. -/
theorem Echoes.read {a : Http.Answer} {input : MachineInput}
    (h : Echoes a input.toJson.compact) : ∃ m, Talk.read Machine.ofJson? a = .ok m ∧
      m.region = input.region ∧ m.config = input.config := by
  obtain ⟨fields, asked, hbody, hsent, hsame, htexts⟩ := h.body
  rw [parse_compact (MachineInput.faithful.exact input)] at hsent
  obtain rfl : _ = asked := Json.obj.inj (Except.ok.inj hsent)
  have hregion := hsame "region" (by simp)
  have hconfig := hsame "config" (by simp)
  obtain ⟨id, hid⟩ := htexts "id" (by simp)
  obtain ⟨name, hname⟩ := htexts "name" (by simp)
  obtain ⟨state, hstate⟩ := htexts "state" (by simp)
  obtain ⟨instanceId, hinstance⟩ := htexts "instance_id" (by simp)
  obtain ⟨privateIp, hprivate⟩ := htexts "private_ip" (by simp)
  have hslots : Json.slots?
      ["id", "name", "state", "region", "instance_id", "private_ip", "config"] 0 (.obj fields) =
      some [id.map .str, name.map .str, state.map .str, some (.str input.region),
        instanceId.map .str, privateIp.map .str, some input.config.toJson] := by
    refine slots?_of_filter [("id", id.map .str), ("name", name.map .str),
      ("state", state.map .str), ("region", some (.str input.region)),
      ("instance_id", instanceId.map .str), ("private_ip", privateIp.map .str),
      ("config", some input.config.toJson)] rfl ?_ 0
    simp only [List.forall_mem_cons]
    exact ⟨hid, hname, hstate, hregion, hinstance, hprivate, hconfig, List.forall_mem_nil _⟩
  have hread : Machine.ofJson? (.obj fields) = some {
      id := id.getD "", name := name.getD "", state := state.getD "", region := input.region
      instanceId := instanceId.getD "", privateIp := privateIp.getD ""
      config := input.config } := by
    rw [Machine.ofJson?, hslots]
    simp [orElse_text, faithful_str.orElse_some, MachineConfig.faithful.orElse_some]
  rw [Talk.read_of_isSuccess _ h.success, hbody, Except.toOption, Option.bind_some, hread]
  exact ⟨_, rfl, rfl, rfl⟩

/-! ### Calls -/

section

variable {σ : Type} (handle : (r : Http.exchange.Call) → σ → Http.exchange.Reply r × σ)

/-- A provider that answers every request with an echo of `sent`. -/
def Echoing (sent : String) : Prop := ∀ r s, ∃ a, (handle r s).1 = some a ∧ Echoes a sent

/-- The calls that end with a machine, where the machine is asked for by `input`. -/
def machineCalls (access : Access) (app id : String) (input : MachineInput) : List (Talk Machine) :=
  [Talk.ofCall access (.createMachine app input), Talk.ofCall access (.updateMachine app id input),
    Talk.ofCall access (.getMachine app id)]

variable {handle}

/-- A request without an address or a header that can be sent is not made. -/
theorem unsendable_of_request {token : String} {w : Http.Wish} {b : Http.Breakdown}
    (h : w.request token = .error b) : ∃ url, b = .unsendable url := by
  unfold Http.Wish.request at h
  split at h
  · exact ⟨_, (Except.error.inj h).symm⟩
  · dsimp only at h
    split_ifs at h
    all_goals exact ⟨_, (Except.error.inj h).symm⟩

/-- An answer of success leads nowhere else. -/
theorem redirected?_of_isSuccess {r : Http.Request} {a : Http.Answer}
    (h : Http.isSuccess a.status = true) : Http.redirected? r a = none := by
  rw [Http.redirected?, if_neg]
  intro hcontains
  simp only [Http.isSuccess, Bool.and_eq_true, decide_eq_true_eq] at h
  simp at hcontains
  omega

/-- A request that can be sent is answered by the provider itself. -/
theorem Echoing.send {sent : String} (h : Echoing handle sent) (token : String) (w : Http.Wish)
    (s : σ) : (∃ url, ((Http.send token w).run handle s).1 = .error (.unsendable url)) ∨
      ∃ a, ((Http.send token w).run handle s).1 = .ok a ∧ Echoes a sent := by
  rw [Http.send]
  cases hrequest : w.request token with
  | error b =>
    obtain ⟨url, rfl⟩ := unsendable_of_request hrequest
    exact .inl ⟨url, rfl⟩
  | ok r =>
    obtain ⟨a, hreply, hechoes⟩ := h r s
    refine .inr ⟨a, ?_, hechoes⟩
    have hstays : Http.redirected? r a = none := redirected?_of_isSuccess hechoes.success
    show ((Http.follow Http.redirectLimit r).run handle s).1 = .ok a
    rw [Http.follow, Program.run.eq_def]
    dsimp only
    rw [hreply]
    dsimp only
    rw [hstays]
    rfl

/-- Every such call makes one request, and reads the answer as a machine. -/
theorem ask_of_mem_machineCalls {access : Access} {app id : String} {input : MachineInput}
    {talk : Talk Machine} (h : talk ∈ machineCalls access app id input) :
    ∃ w, talk = Talk.ask access w (Talk.read Machine.ofJson?) := by
  simp only [machineCalls, Talk.ofCall, List.mem_cons, List.not_mem_nil, or_false] at h
  obtain h | h | h := h
  · exact ⟨_, h⟩
  · exact ⟨_, h⟩
  · exact ⟨_, h⟩

/-- A call that can be sent to such a provider ends with a machine that is as asked for. -/
theorem Echoing.machine {input : MachineInput} (h : Echoing handle input.toJson.compact)
    {access : Access} {app id : String} {talk : Talk Machine}
    (htalk : talk ∈ machineCalls access app id input) (s : σ) :
    (∃ url, (talk.run handle s).1 = .error (.http (Http.Breakdown.unsendable url).message)) ∨
      ∃ m, (talk.run handle s).1 = .ok m ∧ input.matchesMachine m = true := by
  obtain ⟨w, rfl⟩ := ask_of_mem_machineCalls htalk
  rw [Talk.ask, Program.run_bind]
  obtain ⟨url, hsend⟩ | ⟨a, hsend, hechoes⟩ := h.send access.token w s
  · rw [hsend]
    exact .inl ⟨url, rfl⟩
  · obtain ⟨m, hread, hregion, hconfig⟩ := hechoes.read
    refine .inr ⟨m, ?_, ?_⟩
    · rw [hsend]
      exact hread
    · simp [MachineInput.matchesMachine, hregion, hconfig]

end

end Provider

/-! ### The wire format -/

/-- **What is written reads back.** Every machine, configuration, input for a machine, listener,
port, guest, start-up and address is read back from its text as it was. The text has no field for an
empty list, an empty map or an absent part, but has one for a part that is there and empty. And if a
provider repeats the region and the configuration of a request in its answers, then every call that
ends with a machine, unless it cannot be sent at all, ends with one that is as asked for. -/
theorem wire_round_trips :
    (RoundTrips Machine.toJson Machine.ofJson? ∧
      RoundTrips MachineConfig.toJson MachineConfig.ofJson? ∧
      RoundTrips MachineInput.toJson MachineInput.ofJson? ∧
      RoundTrips MachineService.toJson MachineService.ofJson? ∧
      RoundTrips MachinePort.toJson MachinePort.ofJson? ∧
      RoundTrips GuestConfig.toJson GuestConfig.ofJson? ∧
      RoundTrips InitConfig.toJson InitConfig.ofJson? ∧
      RoundTrips IpAddress.toJson IpAddress.ofJson?) ∧
    ((∀ c : MachineConfig, Names c.toJson.compact (present [("image", true),
        ("env", !c.env.isEmpty), ("services", !c.services.isEmpty), ("guest", c.guest.isSome),
        ("init", c.init.isSome)])) ∧
      (∀ s : MachineService, Names s.toJson.compact (present [("protocol", true),
        ("internal_port", true), ("ports", !s.ports.isEmpty)])) ∧
      (∀ p : MachinePort, Names p.toJson.compact (present [("port", true),
        ("handlers", !p.handlers.isEmpty)])) ∧
      ∀ i : InitConfig, Names i.toJson.compact (present [("entrypoint", !i.entrypoint.isEmpty),
        ("cmd", !i.cmd.isEmpty)])) ∧
    ∀ {σ : Type} (handle : (r : Http.exchange.Call) → σ → Http.exchange.Reply r × σ) (s : σ)
      (access : Provider.Access) (app id : String) (input : MachineInput),
      Provider.Echoing handle input.toJson.compact →
        ∀ talk ∈ Provider.machineCalls access app id input,
          (∃ url, (talk.run handle s).1 =
            .error (.http (Http.Breakdown.unsendable url).message)) ∨
          ∃ m, (talk.run handle s).1 = .ok m ∧ input.matchesMachine m = true := by
  refine ⟨⟨Machine.faithful.roundTrips, MachineConfig.faithful.roundTrips,
    MachineInput.faithful.roundTrips, MachineService.faithful.roundTrips,
    MachinePort.faithful.roundTrips, GuestConfig.faithful.roundTrips,
    InitConfig.faithful.roundTrips, IpAddress.faithful.roundTrips⟩,
    ⟨MachineConfig.names, MachineService.names, MachinePort.names, InitConfig.names⟩, ?_⟩
  intro σ handle s access app id input h talk htalk
  exact h.machine htalk s

/-- An echo with some fields more and some fewer. The start-up is there, though it is empty. -/
theorem wire_round_trips_web :
    let input : MachineInput := {
      name := "web", region := "ord", config := { image := "frps", init := some {} } }
    let a : Http.Answer := { body := (Json.obj [("id", .str "e148"), ("state", .str "started"),
      ("region", .str input.region), ("created_at", .str "2024-01-01T00:00:00Z"),
      ("config", input.config.toJson)]).compact }
    let handle : (r : Http.exchange.Call) → Unit → Http.exchange.Reply r × Unit :=
      fun _ s => (some a, s)
    let access : Provider.Access :=
      ⟨"http://[::1]:4280", "http://[::1]:4280/graphql", "test-token"⟩
    ∃ m, ((Provider.Talk.ofCall access (.getMachine "tunnel" "e148")).run handle ()).1 = .ok m ∧
      input.matchesMachine m = true := by
  intro input a handle access
  have hexact : (Json.obj [("id", .str "e148"), ("state", .str "started"),
      ("region", .str input.region), ("created_at", .str "2024-01-01T00:00:00Z"),
      ("config", input.config.toJson)]).Exact :=
    .obj (by simp [faithful_str.exact, MachineConfig.faithful.exact])
  have hechoes : Provider.Echoes a input.toJson.compact := by
    refine ⟨rfl, _, _, parse_compact hexact,
      parse_compact (MachineInput.faithful.exact input), ?_, ?_⟩
    · simp
    · simp only [List.forall_mem_cons]
      exact ⟨⟨some "e148", rfl⟩, ⟨none, rfl⟩, ⟨some "started", rfl⟩, ⟨none, rfl⟩, ⟨none, rfl⟩,
        List.forall_mem_nil _⟩
  have h := wire_round_trips.2.2 handle () access "tunnel" "e148" input
    (fun _ _ => ⟨a, rfl, hechoes⟩) (Provider.Talk.ofCall access (.getMachine "tunnel" "e148"))
    (by simp [Provider.machineCalls])
  -- the request can be sent, so the call does not end with an error
  have hread :
      ((Provider.Talk.ofCall access (.getMachine "tunnel" "e148")).run handle ()).1.toBool =
        true := by
    decide +kernel
  refine h.resolve_left fun hunsent => ?_
  obtain ⟨url, hurl⟩ := hunsent
  rw [hurl] at hread
  cases hread

end ServiceTunnel
