import ServiceTunnel.Proofs.Derived

/-!
# ServiceTunnel.Proofs.Lossless

**Annotations and records say the same.** A record is written as one annotation for each part that
is there (`get?_toAnnotations_eq`), and read from the annotations that are not empty
(`get?_toAnnotations_ofAnnotations`). So writing what was read leaves exactly the operator's own
annotations, reading what was written gives the record back unless a part of it is empty, and a
tunnel that is recorded on a Service disturbs nothing that its users have asked for.
-/

namespace ServiceTunnel

/-! ### Entries that may be absent -/

namespace Dict

open Std

variable {κ α : Type} [Ord κ] [TransOrd κ] [LawfulEqOrd κ]

/-- The entries that are there. -/
def present (l : List (κ × Option α)) : List (κ × α) := l.filterMap fun e => e.2.map (e.1, ·)

omit [Ord κ] [TransOrd κ] [LawfulEqOrd κ] in
@[simp] theorem present_cons_none (k : κ) (l : List (κ × Option α)) :
    present ((k, none) :: l) = present l := rfl

omit [Ord κ] [TransOrd κ] [LawfulEqOrd κ] in
@[simp] theorem present_cons_some (k : κ) (v : α) (l : List (κ × Option α)) :
    present ((k, some v) :: l) = (k, v) :: present l := rfl

omit [Ord κ] [TransOrd κ] [LawfulEqOrd κ] in
theorem keys_present (l : List (κ × Option α)) :
    ((present l).map (·.1)).Sublist (l.map (·.1)) := by
  induction l with
  | nil => exact .slnil
  | cons e rest ih =>
      obtain ⟨key, value⟩ := e
      cases value with
      | none => exact ih.cons key
      | some v => exact ih.cons_cons key

omit [TransOrd κ] in
theorem find_present {l : List (κ × Option α)} (hl : (l.map (·.1)).Nodup) (k : κ) :
    find k (present l) = (find k l).join := by
  induction l with
  | nil => rfl
  | cons e rest ih =>
      obtain ⟨key, value⟩ := e
      obtain ⟨hnew, hrest⟩ := List.nodup_cons.mp hl
      cases value with
      | some v =>
          rw [present_cons_some, find, find, ih hrest]
          split <;> rfl
      | none =>
          rw [present_cons_none, find, ih hrest]
          split
          · rename_i hk
            rw [LawfulEqCmp.eq_of_compare hk, find_eq_none_of_not_mem hnew]
            rfl
          · rfl

/-- In the map of the entries that are there, each is found, and nothing else. -/
theorem get?_ofList_present {l : List (κ × Option α)} (hl : (l.map (·.1)).Nodup) (k : κ) :
    (ofList (present l)).get? k = (find k l).join := by
  rw [get?_ofList ((keys_present l).nodup hl), find_present hl]

omit [TransOrd κ] in
theorem find_map_pair [DecidableEq κ] (f : κ → α) (ks : List κ) (k : κ) :
    find k (ks.map fun key => (key, f key)) = if k ∈ ks then some (f k) else none := by
  induction ks with
  | nil => rfl
  | cons key rest ih =>
      rw [List.map_cons, find]
      by_cases hk : k = key
      · rw [hk, if_pos ReflCmp.compare_self, if_pos List.mem_cons_self]
      · rw [if_neg fun h => hk (LawfulEqCmp.eq_of_compare h), ih]
        simp only [List.mem_cons, hk, false_or]

end Dict

namespace TunnelRecord

variable (r : TunnelRecord) (annotations : Dict String String)

/-! ### What is written -/

theorem nodup_keys_parts : (r.parts.map (·.1)).Nodup :=
  show Annotations.recordKeys.Nodup by decide

theorem get?_toAnnotations_eq (key : String) :
    r.toAnnotations.get? key = (Dict.find key r.parts).join :=
  Dict.get?_ofList_present r.nodup_keys_parts key

theorem get?_toAnnotations_of_mem {key : String} {value : Option String}
    (h : (key, value) ∈ r.parts) : r.toAnnotations.get? key = value := by
  have hfind : Dict.find key r.parts = some value := by
    rw [← Dict.get?_ofList r.nodup_keys_parts]
    exact Dict.get?_ofList_of_mem r.nodup_keys_parts h
  rw [get?_toAnnotations_eq, hfind, Option.join_some]

/-- What is read is written under its key. -/
theorem get?_toAnnotations_ofAnnotations (key : String) :
    (ofAnnotations annotations).toAnnotations.get? key =
      if key ∈ Annotations.recordKeys then Annotations.nonEmpty? annotations key else none := by
  have hparts : (ofAnnotations annotations).parts =
      Annotations.recordKeys.map fun key => (key, Annotations.nonEmpty? annotations key) := rfl
  rw [get?_toAnnotations_eq, hparts, Dict.find_map_pair]
  split <;> rfl

/-- Of annotations that are read and written again, those of the operator are left. -/
theorem toAnnotations_ofAnnotations : (ofAnnotations annotations).toAnnotations =
    annotations.filter fun key value => Annotations.recordKeys.contains key && value != "" := by
  refine Dict.ext_get? fun key => ?_
  rw [get?_toAnnotations_ofAnnotations, Dict.get?_filter]
  split
  · rename_i hkey
    simp only [List.contains_iff_mem.mpr hkey, Bool.true_and]
    rfl
  · rename_i hkey
    rw [← List.contains_iff_mem, Bool.not_eq_true] at hkey
    rw [hkey]
    exact (Option.filter_eq_none_iff.mpr fun _ _ => Bool.false_ne_true).symm

/-! ### What is read back -/

theorem ofAnnotations_toAnnotations : ofAnnotations r.toAnnotations = r.nonEmpty := by
  have hread : ∀ {key value}, (key, value) ∈ r.parts →
      Annotations.nonEmpty? r.toAnnotations key = value.filter (· != "") := fun h => by
    rw [Annotations.nonEmpty?, r.get?_toAnnotations_of_mem h]
  rw [ofAnnotations, nonEmpty, mk.injEq]
  exact ⟨hread (by simp [parts]), hread (by simp [parts]), hread (by simp [parts]),
    hread (by simp [parts]), hread (by simp [parts])⟩

theorem filter_eq_self_iff {value : Option String} :
    value.filter (· != "") = value ↔ value ≠ some "" := by
  cases value with
  | none => simp
  | some v => by_cases hv : v = "" <;> simp [hv]

theorem nonEmpty_eq_self_iff : r.nonEmpty = r ↔ ∀ part ∈ r.parts, part.2 ≠ some "" := by
  obtain ⟨flyApp, machineId, frpcDeployment, ipId, publicIp⟩ := r
  simp only [nonEmpty, parts, mk.injEq, filter_eq_self_iff, List.forall_mem_cons]
  simp only [List.not_mem_nil, false_implies, implies_true, and_true]

/-! ### What is recorded among other annotations -/

/-- A tunnel has been recorded, and everything but the record reads as before. -/
structure Adds (before after : Dict String String) (t : Tunnel) : Prop where
  read : ofAnnotations after = ofTunnel t
  others : ∀ key, key ∉ Annotations.recordKeys → after.get? key = before.get? key
  requirements : Requirements.resolve after = Requirements.resolve before
  placement : Placement.ofAnnotations after = Placement.ofAnnotations before

theorem adds_merge {t : Tunnel} (ht : t.Complete) :
    Adds annotations (annotations.merge (ofTunnel t).toAnnotations) t := by
  have hothers : ∀ key, key ∉ Annotations.recordKeys →
      (annotations.merge (ofTunnel t).toAnnotations).get? key = annotations.get? key :=
    fun _ hkey => get?_merge_of_notMem annotations t hkey
  refine ⟨?_, hothers, Requirements.resolve_congr hothers, Placement.ofAnnotations_congr hothers⟩
  rw [ofAnnotations_merge, nonEmpty_ofTunnel ht.appName ht.machineId ht.deploymentName ht.ipId
    ht.publicIp]

/-- **Nothing is lost between annotations and records, and nothing else is touched.** A tunnel is
read back as it was recorded, on whatever Service; of annotations those are kept in a record that
are the operator's own and not empty; and a record is read back as it was exactly if no part of it
is empty. -/
theorem annotations_lossless :
    (∀ (annotations : Dict String String) (t : Tunnel), t.Complete →
      Adds annotations (annotations.merge (ofTunnel t).toAnnotations) t) ∧
      (∀ annotations : Dict String String, (ofAnnotations annotations).toAnnotations =
        annotations.filter fun key value =>
          Annotations.recordKeys.contains key && value != "") ∧
      ∀ r : TunnelRecord, ofAnnotations r.toAnnotations = r ↔
        ∀ part ∈ r.parts, part.2 ≠ some "" := by
  refine ⟨fun annotations t ht => adds_merge annotations ht, toAnnotations_ofAnnotations,
    fun r => ?_⟩
  rw [ofAnnotations_toAnnotations, nonEmpty_eq_self_iff]

/-- An older record is replaced, a wish and a foreign annotation stay. -/
theorem annotations_lossless_again :
    let before : Dict String String := .ofList [("example.com/owner", "web"),
      (Annotations.flyApp, ""), (Annotations.machineId, "m-0"), (Annotations.cpuLimit, "1x")]
    let t : Tunnel := ⟨"fly-tunnel-default-web", "m-1", "192.0.2.1", "ip-1", "frpc-default-web"⟩
    t.Complete ∧ Adds before (before.merge (ofTunnel t).toAnnotations) t := by
  intro before t
  have ht : t.Complete := ⟨by decide, by decide, by decide, by decide, by decide⟩
  exact ⟨ht, annotations_lossless.1 before t ht⟩

end TunnelRecord

end ServiceTunnel
