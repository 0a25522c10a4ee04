import ServiceTunnel.Dict

/-!
# ServiceTunnel.Proofs.Lookup

**What maps answer, key by key.** For keys whose order is lawful, each equation of look-up splits
into the key that an operation is about and the others. Storing what is there, removing what is not
there, and keeping what passes change nothing (`insert_of_get?`, `erase_of_get?`,
`filter_of_get?`).
-/

namespace ServiceTunnel.Dict

open Std

variable {κ α : Type} [Ord κ] [TransOrd κ] [LawfulEqOrd κ]

@[simp] theorem get?_insert_self (m : Dict κ α) (k : κ) (v : α) :
    (m.insert k v).get? k = some v := by
  rw [get?_insert, if_pos ReflCmp.compare_self]

theorem get?_insert_ne (m : Dict κ α) {k k' : κ} (h : k' ≠ k) (v : α) :
    (m.insert k v).get? k' = m.get? k' := by
  rw [get?_insert, if_neg fun e => h (LawfulEqCmp.eq_of_compare e)]

@[simp] theorem get?_erase_self (m : Dict κ α) (k : κ) : (m.erase k).get? k = none := by
  rw [get?_erase, if_pos ReflCmp.compare_self]

theorem get?_erase_ne (m : Dict κ α) {k k' : κ} (h : k' ≠ k) :
    (m.erase k).get? k' = m.get? k' := by
  rw [get?_erase, if_neg fun e => h (LawfulEqCmp.eq_of_compare e)]

omit [TransOrd κ] in
/-- What is stored is found under its key. -/
theorem find_eq_some_iff {l : List (κ × α)} (hl : l.Pairwise Ascends) {k : κ} {v : α} :
    find k l = some v ↔ (k, v) ∈ l := by
  induction l with
  | nil => simp [find]
  | cons e rest ih =>
      obtain ⟨hbelow, hrest⟩ := List.pairwise_cons.1 hl
      rw [find, List.mem_cons]
      by_cases hk : k = e.1
      · subst hk
        have hnone : (e.1, v) ∉ rest := fun hmem => by
          have hself : compare e.1 e.1 = .lt := hbelow (e.1, v) hmem
          rw [show compare e.1 e.1 = .eq from ReflCmp.compare_self] at hself
          cases hself
        rw [if_pos ReflCmp.compare_self, or_iff_left hnone, Option.some.injEq]
        exact ⟨fun h => h ▸ rfl, fun h => congrArg Prod.snd h.symm⟩
      · have hne : (k, v) ≠ e := fun h => hk (congrArg Prod.fst h)
        rw [if_neg fun h => hk (LawfulEqCmp.eq_of_compare h), or_iff_right hne]
        exact ih hrest

omit [TransOrd κ] in
theorem mem_values {m : Dict κ α} {v : α} : v ∈ m.values ↔ ∃ k, m.get? k = some v := by
  rw [values, List.mem_map]
  constructor
  · intro h
    obtain ⟨e, he, rfl⟩ := h
    exact ⟨e.1, (find_eq_some_iff m.ascending).mpr he⟩
  · intro h
    obtain ⟨k, hk⟩ := h
    exact ⟨(k, v), (find_eq_some_iff m.ascending).mp hk, rfl⟩

/-! ### Adding many entries -/

omit [TransOrd κ] in
theorem find_eq_none_of_not_mem {k : κ} {l : List (κ × α)} (h : k ∉ l.map (·.1)) :
    find k l = none := by
  induction l with
  | nil => rfl
  | cons e rest ih =>
      rw [List.map_cons, List.mem_cons, not_or] at h
      rw [find, if_neg fun heq => h.1 (LawfulEqCmp.eq_of_compare heq), ih h.2]

omit [LawfulEqOrd κ] in
/-- No key has two entries. -/
theorem nodup_keys (m : Dict κ α) : m.keys.Nodup := by
  refine List.pairwise_map.mpr (m.ascending.imp fun {a b} hascends heq => ?_)
  have hlt : compare a.1 b.1 = .lt := hascends
  rw [heq, show compare b.1 b.1 = .eq from ReflCmp.compare_self] at hlt
  cases hlt

/-- Of entries with different keys, each is found, and what they do not name is found as before. -/
theorem get?_foldl_insert (m : Dict κ α) {l : List (κ × α)} (hl : (l.map (·.1)).Nodup) (k : κ) :
    (l.foldl (fun m e => m.insert e.1 e.2) m).get? k = (find k l).or (m.get? k) := by
  induction l generalizing m with
  | nil => rfl
  | cons e rest ih =>
      obtain ⟨hnew, hrest⟩ := List.nodup_cons.mp hl
      rw [List.foldl_cons, ih _ hrest]
      by_cases hk : k = e.1
      · subst hk
        rw [find_eq_none_of_not_mem hnew, get?_insert_self, find, if_pos ReflCmp.compare_self]
        rfl
      · have hne : compare k e.1 ≠ .eq := fun h => hk (LawfulEqCmp.eq_of_compare h)
        rw [get?_insert_ne _ hk, find, if_neg hne]

/-- In a map of entries with different keys, each is found. -/
theorem get?_ofList {l : List (κ × α)} (hl : (l.map (·.1)).Nodup) (k : κ) :
    (ofList l).get? k = find k l :=
  (get?_foldl_insert ∅ hl k).trans Option.or_none

theorem get?_ofList_of_mem {l : List (κ × α)} (hl : (l.map (·.1)).Nodup) {k : κ} {v : α}
    (h : (k, v) ∈ l) : (ofList l).get? k = some v := by
  rw [get?_ofList hl]
  induction l with
  | nil => exact absurd h List.not_mem_nil
  | cons e rest ih =>
      obtain ⟨hnew, hrest⟩ := List.nodup_cons.mp hl
      rcases List.mem_cons.mp h with rfl | h
      · rw [find, if_pos ReflCmp.compare_self]
      · have hne : k ≠ e.1 := fun heq => hnew (List.mem_map.mpr ⟨(k, v), h, heq⟩)
        rw [find, if_neg fun heq => hne (LawfulEqCmp.eq_of_compare heq)]
        exact ih hrest h

theorem get?_ofList_of_not_mem {l : List (κ × α)} (hl : (l.map (·.1)).Nodup) {k : κ}
    (h : k ∉ l.map (·.1)) : (ofList l).get? k = none :=
  (get?_ofList hl k).trans (find_eq_none_of_not_mem h)

/-- The first of entries with different keys may as well be stored last. -/
theorem ofList_cons {k : κ} {v : α} {l : List (κ × α)} (hl : (((k, v) :: l).map (·.1)).Nodup) :
    ofList ((k, v) :: l) = (ofList l).insert k v := by
  refine ext_get? fun k' => ?_
  rw [get?_ofList hl, get?_insert, get?_ofList (List.nodup_cons.mp hl).2]
  rfl

/-- What is added wins. -/
theorem get?_merge (m more : Dict κ α) (k : κ) :
    (m.merge more).get? k = (more.get? k).or (m.get? k) :=
  get?_foldl_insert m more.nodup_keys k

@[simp] theorem empty_merge (more : Dict κ α) : (∅ : Dict κ α).merge more = more := by
  refine ext_get? fun k => ?_
  rw [get?_merge]
  exact Option.or_none

/-! ### Operations that change nothing -/

theorem insert_of_get? {m : Dict κ α} {k : κ} {v : α} (h : m.get? k = some v) :
    m.insert k v = m := by
  refine ext_get? fun k' => ?_
  by_cases hk : k' = k
  · rw [hk, get?_insert_self, h]
  · rw [get?_insert_ne _ hk]

theorem filter_of_get? {m : Dict κ α} {p : κ → α → Bool}
    (h : ∀ k v, m.get? k = some v → p k v = true) : m.filter p = m := by
  refine ext_get? fun k => ?_
  rw [get?_filter]
  cases hm : m.get? k with
  | none => rfl
  | some v => rw [Option.filter_some, if_pos (h k v hm)]

theorem erase_of_get? {m : Dict κ α} {k : κ} (h : m.get? k = none) : m.erase k = m := by
  refine ext_get? fun k' => ?_
  by_cases hk : k' = k
  · rw [hk, get?_erase_self, h]
  · rw [get?_erase_ne _ hk]

end ServiceTunnel.Dict
