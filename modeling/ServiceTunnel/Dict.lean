/-!
# ServiceTunnel.Dict

**Finite maps with an ordered key.** A `Dict` holds its entries in ascending order of key, so two
maps that answer every look-up alike are equal (`Dict.ext_get?`), and listing a map always gives
the same order. Each operation comes with the one equation that says what it does to look-up.
-/

namespace ServiceTunnel

open Std

variable {κ α : Type} [Ord κ]

/-- Two entries stand in ascending order of key. -/
def Dict.Ascends (a b : κ × α) : Prop := compare a.1 b.1 = .lt

/-- A finite map from `κ` to `α`. -/
structure Dict (κ α : Type) [Ord κ] where
  /-- The entries, ascending by key. -/
  entries : List (κ × α)
  ascending : entries.Pairwise Dict.Ascends

namespace Dict

instance [DecidableEq κ] [DecidableEq α] : DecidableEq (Dict κ α) := fun a b =>
  if h : a.entries = b.entries then .isTrue (by cases a; cases b; cases h; rfl)
  else .isFalse (fun e => h (congrArg entries e))

/-- The map without entries. -/
def empty : Dict κ α := ⟨[], .nil⟩

instance : EmptyCollection (Dict κ α) := ⟨empty⟩
instance : Inhabited (Dict κ α) := ⟨empty⟩

/-! ### Operations on entry lists -/

/-- The value stored first under `k`. -/
def find (k : κ) : List (κ × α) → Option α
  | [] => none
  | e :: rest => if compare k e.1 = .eq then some e.2 else find k rest

/-- Puts `v` under `k` at its place, replacing what stood there. -/
def place (k : κ) (v : α) : List (κ × α) → List (κ × α)
  | [] => [(k, v)]
  | e :: rest =>
    match compare k e.1 with
    | .lt => (k, v) :: e :: rest
    | .eq => (k, v) :: rest
    | .gt => e :: place k v rest

theorem mem_place {k : κ} {v : α} {l : List (κ × α)} {e : κ × α} (h : e ∈ place k v l) :
    e = (k, v) ∨ e ∈ l := by
  induction l with
  | nil => simpa [place] using h
  | cons x rest ih =>
    unfold place at h
    split at h
    · simpa using h
    · simp only [List.mem_cons] at h ⊢
      rcases h with h | h
      · exact .inl h
      · exact .inr (.inr h)
    · simp only [List.mem_cons] at h ⊢
      rcases h with h | h
      · exact .inr (.inl h)
      · exact (ih h).imp_right .inr

theorem ascending_place [TransOrd κ] (k : κ) (v : α) {l : List (κ × α)}
    (h : l.Pairwise Ascends) : (place k v l).Pairwise Ascends := by
  induction l with
  | nil => simp [place]
  | cons x rest ih =>
    have hrest := (List.pairwise_cons.1 h).2
    have hx := (List.pairwise_cons.1 h).1
    unfold place
    split
    · rename_i hlt
      refine List.pairwise_cons.2 ⟨fun e he => ?_, h⟩
      rcases List.mem_cons.1 he with rfl | he
      · exact hlt
      · exact TransCmp.lt_trans hlt (hx e he)
    · rename_i heq
      refine List.pairwise_cons.2 ⟨fun e he => ?_, hrest⟩
      exact TransCmp.lt_of_eq_of_lt heq (hx e he)
    · rename_i hgt
      refine List.pairwise_cons.2 ⟨fun e he => ?_, ih hrest⟩
      rcases mem_place he with rfl | he
      · exact OrientedCmp.lt_of_gt hgt
      · exact hx e he

/-! ### Operations -/

/-- The value under `k`. -/
def get? (m : Dict κ α) (k : κ) : Option α := find k m.entries

/-- Whether `k` has a value. -/
def contains (m : Dict κ α) (k : κ) : Bool := (m.get? k).isSome

/-- The keys in ascending order. -/
def keys (m : Dict κ α) : List κ := m.entries.map (·.1)

/-- The values in ascending order of their keys. -/
def values (m : Dict κ α) : List α := m.entries.map (·.2)

/-- Whether there is no entry. -/
def isEmpty (m : Dict κ α) : Bool := m.entries.isEmpty

/-- Stores `v` under `k`, replacing an earlier value. -/
def insert [TransOrd κ] (m : Dict κ α) (k : κ) (v : α) : Dict κ α :=
  ⟨place k v m.entries, ascending_place k v m.ascending⟩

/-- Keeps the entries that satisfy `p`. -/
def filter (m : Dict κ α) (p : κ → α → Bool) : Dict κ α :=
  ⟨m.entries.filter fun e => p e.1 e.2, m.ascending.sublist List.filter_sublist⟩

/-- Removes the value under `k`. -/
def erase (m : Dict κ α) (k : κ) : Dict κ α := m.filter fun k' _ => compare k k' != .eq

/-- The map of a list of entries, the last of a repeated key counting. -/
def ofList [TransOrd κ] (l : List (κ × α)) : Dict κ α :=
  l.foldl (fun m e => m.insert e.1 e.2) empty

/-- Adds every entry of `more`, which wins where both have a key. -/
def merge [TransOrd κ] (m more : Dict κ α) : Dict κ α :=
  more.entries.foldl (fun m e => m.insert e.1 e.2) m

/-! ### Look-up after each operation -/

@[simp] theorem get?_empty (k : κ) : (empty : Dict κ α).get? k = none := rfl

theorem find_place [TransOrd κ] (k k' : κ) (v : α) (l : List (κ × α)) :
    find k' (place k v l) = if compare k' k = .eq then some v else find k' l := by
  induction l with
  | nil => simp [place, find]
  | cons x rest ih =>
    unfold place
    split
    · simp [find]
    · rename_i heq
      have hcongr : compare k' x.1 = compare k' k := (TransCmp.congr_right heq).symm
      simp only [find, hcongr]
      split <;> rfl
    · rename_i hgt
      simp only [find, ih]
      split
      · rename_i hx
        have : compare k' k = .lt := by
          rw [TransCmp.congr_left hx]
          exact OrientedCmp.lt_of_gt hgt
        simp [this]
      · rfl

theorem get?_insert [TransOrd κ] (m : Dict κ α) (k k' : κ) (v : α) :
    (m.insert k v).get? k' = if compare k' k = .eq then some v else m.get? k' :=
  find_place k k' v m.entries

/-- A key below all keys of an entry list is not found in it. -/
theorem find_eq_none_of_lt [TransOrd κ] {k : κ} {l : List (κ × α)}
    (h : ∀ e ∈ l, compare k e.1 = .lt) : find k l = none := by
  induction l with
  | nil => rfl
  | cons x rest ih =>
    simp [find, h x (by simp), ih fun e he => h e (by simp [he])]

theorem find_filter [TransOrd κ] [LawfulEqOrd κ] (p : κ → α → Bool) (k : κ)
    {l : List (κ × α)} (h : l.Pairwise Ascends) :
    find k (l.filter fun e => p e.1 e.2) = (find k l).filter (p k) := by
  induction l with
  | nil => rfl
  | cons x rest ih =>
    have hrest := ih (List.pairwise_cons.1 h).2
    by_cases hk : compare k x.1 = .eq
    · have hkx : k = x.1 := LawfulEqCmp.eq_of_compare hk
      subst hkx
      have hnone : find x.1 rest = none := find_eq_none_of_lt (List.pairwise_cons.1 h).1
      cases hp : p x.1 x.2 <;> simp [hp, hrest, find, hnone, Option.filter]
    · cases hp : p x.1 x.2 <;> simp [hp, find, hk, hrest]

theorem get?_filter [TransOrd κ] [LawfulEqOrd κ] (m : Dict κ α) (p : κ → α → Bool) (k : κ) :
    (m.filter p).get? k = (m.get? k).filter (p k) :=
  find_filter p k m.ascending

theorem get?_erase [TransOrd κ] [LawfulEqOrd κ] (m : Dict κ α) (k k' : κ) :
    (m.erase k).get? k' = if compare k' k = .eq then none else m.get? k' := by
  rw [erase, get?_filter]
  by_cases h : compare k' k = .eq
  · cases m.get? k' <;> simp [h, OrientedCmp.eq_symm h, Option.filter]
  · have h' : compare k k' ≠ .eq := fun e => h (OrientedCmp.eq_symm e)
    cases m.get? k' <;> simp [h, h', Option.filter]

/-- Entry lists in ascending order are equal once every look-up agrees. -/
theorem eq_of_find [TransOrd κ] [LawfulEqOrd κ] {l r : List (κ × α)}
    (hl : l.Pairwise Ascends) (hr : r.Pairwise Ascends) (h : ∀ k, find k l = find k r) :
    l = r := by
  induction l generalizing r with
  | nil =>
    cases r with
    | nil => rfl
    | cons y ys => have := h y.1; simp [find] at this
  | cons x xs ih =>
    have hx := (List.pairwise_cons.1 hl).1
    cases r with
    | nil => have := h x.1; simp [find] at this
    | cons y ys =>
      have hy := (List.pairwise_cons.1 hr).1
      have hxy : compare x.1 y.1 = .eq := by
        cases hc : compare x.1 y.1 with
        | eq => rfl
        | lt =>
          have hnone : find x.1 (y :: ys) = none := find_eq_none_of_lt fun e he => by
            rcases List.mem_cons.1 he with rfl | he
            · exact hc
            · exact TransCmp.lt_trans hc (hy e he)
          have := h x.1
          simp [find] at this
          simp [find] at hnone
          simp [hnone] at this
        | gt =>
          have hc' : compare y.1 x.1 = .lt := OrientedCmp.lt_of_gt hc
          have hnone : find y.1 (x :: xs) = none := find_eq_none_of_lt fun e he => by
            rcases List.mem_cons.1 he with rfl | he
            · exact hc'
            · exact TransCmp.lt_trans hc' (hx e he)
          have := h y.1
          rw [hnone] at this
          simp [find] at this
      have hkey : x.1 = y.1 := LawfulEqCmp.eq_of_compare hxy
      have hval : x.2 = y.2 := by
        have := h x.1
        simpa [find, hxy] using this
      have hrest : ∀ k, find k xs = find k ys := fun k => by
        by_cases hk : compare k x.1 = .eq
        · have hkx : k = x.1 := LawfulEqCmp.eq_of_compare hk
          rw [hkx, find_eq_none_of_lt hx, hkey, find_eq_none_of_lt hy]
        · have := h k
          have hk' : compare k y.1 ≠ .eq := hkey ▸ hk
          simpa [find, hk, hk'] using this
      rw [ih (List.pairwise_cons.1 hl).2 (List.pairwise_cons.1 hr).2 hrest]
      exact congrArg (· :: ys) (Prod.ext hkey hval)

/-- Maps that answer every look-up alike are equal. -/
theorem ext_get? [TransOrd κ] [LawfulEqOrd κ] {a b : Dict κ α}
    (h : ∀ k, a.get? k = b.get? k) : a = b := by
  have := eq_of_find a.ascending b.ascending h
  cases a; cases b; cases this; rfl

end Dict

end ServiceTunnel
