import Mathlib.Data.List.Induction
import Mathlib.Data.List.Nodup
import Mathlib.Data.Nat.Find
import ServiceTunnel.Saga

/-!
# ServiceTunnel.Proofs.Unwinding

**What a saga undoes, and when.** Of each compensation only the moves around it decide: it waits
from its registration on, until a step fails or the saga is unwound (`waiting`). What a saga holds
after some moves is what waits then (`after_eq_holding`), because each move holds on to what waited
before it, adds what it registers, or undoes everything (`move_holding`). So the whole life of a
saga can be told from the list of its moves (`unwinds_life`).
-/

namespace ServiceTunnel.Saga

variable {I : Interface} {α σ : Type}

/-! ### Moves -/

namespace Move

/-- The move undoes whatever is registered: it is a step that fails, or an unwind. -/
def breaks : Move α → Bool
  | .step _ (.error _) | .unwind => true
  | _ => false

/-- The saga ends with the move. -/
def ends : Move α → Bool
  | .finish | .drop => true
  | _ => false

/-- The compensation that the move registers: its label and its outcome. -/
def registered? : Move α → Option (String × Except OperatorError Unit)
  | .compensate label outcome => some (label, outcome)
  | _ => none

/-- What a step gives back: its value, or its own error under its label. -/
def result? : Move α → Option (Except OperatorError α)
  | .step _ (.ok a) => some (.ok a)
  | .step label (.error e) => some (.error (.reconciliation (label ++ ": " ++ e.message)))
  | _ => none

/-- What waits after the move, if `undos` waited before it. -/
def leaves (undos : List (String × Except OperatorError Unit)) (m : Move α) :
    List (String × Except OperatorError Unit) :=
  if m.breaks || m.ends then [] else m.registered?.toList ++ undos

end Move

/-! ### One move

What a step and an unwind do is the same over anything that answers calls. -/

/-- Everything registered is run in order, whatever becomes of it. -/
theorem run_unwind (handle : (c : I.Call) → σ → I.Reply c × σ) (s : Saga I) (x : σ) :
    s.unwind.run handle x = ((), s.pending.foldl (fun x u => (u.2.run handle x).2) x) := by
  obtain ⟨pending⟩ := s
  induction pending generalizing x with
  | nil => rfl
  | cons u rest ih => exact (Program.run_bind _ _ _ _).trans (ih _)

/-- A step that succeeds gives its value and leaves what is registered. One that fails gives its own
error, and everything registered has been undone. -/
theorem run_step (handle : (c : I.Call) → σ → I.Reply c × σ) (s : Saga I) (label : String)
    (action : Program I (Except OperatorError α)) (x : σ) :
    (s.step label action).run handle x =
      match action.run handle x with
      | (.ok a, x) => ((.ok a, s), x)
      | (.error e, x) => ((.error (stepError label e), {}), (s.unwind.run handle x).2) := by
  rw [step, Program.run_bind]
  obtain ⟨outcome, x⟩ := action.run handle x
  cases outcome with
  | ok a => rfl
  | error e => exact Program.run_bind _ _ _ _

/-- The saga in which `undos` wait, most recent first. -/
def holding (undos : List (String × Except OperatorError Unit)) : Saga undoing :=
  ⟨undos.map fun u => (u.1, .ask u)⟩

theorem labels_unwind (undos : List (String × Except OperatorError Unit)) :
    labels (holding undos).unwind = ((), undos.map (·.1)) := by
  have hnoted : ∀ undone : List String,
      (holding undos).pending.foldl (fun x u => (u.2.run noteUndo x).2) undone =
        undone ++ undos.map (·.1) := by
    intro undone
    induction undos generalizing undone with
    | nil => exact (List.append_nil undone).symm
    | cons u rest ih => exact (ih (undone ++ [u.1])).trans (List.append_assoc _ _ _)
  exact (run_unwind noteUndo _ []).trans (congrArg (Prod.mk ()) (hnoted []))

/-- What a move gives back, what it undoes, and what waits after it. -/
theorem move_holding (undos : List (String × Except OperatorError Unit)) (m : Move α) :
    (holding undos).move m =
      (m.result?, if m.breaks then undos.map (·.1) else [], holding (m.leaves undos)) := by
  cases m with
  | step label outcome =>
      cases outcome with
      | ok a => rfl
      | error e =>
          have hunwind := congrArg Prod.snd (labels_unwind undos)
          rw [labels] at hunwind
          simp only [move, labels, run_step, Program.run, hunwind]
          rfl
  | compensate label outcome => rfl
  | unwind =>
      simp only [move, labels_unwind]
      rfl
  | finish => rfl
  | drop => rfl

/-- Once everything has been undone, nothing waits. -/
theorem pending_move_of_breaks (s : Saga undoing) {m : Move α} (h : m.breaks = true) :
    (s.move m).2.2.pending = [] := by
  cases m with
  | step label outcome =>
      cases outcome with
      | ok a => cases h
      | error e =>
          simp only [move, labels, run_step]
          rfl
  | unwind => rfl
  | compensate label outcome => cases h
  | finish => cases h
  | drop => cases h

/-! ### Lives -/

/-- The saga after some moves. -/
def after (s : Saga undoing) (moves : List (Move α)) : Saga undoing :=
  moves.foldl (fun s m => (s.move m).2.2) s

theorem after_take_succ (s : Saga undoing) {moves : List (Move α)} {n : Nat} {m : Move α}
    (hm : moves[n]? = some m) :
    s.after (moves.take (n + 1)) = ((s.after (moves.take n)).move m).2.2 := by
  simp [after, List.take_add_one, hm]

theorem getElem?_play (s : Saga undoing) (moves : List (Move α)) (n : Nat) :
    (s.play moves)[n]? = moves[n]?.map fun m =>
      (((s.after (moves.take n)).move m).1, ((s.after (moves.take n)).move m).2.1) := by
  induction moves generalizing s n with
  | nil => rfl
  | cons m rest ih =>
      cases n with
      | zero => rfl
      | succ n => exact ih _ _

/-- The compensation that move number `i` registers. -/
def registeredAt? (life : List (Move α)) (i : Nat) : Option (String × Except OperatorError Unit) :=
  life[i]?.bind Move.registered?

/-- The label of the compensation that move number `i` registers. -/
def labelOf (life : List (Move α)) (i : Nat) : String := ((registeredAt? life i).map (·.1)).getD ""

/-- The compensations that wait after some moves, by the numbers of the moves that registered them:
those after which nothing has been undone yet, the most recent first. -/
def waiting (past : List (Move α)) : List Nat :=
  ((List.range past.length).filter fun i =>
    (registeredAt? past i).isSome && (past.drop (i + 1)).all (!·.breaks)).reverse

/-- The compensations that move number `n` undoes, in order. -/
def undoneBy (life : List (Move α)) (n : Nat) : List Nat :=
  if life[n]?.any Move.breaks then waiting (life.take n) else []

/-- A compensation waits if nothing has been undone since it was registered. -/
theorem mem_waiting {past : List (Move α)} {i : Nat} : i ∈ waiting past ↔
    i < past.length ∧ (registeredAt? past i).isSome ∧
      ∀ j m, i < j → past[j]? = some m → m.breaks = false := by
  have hall : (past.drop (i + 1)).all (!·.breaks) = true ↔
      ∀ j m, i < j → past[j]? = some m → m.breaks = false := by
    simp only [List.all_eq_true, Bool.not_eq_true', List.mem_iff_getElem?, List.getElem?_drop]
    constructor
    · intro h j m hij hm
      refine h m ⟨j - (i + 1), ?_⟩
      rwa [Nat.add_sub_cancel' hij]
    · rintro h m ⟨k, hk⟩
      exact h (i + 1 + k) m (by omega) hk
  simp only [waiting, List.mem_reverse, List.mem_filter, List.mem_range, Bool.and_eq_true, hall]

theorem pairwise_waiting (past : List (Move α)) : (waiting past).Pairwise (· > ·) :=
  List.pairwise_reverse.mpr (List.pairwise_lt_range.filter _)

/-- What waits after one more move. -/
theorem waiting_snoc (past : List (Move α)) (m : Move α) :
    waiting (past ++ [m]) =
      if m.breaks then []
      else if m.registered?.isSome then past.length :: waiting past
      else waiting past := by
  have hlast : registeredAt? (past ++ [m]) past.length = m.registered? := by
    simp [registeredAt?]
  have hwaits : ∀ i ∈ List.range past.length,
      ((registeredAt? (past ++ [m]) i).isSome &&
          ((past ++ [m]).drop (i + 1)).all (!·.breaks)) =
        (((registeredAt? past i).isSome && (past.drop (i + 1)).all (!·.breaks)) && !m.breaks) := by
    intro i hi
    have hi : i < past.length := List.mem_range.mp hi
    rw [registeredAt?, registeredAt?, List.getElem?_append_left hi,
      List.drop_append_of_le_length hi, List.all_append]
    simp [Bool.and_assoc]
  rw [waiting, List.length_append, List.length_singleton, List.range_succ, List.filter_append,
    List.filter_congr hwaits, List.reverse_append]
  by_cases hbreaks : m.breaks = true
  · have hnone : m.registered? = none := by
      cases m <;> first | rfl | cases hbreaks
    simp [hbreaks, hlast, hnone]
  · by_cases hregisters : m.registered?.isSome = true
    · simp [hbreaks, hlast, hregisters, waiting]
    · simp [hbreaks, hlast, hregisters, waiting]

/-- While it lasts, a saga holds what waits. -/
theorem after_eq_holding (past : List (Move α)) (hpast : ∀ m ∈ past, m.ends = false) :
    after {} past = holding ((waiting past).filterMap (registeredAt? past)) := by
  induction past using List.reverseRecOn with
  | nil => rfl
  | append_singleton past m ih =>
      have hm : m.ends = false := hpast m (by simp)
      have ih := ih fun m' hm' => hpast m' (by simp [hm'])
      have hsame : (waiting past).filterMap (registeredAt? (past ++ [m])) =
          (waiting past).filterMap (registeredAt? past) := by
        refine List.filterMap_congr fun i hi => ?_
        rw [registeredAt?, List.getElem?_append_left (mem_waiting.mp hi).1, registeredAt?]
      have hlast : registeredAt? (past ++ [m]) past.length = m.registered? := by
        simp [registeredAt?]
      have hafter : after {} (past ++ [m]) = ((after {} past).move m).2.2 := by
        simp [after]
      rw [hafter, ih, move_holding, waiting_snoc]
      refine congrArg holding ?_
      by_cases hbreaks : m.breaks = true
      · simp [Move.leaves, hbreaks]
      · cases hregistered : m.registered? with
        | none => simp [Move.leaves, hbreaks, hm, hregistered, hsame]
        | some u => simp [Move.leaves, hbreaks, hm, hregistered, hsame, hlast]

/-! ### Whole lives -/

/-- What a move of a life gives back and undoes, where the life ends with its last move at the
earliest. -/
theorem getElem?_play_life {life : List (Move α)} (hlife : ∀ m ∈ life.dropLast, m.ends = false)
    {m : Move α} {n : Nat} (hm : life[n]? = some m) :
    (play {} life)[n]? = some (m.result?, (undoneBy life n).map (labelOf life)) := by
  have hn : n ≤ life.length - 1 := Nat.le_pred_of_lt (List.getElem?_eq_some_iff.mp hm).1
  have hlasting : ∀ m ∈ life.take n, m.ends = false := by
    intro m hm
    refine hlife m (List.mem_of_mem_take (i := n) ?_)
    rwa [List.dropLast_eq_take, List.take_take, Nat.min_eq_left hn]
  have hregistered : ∀ i ∈ waiting (life.take n),
      registeredAt? (life.take n) i = registeredAt? life i := by
    intro i hi
    have hlt : i < n :=
      Nat.lt_of_lt_of_le (mem_waiting.mp hi).1 (List.length_take_le _ _)
    rw [registeredAt?, registeredAt?, List.getElem?_take_of_lt hlt]
  have hlabels : ((waiting (life.take n)).filterMap (registeredAt? (life.take n))).map (·.1) =
      (waiting (life.take n)).map (labelOf life) := by
    rw [List.map_filterMap, ← List.filterMap_eq_map]
    refine List.filterMap_congr fun i hi => ?_
    obtain ⟨u, hu⟩ := Option.isSome_iff_exists.mp (mem_waiting.mp hi).2.1
    have hu' := (hregistered i hi).symm.trans hu
    simp [labelOf, hu, hu']
  rw [getElem?_play, hm, after_eq_holding _ hlasting, Option.map_some, move_holding, undoneBy, hm,
    hlabels]
  cases hbreaks : m.breaks <;> simp [hbreaks]

/-- A compensation is undone by a move that breaks, if nothing has been undone since it was
registered. -/
theorem mem_undoneBy {life : List (Move α)} {n i : Nat} : i ∈ undoneBy life n ↔
    i < n ∧ (registeredAt? life i).isSome ∧ (∃ m, life[n]? = some m ∧ m.breaks = true) ∧
      ∀ j m, i < j → j < n → life[j]? = some m → m.breaks = false := by
  unfold undoneBy
  cases hn : life[n]? with
  | none => simp
  | some m =>
      have hlt := (List.getElem?_eq_some_iff.mp hn).1
      have hlength : (life.take n).length = n := List.length_take_of_le (Nat.le_of_lt hlt)
      cases hbreaks : m.breaks with
      | false => simp [hbreaks]
      | true =>
          simp only [Option.any_some, hbreaks, if_true, mem_waiting, hlength]
          refine and_congr_right fun hi => ?_
          rw [registeredAt?, List.getElem?_take_of_lt hi, ← registeredAt?]
          refine and_congr_right fun _ => ?_
          constructor
          · intro h
            refine ⟨⟨m, rfl, hbreaks⟩, fun j m' hij hjn hm' => h j m' hij ?_⟩
            rwa [List.getElem?_take_of_lt hjn]
          · rintro ⟨-, h⟩ j m' hij hm'
            have hjn : j < n := hlength ▸ (List.getElem?_eq_some_iff.mp hm').1
            exact h j m' hij hjn (by rwa [List.getElem?_take_of_lt hjn] at hm')

/-- **What is undone in the life of a saga, and when.** A compensation is meant by the number of the
move that registers it. -/
structure Unwinds (life : List (Move α)) : Prop where
  /-- A step that succeeds gives its value, and nothing is undone. -/
  succeeds (n : Nat) (label : String) (a : α) (hn : life[n]? = some (.step label (.ok a))) :
    (play {} life)[n]? = some (some (.ok a), [])
  /-- A step that fails gives its own error under its label, whatever becomes of what it undoes. -/
  fails (n : Nat) (label : String) (e : OperatorError)
    (hn : life[n]? = some (.step label (.error e))) :
    (play {} life)[n]? = some (some (.error (.reconciliation (label ++ ": " ++ e.message))),
      (undoneBy life n).map (labelOf life))
  unwinds (n : Nat) (hn : life[n]? = some .unwind) :
    (play {} life)[n]? = some (none, (undoneBy life n).map (labelOf life))
  /-- Nothing is undone when something is registered. -/
  registers (n : Nat) (label : String) (outcome : Except OperatorError Unit)
    (hn : life[n]? = some (.compensate label outcome)) : (play {} life)[n]? = some (none, [])
  /-- Nothing is undone in the end. -/
  ends (n : Nat) (m : Move α) (hn : life[n]? = some m) (hends : m.ends = true) :
    (play {} life)[n]? = some (none, [])
  /-- What is registered last is undone first. -/
  recent (n : Nat) : (undoneBy life n).Pairwise (· > ·)
  /-- A move that breaks undoes all that has been registered since the last one that broke. -/
  since (n : Nat) (m : Move α) (hn : life[n]? = some m) (hbreaks : m.breaks = true) (i : Nat) :
    i ∈ undoneBy life n ↔ i < n ∧ (registeredAt? life i).isSome ∧
      ∀ j m', i < j → j < n → life[j]? = some m' → m'.breaks = false
  /-- After it nothing waits. -/
  emptied (n : Nat) (m : Move α) (hn : life[n]? = some m) (hbreaks : m.breaks = true) :
    (after {} (life.take (n + 1))).pending = []
  /-- Nothing is undone twice. -/
  once : ((List.range life.length).flatMap (undoneBy life)).Nodup
  /-- What is registered is undone exactly if a move that breaks comes after it. -/
  exactly (i : Nat) (hi : (registeredAt? life i).isSome) : (∃ n, i ∈ undoneBy life n) ↔
    ∃ n m, i < n ∧ life[n]? = some m ∧ m.breaks = true

/-- Of two moves, the later one does not undo what the earlier one has undone. -/
theorem undoneBy_disjoint (life : List (Move α)) {n n' : Nat} (h : n < n') :
    (undoneBy life n).Disjoint (undoneBy life n') := by
  intro i hi hi'
  obtain ⟨hin, -, ⟨m, hm, hbreaks⟩, -⟩ := mem_undoneBy.mp hi
  obtain ⟨-, -, -, hquiet⟩ := mem_undoneBy.mp hi'
  rw [hquiet n m hin h hm] at hbreaks
  cases hbreaks

theorem pairwise_undoneBy (life : List (Move α)) (n : Nat) :
    (undoneBy life n).Pairwise (· > ·) := by
  unfold undoneBy
  split
  · exact pairwise_waiting _
  · exact .nil

/-- What is registered waits for the first move that breaks. -/
theorem exists_mem_undoneBy {life : List (Move α)} {i : Nat} (hi : (registeredAt? life i).isSome) :
    (∃ n, i ∈ undoneBy life n) ↔ ∃ n m, i < n ∧ life[n]? = some m ∧ m.breaks = true := by
  classical
  constructor
  · rintro ⟨n, hn⟩
    obtain ⟨hin, -, ⟨m, hm, hbreaks⟩, -⟩ := mem_undoneBy.mp hn
    exact ⟨n, m, hin, hm, hbreaks⟩
  · intro h
    obtain ⟨m, hin, hm, hbreaks⟩ := Nat.find_spec h
    refine ⟨Nat.find h, mem_undoneBy.mpr ⟨hin, hi, ⟨m, hm, hbreaks⟩, ?_⟩⟩
    intro j m' hij hj hm'
    refine Bool.eq_false_iff.mpr fun hbreaks' => ?_
    exact Nat.find_min h hj ⟨m', hij, hm', hbreaks'⟩

/-- Whatever a saga goes through until it ends, all that is registered is undone when it should be,
once, and in order. -/
theorem unwinds_life (life : List (Move α)) (hlife : ∀ m ∈ life.dropLast, m.ends = false) :
    Unwinds life where
  succeeds n label a hn := by
    rw [getElem?_play_life hlife hn, undoneBy, hn]
    rfl
  fails n label e hn := getElem?_play_life hlife hn
  unwinds n hn := getElem?_play_life hlife hn
  registers n label outcome hn := by
    rw [getElem?_play_life hlife hn, undoneBy, hn]
    rfl
  ends n m hn hends := by
    rw [getElem?_play_life hlife hn, undoneBy, hn]
    cases m <;> first | rfl | cases hends
  recent n := pairwise_undoneBy _ n
  since n m hn hbreaks i := by
    rw [mem_undoneBy]
    refine and_congr_right fun _ => and_congr_right fun _ => ?_
    exact and_iff_right ⟨m, hn, hbreaks⟩
  emptied n m hn hbreaks := by
    rw [after_take_succ {} hn]
    exact pending_move_of_breaks _ hbreaks
  once := by
    refine List.nodup_flatMap.mpr ⟨fun n _ => ?_, ?_⟩
    · exact (pairwise_undoneBy _ n).imp Nat.ne_of_gt
    · exact List.pairwise_lt_range.imp fun h => undoneBy_disjoint _ h
  exactly i hi := exists_mem_undoneBy hi

/-- A life with a step that fails, an unwind, and something that is never undone. The machine cannot
be deleted, and the application is deleted all the same. -/
theorem unwinds_life_sample :
    let life : List (Move Nat) := [
      .step "app" (.ok 1), .compensate "delete app" (.ok ()),
      .step "machine" (.ok 2), .compensate "delete machine" (.error (.kubeApi "unavailable")),
      .step "ip" (.error (.invalidState "quota")),
      .compensate "late" (.ok ()), .unwind, .compensate "never" (.ok ()), .drop]
    (∀ m ∈ life.dropLast, m.ends = false) ∧
      play {} life = [
        (some (.ok 1), []), (none, []), (some (.ok 2), []), (none, []),
        (some (.error (.reconciliation "ip: Invalid state: quota")),
          ["delete machine", "delete app"]),
        (none, []), (none, ["late"]), (none, []), (none, [])] ∧
      Unwinds life :=
  ⟨by decide, rfl, unwinds_life _ (by decide)⟩

end ServiceTunnel.Saga
