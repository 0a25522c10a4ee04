import ServiceTunnel.Error
import ServiceTunnel.Program

/-!
# ServiceTunnel.Saga

**Steps that are undone when a later one fails.** Each step that has been done may register how to
undo it. When a step fails, everything registered is undone, most recent first, whatever becomes of
it, and the step's error is reported under the step's label.
-/

namespace ServiceTunnel

/-- What is to be undone if a step fails, most recent first, each with its label. -/
structure Saga (I : Interface) where
  pending : List (String × Program I (Except OperatorError Unit)) := []

namespace Saga

variable {I : Interface} {α : Type}

/-- The error of the step `label` that failed with `e`. -/
def stepError (label : String) (e : OperatorError) : OperatorError :=
  .reconciliation s!"{label}: {e.message}"

/-- Runs programs in order, whatever becomes of them. -/
def runAll : List (Program I (Except OperatorError Unit)) → Program I Unit
  | [] => .done ()
  | p :: rest => p.bind fun _ => runAll rest

/-- Undoes everything registered, most recent first. -/
def unwind (s : Saga I) : Program I Unit := runAll (s.pending.map (·.2))

/-- Registers how to undo a step that has been done. -/
def compensate (s : Saga I) (label : String) (undo : Program I (Except OperatorError Unit)) :
    Saga I := ⟨(label, undo) :: s.pending⟩

/-- Makes a step; a failure undoes what is registered. -/
def step (s : Saga I) (label : String) (action : Program I (Except OperatorError α)) :
    Program I (Except OperatorError α × Saga I) :=
  action.bind fun
    | .ok a => .done (.ok a, s)
    | .error e => s.unwind.bind fun _ => .done (.error (stepError label e), {})

end Saga

/-! ### Steps in sequence -/

/-- A sequence of steps, which ends with the first that fails. -/
abbrev SagaM (I : Interface) := ExceptT OperatorError (StateT (Saga I) (Program I))

namespace SagaM

variable {I : Interface} {α : Type}

/-- Makes a step. -/
def step (label : String) (action : Program I (Except OperatorError α)) : SagaM I α :=
  fun s => s.step label action

/-- Registers how to undo the step just done. -/
def compensate (label : String) (undo : Program I (Except OperatorError Unit)) : SagaM I Unit :=
  fun s => .done (.ok (), s.compensate label undo)

/-- Makes the steps, beginning with nothing to undo; what is registered in the end is forgotten. -/
def perform (m : SagaM I α) : Program I (Except OperatorError α) :=
  (m {}).bind fun r => .done r.1

end SagaM

/-! ### Moves, one by one -/

namespace Saga

/-- One move in the life of a saga, where each action stands for its outcome. -/
inductive Move (α : Type) where
  | step (label : String) (outcome : Except OperatorError α)
  | compensate (label : String) (outcome : Except OperatorError Unit)
  | unwind
  | finish
  | drop

/-- The one thing that moves ask for: the undoing of a label, which ends as given. -/
def undoing : Interface := ⟨String × Except OperatorError Unit, fun _ => Except OperatorError Unit⟩

/-- Notes the label and ends as given. -/
def noteUndo (c : undoing.Call) (undone : List String) : undoing.Reply c × List String :=
  (c.2, undone ++ [c.1])

/-- Runs a program that undoes things, and lists their labels. -/
def labels {α : Type} (p : Program undoing α) : α × List String := p.run noteUndo []

/-- Makes one move: its result, the labels undone in it, and the saga after it. -/
def move {α : Type} (s : Saga undoing) :
    Move α → Option (Except OperatorError α) × List String × Saga undoing
  | .step label outcome =>
    let ((result, s), undone) := labels (s.step label (.done outcome))
    (some result, undone, s)
  | .compensate label outcome => (none, [], s.compensate label (.ask (label, outcome)))
  | .unwind => (none, (labels s.unwind).2, {})
  | .finish => (none, [], {})
  | .drop => (none, [], {})

/-- Makes moves one after another. -/
def play {α : Type} (s : Saga undoing) :
    List (Move α) → List (Option (Except OperatorError α) × List String)
  | [] => []
  | m :: rest =>
    let (result, undone, s) := s.move m
    (result, undone) :: s.play rest

end Saga

end ServiceTunnel
