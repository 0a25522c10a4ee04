/-!
# ServiceTunnel.Simulation.Fault

**Failures by rule.** A rule makes calls of one name fail: it lets some pass first, and then fails
a number of them, or all. Of several rules for a call the first that fails it counts.
-/

namespace ServiceTunnel.Simulation

/-- A rule by which calls fail with an error of `ε`. -/
structure Rule (ε : Type) where
  /-- The name of the calls. -/
  name : String
  /-- How many calls pass before one fails. -/
  skip : Nat := 0
  /-- How many calls fail; none stands for all. -/
  times : Option Nat := none
  error : ε

namespace Rule

variable {ε : Type}

/-- The error with which a call fails, if one does, and the rules after the call. -/
def consult (name : String) : List (Rule ε) → Option ε × List (Rule ε)
  | [] => (none, [])
  | r :: rest =>
    if r.name = name then
      if 0 < r.skip then
        let (e, rest) := consult name rest
        (e, { r with skip := r.skip - 1 } :: rest)
      else
        match r.times with
        | none => (some r.error, r :: rest)
        | some 0 =>
          let (e, rest) := consult name rest
          (e, r :: rest)
        | some (n + 1) => (some r.error, { r with times := some n } :: rest)
    else
      let (e, rest) := consult name rest
      (e, r :: rest)

end Rule

end ServiceTunnel.Simulation
