import TabletopDice.Text.Decimal

/-!
Sources of draws. A source answers requests for an integer between two bounds and carries a state
from one draw to the next. Rolling is written for every source, so that its laws hold whatever the
draws are.
-/

set_option autoImplicit false

namespace TabletopDice

/-- Why a source did not answer a request: no value is left, the next value is outside the
requested bounds, or no integer lies between them. -/
inductive DrawFault where
  | exhausted (low high : Int)
  | outOfRange (value low high : Int)
  | emptyRange (low high : Int)
deriving DecidableEq, Repr

namespace DrawFault

private def request (low high : Int) : Except Text.DigitLimit String := do
  let low ← Text.writeInt low
  let high ← Text.writeInt high
  return s!"randint({low}, {high})"

def message : DrawFault → Except Text.DigitLimit String
  | exhausted low high => request low high
  | outOfRange value low high => do
      let value ← Text.writeInt value
      let request ← request low high
      return s!"{value} for {request}"
  | emptyRange low high => do
      let least ← Text.writeInt low
      let beyond ← Text.writeInt (high + 1)
      let width ← Text.writeInt (high + 1 - low)
      return s!"empty range for randrange() ({least}, {beyond}, {width})"

end DrawFault

/-- A source with states of some type. `draw low high` asks for an integer from `low` to `high`,
both included. A refused request, too, leaves a state behind. -/
structure Source (State : Type) where
  draw : Int → Int → EStateM DrawFault State Int

namespace Source

/-- The source with a record of its draws: every request and its outcome is noted. -/
def observed {State Notes : Type} (source : Source State)
    (note : Notes → Int → Int → Except DrawFault Int → Notes) : Source (State × Notes) where
  draw low high := fun (state, notes) =>
    match source.draw low high state with
    | .ok value next => .ok value (next, note notes low high (.ok value))
    | .error fault next => .error fault (next, note notes low high (.error fault))

end Source

/-- So many consecutive requests for the same bounds. -/
structure Requests where
  low : Int
  high : Int
  times : Nat
deriving DecidableEq, Repr

namespace Requests

def add (record : List Requests) (low high : Int) : List Requests :=
  match record with
  | latest :: earlier =>
      if latest.low = low ∧ latest.high = high then
        { latest with times := latest.times + 1 } :: earlier
      else ⟨low, high, 1⟩ :: latest :: earlier
  | [] => [⟨low, high, 1⟩]

/-- Notes a request unless there was no value left to answer it. -/
def note (record : List Requests) (low high : Int) : Except DrawFault Int → List Requests
  | .error (.exhausted _ _) => record
  | _ => add record low high

end Requests

/-! ## Repeated draws -/

section Repeat

variable {Error State Value : Type}

/-- Runs an action so many times more. `done` holds the values so far, the latest first. -/
def repeatOnto (action : EStateM Error State Value) (times : Nat) (done : List Value) :
    EStateM Error State (List Value) :=
  match times with
  | 0 => pure done.reverse
  | times + 1 => do
      let value ← action
      repeatOnto action times (value :: done)

/-- Runs an action so many times, one after the other, and lists the values. The first failure
ends the run. -/
def repeated (times : Nat) (action : EStateM Error State Value) :
    EStateM Error State (List Value) :=
  repeatOnto action times []

theorem repeatOnto_eq (action : EStateM Error State Value) (times : Nat) (done : List Value)
    (state : State) :
    repeatOnto action times done state =
      match repeated times action state with
      | .ok values next => .ok (done.reverse ++ values) next
      | .error error next => .error error next := by
  induction times generalizing done state with
  | zero => simp [repeated, repeatOnto, pure, EStateM.pure]
  | succ times ih =>
      simp only [repeated, repeatOnto, bind, EStateM.bind]
      cases action state with
      | error error next => rfl
      | ok value next =>
          simp only [ih (value :: done), ih [value]]
          cases repeated times action next <;> simp

@[simp] theorem repeated_zero (action : EStateM Error State Value) :
    repeated 0 action = pure [] := rfl

theorem repeated_succ (times : Nat) (action : EStateM Error State Value) :
    repeated (times + 1) action = do
      let value ← action
      let values ← repeated times action
      return value :: values := by
  funext state
  simp only [repeated, repeatOnto, bind, EStateM.bind]
  cases action state with
  | error error next => rfl
  | ok value next =>
      simp only [repeatOnto_eq action times [value], repeated]
      cases repeatOnto action times [] next <;> rfl

end Repeat

end TabletopDice
