import TabletopDice.Proofs.Service.RouteRun

/-!
What a request for statistics may cost. Each die of a roll costs at most two calls to the source and
those of its chain of bonus dice, so a number of dice that is checked beforehand is enough to bound
the calls of the whole simulation, although the check knows of no chains. A request that fails a
check costs nothing.
-/

set_option autoImplicit false

namespace TabletopDice

open Sequencing

/-- The most calls that one die can cost under a cap on chains. -/
def callsPerDie (cap : Int) : Int :=
  2 + max cap 0

theorem coe_callsPerDie (cap : Int) : ((2 + cap.toNat : Nat) : Int) = callsPerDie cap := by
  rw [callsPerDie, Int.natCast_add, Int.toNat_eq_max]
  rfl

theorem callsPerDie_pos (cap : Int) : 0 < callsPerDie cap := by
  unfold callsPerDie
  omega

theorem CallsAtMost.exists_made {Error State Value : Type}
    {action : EStateM Error (State × List Call) Value} {dice : Nat} {cap : Int}
    (few : CallsAtMost action (dice * (2 + cap.toNat))) (state : State) (earlier : List Call) :
    ∃ made : List Call, (made.length : Int) ≤ dice * callsPerDie cap ∧
      (stateOf (action (state, earlier))).2 = earlier ++ made := by
  obtain ⟨made, count, noted⟩ := few state earlier
  refine ⟨made, ?_, noted⟩
  rw [← coe_callsPerDie]
  exact_mod_cast count

namespace Service

open Data

variable {State : Type} {source : Source State} {settings : Settings} {request : StatisticsRequest}

/-- The request fails one of the checks in front of the simulation. -/
inductive StatisticsRequest.Inadmissible (settings : Settings) (request : StatisticsRequest) :
    Prop where
  | iterations (above : settings.maxIterations < request.rolls settings)
  | unread {fault : ParseFault}
      (refused : Expression.parse settings.ceilings request.text.toList = .error fault)
  | dice {expression : Expression}
      (read : Expression.parse settings.ceilings request.text.toList = .ok expression)
      (above : settings.maxDiceRolled < request.rolls settings * expression.diceCount)

/-- A simulation that was run, with everything that the settings promise of it. -/
structure StatisticsRequest.Within (settings : Settings) (request : StatisticsRequest)
    (expression : Expression) (calls : Nat) : Prop where
  read : Expression.parse settings.ceilings request.text.toList = .ok expression
  rolls_pos : 1 ≤ request.rolls settings
  rolls_le : request.rolls settings ≤ settings.maxIterations
  dice_le : request.rolls settings * expression.diceCount ≤ settings.maxDiceRolled
  calls_le : (calls : Int) ≤ settings.maxDiceRolled * callsPerDie settings.maxExplosionChain

theorem StatisticsRun.source_eq_of_inadmissible {desk left : Desk State} {reply : Reply}
    (run : StatisticsRun source settings request desk reply left)
    (inadmissible : request.Inadmissible settings) : left.source = desk.source := by
  cases run with
  | tooMany _ => rfl
  | unread _ _ => rfl
  | tooLarge _ _ _ => rfl
  | simulated within read small ran =>
      cases inadmissible with
      | iterations above => exact absurd above (Int.not_lt.mpr within)
      | unread refused => simp [read] at refused
      | dice readAgain above =>
          obtain rfl : _ = _ := by simpa [read] using readAgain
          exact absurd above (Int.not_lt.mpr small)

theorem StatisticsRun.calls_within {state : State} {earlier : List Call} {log : List LogEntry}
    {left : Desk (State × List Call)} {reply : Reply}
    (run : StatisticsRun source.recorded settings request ⟨(state, earlier), log⟩ reply left) :
    ∃ made : List Call, left.source.2 = earlier ++ made ∧
      (made = [] ∨ ∃ expression, request.Within settings expression made.length) := by
  cases run with
  | tooMany _ => exact ⟨[], (List.append_nil _).symm, .inl rfl⟩
  | unread _ _ => exact ⟨[], (List.append_nil _).symm, .inl rfl⟩
  | tooLarge _ _ _ => exact ⟨[], (List.append_nil _).symm, .inl rfl⟩
  | @simulated expression outcome _ within read small ran =>
      subst ran
      -- A client cannot ask for fewer than one roll, but the settings may.
      by_cases few : request.rolls settings < 1
      case pos =>
        rw [Expression.simulate_of_lt_one few]
        exact ⟨[], (List.append_nil _).symm, .inl rfl⟩
      have rollsPos : 1 ≤ request.rolls settings := Int.not_lt.mp few
      have calls : CallsAtMost (expression.simulate source.recorded settings.maxExplosionChain
          (request.rolls settings) request.text) ((request.rolls settings).toNat *
            expression.diceCount * (2 + settings.maxExplosionChain.toNat)) := by
        rw [Nat.mul_assoc]
        exact Expression.simulate_calls
      obtain ⟨made, count, noted⟩ := calls.exists_made state earlier
      refine ⟨made, noted, .inr ⟨expression, read, rollsPos, within, small, ?_⟩⟩
      calc (made.length : Int)
          ≤ ((request.rolls settings).toNat * expression.diceCount : Nat) *
              callsPerDie settings.maxExplosionChain := count
        _ = request.rolls settings * expression.diceCount *
              callsPerDie settings.maxExplosionChain := by
            rw [Int.natCast_mul, Int.toNat_of_nonneg (Int.le_trans (by decide) rollsPos)]
        _ ≤ settings.maxDiceRolled * callsPerDie settings.maxExplosionChain :=
            Int.mul_le_mul_of_nonneg_right small (Int.le_of_lt (callsPerDie_pos _))

/-- A body that is refused leaves the supplied source alone, and no more is done for the shared one
than to build it. -/
theorem Server.drawing_of_refused {Request : Type} {server : Server}
    {check : Value → Checked Request} {route : Route Request} {body : Option Value}
    {issues : List Issue} (refused : checkBody check body = .refused issues) :
    (server.drawing check route body).2.2.supplied = server.supplied ∧
      ((server.drawing check route body).2.2.session = server.session ∨
        (server.drawing check route body).2.2.session = server.session.fetch.2) := by
  unfold Server.drawing
  cases supplied : server.supplied with
  | some source =>
      simp only [refused]
      exact ⟨supplied, .inl rfl⟩
  | none =>
      simp only [refused]
      exact ⟨rfl, .inr rfl⟩

/-- Whatever the settings, the calls that a request for statistics makes are those of an admitted
simulation or none, and the settings bound the calls of a simulation. -/
theorem statistics_budget (source : Source State) (settings : Settings) :
    (∀ (expression : Expression) (cap : Int) (text : String) (label : Option String) (state : State)
      (earlier : List Call), ∃ made : List Call,
        (stateOf (expression.roll source.recorded cap text label (state, earlier))).2 =
          earlier ++ made ∧ (made.length : Int) ≤ expression.diceCount * callsPerDie cap) ∧
    (∀ (request : StatisticsRequest) (state : State) (earlier : List Call) (log : List LogEntry),
      ∃ made : List Call,
        (deskOf (statistics source.recorded settings request ⟨(state, earlier), log⟩)).source.2 =
          earlier ++ made ∧
        (made = [] ∨ ∃ expression, request.Within settings expression made.length)) ∧
    (∀ (request : StatisticsRequest) (desk : Desk (State × List Call)),
      request.Inadmissible settings →
        (deskOf (statistics source.recorded settings request desk)).source = desk.source) ∧
    (∀ (server : Server) (body : Option Value) (issues : List Issue),
      checkBody StatisticsRequest.check body = .refused issues →
        let left := (server.drawing StatisticsRequest.check
          (fun _ source => statistics source settings) body).2.2
        left.supplied = server.supplied ∧
          (left.session = server.session ∨ left.session = server.session.fetch.2)) := by
  refine ⟨?_, ?_, ?_, ?_⟩
  · intro expression cap text label state earlier
    have calls : CallsAtMost (expression.roll source.recorded cap text label) _ :=
      expression.roll_calls text label
    obtain ⟨made, count, noted⟩ := calls.exists_made state earlier
    exact ⟨made, noted, count⟩
  · intro request state earlier log
    exact (statistics_run request).calls_within
  · intro request desk inadmissible
    exact (statistics_run request).source_eq_of_inadmissible inadmissible
  · intro server body issues refused
    exact Server.drawing_of_refused refused

theorem statistics_budget_overrun :
    let settings : Settings := { maxIterations := 5, maxExplosionChain := -1 }
    let request : StatisticsRequest := ⟨"4d6!", some 6⟩
    let server : Server := { session := { settings }, supplied := some (.scripted [3], []) }
    request.Inadmissible settings ∧
      (deskOf (statistics Generator.source.recorded settings request
        ⟨(.scripted [3], []), []⟩)).source = (.scripted [3], []) ∧
      (∃ issues, checkBody StatisticsRequest.check none = .refused issues) ∧
      (server.drawing StatisticsRequest.check (fun _ source => statistics source settings)
        none).2.2.supplied = server.supplied := by
  intro settings request server
  have inadmissible : request.Inadmissible settings := .iterations (by decide)
  have refused : ∃ issues, checkBody StatisticsRequest.check none = .refused issues := ⟨_, rfl⟩
  obtain ⟨-, -, unspent, unread⟩ := statistics_budget Generator.source settings
  refine ⟨inadmissible, unspent request _ inadmissible, refused, ?_⟩
  obtain ⟨issues, refused⟩ := refused
  exact (unread server none issues refused).1

end Service

end TabletopDice
