import TabletopDice.Proofs.Service.AcceptedBody
import TabletopDice.Proofs.Service.RouteRun
import TabletopDice.Proofs.Statistics.Iterations
import TabletopDice.Proofs.Text.Delimited

/-!
How often a request for statistics has its notation rolled. The number of rolls has a range that
begins at one and ends at a ceiling of the settings. A number that the client names is checked at
both ends, but one that the settings supply only at the upper end: below the range it stops the
request without an answer. Apart from that, and from numbers too long to be told, a request is
simulated within the range or refused before anything is drawn.
-/

set_option autoImplicit false

namespace TabletopDice.Service

open Data Sequencing

variable {State : Type}

/-! ## Refusals that can be told -/

/-- The numbers that a refusal names are short enough to be written. -/
structure Told (ceiling number : Int) : Prop where
  number : number.natAbs < Text.writeBound
  ceiling : ceiling.natAbs < Text.writeBound

theorem limitReply_of_not_told {ceiling number : Int} (untold : ¬ Told ceiling number)
    (reason : String → String → String) :
    limitReply ceiling number reason = .failed (.numeral .writing) := by
  unfold limitReply
  cases first : Text.writeInt number with
  | error limit =>
      obtain ⟨rfl, -⟩ := Text.writeInt_eq_error_iff.mp first
      rfl
  | ok shown =>
      cases second : Text.writeInt ceiling with
      | error limit =>
          obtain ⟨rfl, -⟩ := Text.writeInt_eq_error_iff.mp second
          rfl
      | ok bound =>
          have numberShort := (Text.writeInt_eq_ok_iff.mp first).1
          have ceilingShort := (Text.writeInt_eq_ok_iff.mp second).1
          exact absurd ⟨numberShort, ceilingShort⟩ untold

/-- A reason that is made of two numbers has no halves of pairs. -/
def PlainReason (reason : String → String → String) : Prop :=
  ∀ number ceiling : Int, Text.halves? (reason number.repr ceiling.repr).toList = none

theorem limitReply_of_told {ceiling number : Int} {reason : String → String → String}
    (told : Told ceiling number) (plain : PlainReason reason) :
    limitReply ceiling number reason =
      .answer 422 (reasonBody (reason number.repr ceiling.repr)) := by
  have first : Text.writeInt number = .ok number.repr :=
    Text.writeInt_eq_ok_iff.mpr ⟨told.number, rfl⟩
  have second : Text.writeInt ceiling = .ok ceiling.repr :=
    Text.writeInt_eq_ok_iff.mpr ⟨told.ceiling, rfl⟩
  unfold limitReply
  rw [first, second]
  exact refusal_of_halves?_eq_none (plain number ceiling)

theorem mark_not_mem_repr (number : Int) : Text.mark ∉ number.repr.toList := by
  intro member
  have digit := Text.isSignedDigit_of_mem_repr member
  revert digit
  decide

theorem plainReason_of_not_mem_mark {front middle back : String}
    (frontPlain : Text.mark ∉ front.toList) (middlePlain : Text.mark ∉ middle.toList)
    (backPlain : Text.mark ∉ back.toList) :
    PlainReason fun number ceiling => s!"{front}{number}{middle}{ceiling}{back}" := by
  intro number ceiling
  refine Text.halves?_of_not_mem_mark ?_
  have shown (text : String) : toString text = text := rfl
  simp only [shown, String.toList_append, List.mem_append, not_or]
  exact ⟨⟨⟨⟨frontPlain, mark_not_mem_repr number⟩, middlePlain⟩, mark_not_mem_repr ceiling⟩,
    backPlain⟩

theorem plainReason_tooMany : PlainReason tooManyReason := by
  have front : Text.mark ∉ "Too many iterations: ".toList := by decide +kernel
  have middle : Text.mark ∉ " (max ".toList := by decide +kernel
  have back : Text.mark ∉ ")".toList := by decide +kernel
  exact plainReason_of_not_mem_mark front middle back

theorem plainReason_tooLarge : PlainReason tooLargeReason := by
  have front : Text.mark ∉ "Simulation too large: ".toList := by decide +kernel
  have middle : Text.mark ∉ " dice (max ".toList := by decide +kernel
  have back : Text.mark ∉ ")".toList := by decide +kernel
  exact plainReason_of_not_mem_mark front middle back

/-! ## The ceilings -/

section Range

variable {source : Source State} {settings : Settings} {request : StatisticsRequest}
  {expression : Expression} {desk left : Desk State} {reply : Reply} {ceiling number : Int}
  {reason : String → String → String}

/-- The first check that a request fails: the ceiling, the number above it and the reason that tells
both. -/
inductive StatisticsRequest.Overruns (settings : Settings) (request : StatisticsRequest)
    (expression : Expression) : Int → Int → (String → String → String) → Prop where
  | rolls (above : settings.maxIterations < request.rolls settings) :
      Overruns settings request expression settings.maxIterations (request.rolls settings)
        tooManyReason
  | dice (within : request.rolls settings ≤ settings.maxIterations)
      (above : settings.maxDiceRolled < request.rolls settings * expression.diceCount) :
      Overruns settings request expression settings.maxDiceRolled
        (request.rolls settings * expression.diceCount) tooLargeReason

/-- The request passes both checks. -/
structure StatisticsRequest.Fits (settings : Settings) (request : StatisticsRequest)
    (expression : Expression) : Prop where
  rolls_le : request.rolls settings ≤ settings.maxIterations
  dice_le : request.rolls settings * expression.diceCount ≤ settings.maxDiceRolled

theorem StatisticsRequest.Overruns.not_fits
    (overrun : request.Overruns settings expression ceiling number reason) :
    ¬ request.Fits settings expression := by
  intro fits
  cases overrun with
  | rolls above => exact absurd fits.rolls_le (Int.not_le.mpr above)
  | dice _ above => exact absurd fits.dice_le (Int.not_le.mpr above)

theorem StatisticsRequest.Overruns.unique {otherCeiling otherNumber : Int}
    {otherReason : String → String → String}
    (overrun : request.Overruns settings expression ceiling number reason)
    (other : request.Overruns settings expression otherCeiling otherNumber otherReason) :
    ceiling = otherCeiling ∧ number = otherNumber ∧ reason = otherReason := by
  cases overrun with
  | rolls above =>
      cases other with
      | rolls _ => exact ⟨rfl, rfl, rfl⟩
      | dice within _ => exact absurd within (Int.not_le.mpr above)
  | dice within _ =>
      cases other with
      | rolls above => exact absurd within (Int.not_le.mpr above)
      | dice _ _ => exact ⟨rfl, rfl, rfl⟩

theorem StatisticsRequest.Overruns.plain
    (overrun : request.Overruns settings expression ceiling number reason) :
    PlainReason reason := by
  cases overrun with
  | rolls _ => exact plainReason_tooMany
  | dice _ _ => exact plainReason_tooLarge

/-- What becomes of a request whose notation is read. -/
inductive StatisticsRequest.Ends (source : Source State) (settings : Settings)
    (request : StatisticsRequest) (expression : Expression) (desk : Desk State) :
    Reply → Desk State → Prop where
  | refused {ceiling number : Int} {reason : String → String → String}
      (overrun : request.Overruns settings expression ceiling number reason) :
      Ends source settings request expression desk (limitReply ceiling number reason) desk
  | simulated {outcome : EStateM.Result SimulationFault State Summary} {log : List LogEntry}
      (fits : request.Fits settings expression)
      (ran : expression.simulate source settings.maxExplosionChain (request.rolls settings)
        request.text desk.source = outcome) :
      Ends source settings request expression desk (simulationReply outcome)
        ⟨stateOf outcome, log⟩

theorem StatisticsRun.ends_of_read (run : StatisticsRun source settings request desk reply left)
    (read : Expression.parse settings.ceilings request.text.toList = .ok expression) :
    request.Ends source settings expression desk reply left := by
  cases run with
  | tooMany above => exact .refused (.rolls above)
  | unread _ refused => simp [read] at refused
  | tooLarge within readAgain above =>
      obtain rfl : _ = expression := by simpa [readAgain] using read
      exact .refused (.dice within above)
  | simulated within readAgain small ran =>
      obtain rfl : _ = expression := by simpa [readAgain] using read
      exact .simulated ⟨within, small⟩ ran

/-! ## The range -/

/-- The answers that the range of rolls asks for: a request above a ceiling is refused with the
reason, at no cost, and any other is simulated with at least one roll. -/
inductive StatisticsRequest.RangeKept (source : Source State) (settings : Settings)
    (request : StatisticsRequest) (expression : Expression) (desk : Desk State) :
    Reply → Desk State → Prop where
  | refused {ceiling number : Int} {reason : String → String → String}
      (overrun : request.Overruns settings expression ceiling number reason) :
      RangeKept source settings request expression desk
        (.answer 422 (reasonBody (reason number.repr ceiling.repr))) desk
  | simulated {outcome : EStateM.Result SimulationFault State Summary} {log : List LogEntry}
      (least : 1 ≤ request.rolls settings) (fits : request.Fits settings expression)
      (ran : expression.simulate source settings.maxExplosionChain (request.rolls settings)
        request.text desk.source = outcome) :
      RangeKept source settings request expression desk (simulationReply outcome)
        ⟨stateOf outcome, log⟩

/-- The number of rolls is left to the settings, and these name one below the range. -/
structure StatisticsRequest.Unranged (settings : Settings) (request : StatisticsRequest)
    (expression : Expression) : Prop where
  omitted : request.iterations = none
  few : settings.defaultIterations < 1
  fits : request.Fits settings expression

/-- The check that the request fails has a number to tell that is too long to be written. -/
inductive StatisticsRequest.Untold (settings : Settings) (request : StatisticsRequest)
    (expression : Expression) : Prop where
  | of_overrun {ceiling number : Int} {reason : String → String → String}
      (overrun : request.Overruns settings expression ceiling number reason)
      (untold : ¬ Told ceiling number)

theorem StatisticsRequest.rolls_of_omitted (omitted : request.iterations = none) :
    request.rolls settings = settings.defaultIterations := by
  rw [rolls, omitted, Option.getD_none]

/-- A number below the range cannot come from the client. -/
theorem StatisticsRequest.unranged_of_few (chosen : ∀ number ∈ request.iterations, 1 ≤ number)
    (few : request.rolls settings < 1) (fits : request.Fits settings expression) :
    request.Unranged settings expression := by
  cases named : request.iterations with
  | none =>
      rw [rolls_of_omitted named] at few
      exact ⟨named, few, fits⟩
  | some number =>
      have enough := chosen number named
      rw [rolls, named, Option.getD_some] at few
      exact absurd enough (Int.not_le.mpr few)

theorem simulationReply_of_few {iterations : Int} (few : iterations < 1) {text : String}
    {state : State} {outcome : EStateM.Result SimulationFault State Summary}
    (ran : expression.simulate source settings.maxExplosionChain iterations text state = outcome) :
    simulationReply outcome = .failed (.iterations iterations) ∧ stateOf outcome = state := by
  rw [Expression.simulate_of_lt_one few] at ran
  subst ran
  exact ⟨rfl, rfl⟩

theorem StatisticsRequest.Ends.of_unranged
    (ends : request.Ends source settings expression desk reply left)
    (unranged : request.Unranged settings expression) :
    reply = .failed (.iterations settings.defaultIterations) ∧ left.source = desk.source := by
  obtain ⟨omitted, few, fits⟩ := unranged
  rw [← rolls_of_omitted omitted] at few ⊢
  cases ends with
  | refused overrun => exact absurd fits overrun.not_fits
  | simulated _ ran => exact simulationReply_of_few few ran

theorem StatisticsRequest.Ends.of_untold
    (ends : request.Ends source settings expression desk reply left)
    (untold : request.Untold settings expression) :
    reply = .failed (.numeral .writing) ∧ left = desk := by
  obtain ⟨failed, untold⟩ := untold
  cases ends with
  | refused overrun =>
      obtain ⟨rfl, rfl, -⟩ := failed.unique overrun
      exact ⟨limitReply_of_not_told untold _, rfl⟩
  | simulated fits _ => exact absurd fits failed.not_fits

theorem StatisticsRequest.Ends.rangeKept
    (ends : request.Ends source settings expression desk reply left)
    (chosen : ∀ number ∈ request.iterations, 1 ≤ number)
    (ranged : ¬ request.Unranged settings expression)
    (told : ¬ request.Untold settings expression) :
    request.RangeKept source settings expression desk reply left := by
  cases ends with
  | @refused ceiling number _ overrun =>
      have short : Told ceiling number := not_not.mp fun untold => told ⟨overrun, untold⟩
      rw [limitReply_of_told short overrun.plain]
      exact .refused overrun
  | simulated fits ran =>
      have least : 1 ≤ request.rolls settings :=
        Int.not_lt.mp fun few => ranged (unranged_of_few chosen few fits)
      exact .simulated least fits ran

theorem StatisticsRequest.RangeKept.not_unranged
    (kept : request.RangeKept source settings expression desk reply left) :
    ¬ request.Unranged settings expression := by
  intro unranged
  obtain ⟨omitted, few, fits⟩ := unranged
  rw [← rolls_of_omitted omitted] at few
  cases kept with
  | refused overrun => exact absurd fits overrun.not_fits
  | simulated least _ _ => exact absurd least (Int.not_le.mpr few)

theorem StatisticsRequest.RangeKept.not_untold {failure : Failure}
    (kept : request.RangeKept source settings expression desk reply left)
    (failed : reply = .failed failure) : ¬ request.Untold settings expression := by
  intro untold
  obtain ⟨overrun, -⟩ := untold
  cases kept with
  | refused _ => cases failed
  | simulated _ fits _ => exact absurd fits overrun.not_fits

theorem simulate_ne_iterations {iterations : Int} (enough : 1 ≤ iterations) {text : String}
    {count : Int} {state next : State} :
    expression.simulate source settings.maxExplosionChain iterations text state ≠
      .error (.iterations count) next := by
  intro failed
  rw [Expression.simulate_of_one_le enough, run_bind_eq_error_iff] at failed
  rcases failed with rolled | ⟨totals, middle, -, summed⟩
  · obtain ⟨fault, -, same⟩ := run_adaptExcept_eq_error_iff.mp rolled
    cases same
  · cases figures : Summary.ofTotals text totals with
    | ok summary =>
        rw [figures] at summed
        exact run_pure_ne_error summed
    | error fault =>
        rw [figures] at summed
        cases (run_throw_eq_error_iff.mp summed).1

theorem result_ne_iterations (body : Value) (count : Int) :
    Reply.result body ≠ .failed (.iterations count) := by
  unfold Reply.result
  split <;> simp

theorem refusal_ne_iterations (reason : String) (count : Int) :
    Reply.refusal reason ≠ .failed (.iterations count) := by
  unfold Reply.refusal Reply.detail Reply.written
  split <;> simp

theorem stopReply_ne_iterations (fault : RollFault) (count : Int) :
    stopReply fault ≠ .failed (.iterations count) := by
  cases fault with
  | explosion label cap => exact refusal_ne_iterations _ count
  | draw fault => simp [stopReply]
  | numeral limit => simp [stopReply]

theorem StatisticsRequest.RangeKept.reply_ne_iterations
    (kept : request.RangeKept source settings expression desk reply left) (count : Int) :
    reply ≠ .failed (.iterations count) := by
  cases kept with
  | refused _ => simp
  | @simulated outcome _ least _ ran =>
      cases outcome with
      | ok summary next => exact result_ne_iterations (ofSummary summary) count
      | error fault next =>
          cases fault with
          | roll fault => exact stopReply_ne_iterations fault count
          | iterations count => exact absurd ran (simulate_ne_iterations least)
          | summary fault => simp [simulationReply]

end Range

/-- A request keeps to the range of rolls unless the settings supply a number below it or a refusal
names a number that is too long. Then it stops without an answer, and draws nothing either. -/
theorem statistics_rangeKept_iff (source : Source State) (settings : Settings)
    {body : Option Value} {request : StatisticsRequest} {expression : Expression}
    (accepted : checkBody StatisticsRequest.check body = .accepted request)
    (read : Expression.parse settings.ceilings request.text.toList = .ok expression)
    (desk : Desk State) :
    let handled := statistics source settings request desk
    (request.RangeKept source settings expression desk (replyOf handled) (deskOf handled) ↔
      ¬ request.Unranged settings expression ∧ ¬ request.Untold settings expression) ∧
    (∀ count, replyOf handled = .failed (.iterations count) ↔
      request.Unranged settings expression ∧ count = settings.defaultIterations) ∧
    (request.Unranged settings expression ∨ request.Untold settings expression →
      (deskOf handled).source = desk.source) := by
  intro handled
  have ends : request.Ends source settings expression desk (replyOf handled) (deskOf handled) :=
    (statistics_run request).ends_of_read read
  have chosen := StatisticsRequest.one_le_of_accepted accepted
  refine ⟨⟨?_, ?_⟩, fun count => ⟨?_, ?_⟩, ?_⟩
  · intro kept
    exact ⟨kept.not_unranged, fun untold => kept.not_untold (ends.of_untold untold).1 untold⟩
  · intro ranged
    exact ends.rangeKept chosen ranged.1 ranged.2
  · intro failed
    -- Neither a refusal nor a simulation in the range ends like this.
    have unranged : request.Unranged settings expression := by
      by_contra ranged
      by_cases untold : request.Untold settings expression
      · simp [(ends.of_untold untold).1] at failed
      · exact (ends.rangeKept chosen ranged untold).reply_ne_iterations count failed
    rw [(ends.of_unranged unranged).1] at failed
    cases failed
    exact ⟨unranged, rfl⟩
  · intro defaulted
    obtain ⟨unranged, rfl⟩ := defaulted
    exact (ends.of_unranged unranged).1
  · intro stopped
    rcases stopped with unranged | untold
    · exact (ends.of_unranged unranged).2
    · rw [(ends.of_untold untold).2]

theorem statistics_rangeKept_pair :
    let settings : Settings := { defaultIterations := 0 }
    let request : StatisticsRequest := ⟨"d4", some 2⟩
    let expression : Expression := ⟨[Expression.knucklebone], 0⟩
    let desk : Desk Generator := { source := .scripted [3, 1] }
    let handled := statistics Generator.source settings request desk
    checkBody StatisticsRequest.check
        (some (.object [("notation", .text "d4"), ("iterations", .int 2)])) = .accepted request ∧
      Expression.parse settings.ceilings "d4".toList = .ok expression ∧
      request.RangeKept Generator.source settings expression desk (replyOf handled)
        (deskOf handled) := by
  intro settings request expression desk handled
  have accepted : checkBody StatisticsRequest.check
      (some (.object [("notation", .text "d4"), ("iterations", .int 2)])) = .accepted request := rfl
  have read : Expression.parse settings.ceilings "d4".toList = .ok expression := by rfl
  refine ⟨accepted, read, ?_⟩
  refine (statistics_rangeKept_iff Generator.source settings accepted read desk).1.mpr ⟨?_, ?_⟩
  · intro unranged
    cases unranged.omitted
  · intro untold
    obtain ⟨overrun, -⟩ := untold
    have fits : request.Fits settings expression := ⟨by decide, by decide⟩
    exact overrun.not_fits fits

/-- A request that names no rolls is accepted and read, and the settings name none either. -/
theorem statistics_default_zero :
    let settings : Settings := { defaultIterations := 0 }
    let fields : List (String × Value) := [("notation", .text "d4")]
    let request : StatisticsRequest := ⟨"d4", none⟩
    let expression : Expression := ⟨[Expression.knucklebone], 0⟩
    let desk : Desk Generator := { source := .scripted [3] }
    let handled := statistics Generator.source settings request desk
    let server : Server := { session := { settings }, supplied := some (.scripted [3], []) }
    checkBody StatisticsRequest.check (some (.object fields)) = .accepted request ∧
      Expression.parse settings.ceilings "d4".toList = .ok expression ∧
      replyOf handled = .failed (.iterations 0) ∧
      ¬ request.RangeKept Generator.source settings expression desk (replyOf handled)
        (deskOf handled) ∧
      (server.respond { target := "/statistics", body := .data (.object fields) }).1 =
        .failed (.iterations 0) := by
  refine ⟨rfl, rfl, by rfl, ?_, by rfl⟩
  intro kept
  exact kept.reply_ne_iterations 0 (by rfl)

end TabletopDice.Service
