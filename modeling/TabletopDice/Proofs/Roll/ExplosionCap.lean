import TabletopDice.Proofs.Roll.ExplosionChain
import TabletopDice.Proofs.Roll.Interruption
import TabletopDice.Proofs.Roll.RollAudit
import TabletopDice.Proofs.Roll.WrittenPart

/-!
The cap on chains of bonus dice. A roll is stopped by the cap exactly when the draws show a base die
and then, all with the greatest face, as many bonus dice as the cap allows. It stops there, with no
further draw, and nothing else but a number that is too long to be written or the source itself can
stop it.
-/

set_option autoImplicit false

namespace TabletopDice

open Sequencing

namespace Term

/-- A base die and as many bonus dice behind it as the cap allows, where every one of them has
brought a further one. -/
def Overruns (term : Term) (cap : Int) (dice : List RolledDie) : Prop :=
  ∃ die, term.BaseDie die ∧ term.Explodes die ∧
    dice = die :: List.replicate cap.toNat (term.bonusDie term.maxFace)

/-- The dice that a term has thrown when a chain overruns the cap. -/
def BreaksOff (term : Term) (cap : Int) (dice : List RolledDie) : Prop :=
  ∃ (blocks : List (List RolledDie)) (last : List RolledDie), blocks.length < term.magnitude ∧
    (∀ block ∈ blocks, term.Block cap block) ∧ term.Overruns cap last ∧
    dice = blocks.flatten ++ last

/-- What a term has thrown when it stops a roll with a fault that is not the source's: either a
chain overruns the cap, or the whole pool is there but not its part of the breakdown. -/
inductive Fails (term : Term) (cap : Int) (fault : RollFault) (dice : List RolledDie) : Prop where
  | overrun (capped : Pool.capFault term cap = fault) (broken : term.BreaksOff cap dice)
  | unwritten {limit : Text.DigitLimit} (shape : term.Pool cap dice)
      (long : TermRoll.ofPool term dice = .error limit) (same : fault = .numeral limit)

/-- One of the numbers that are shown of a term, its dice and the cap is too long to be written. -/
inductive Unprintable (term : Term) (cap : Int) (dice : List RolledDie) : Prop where
  | label (long : ¬ term.Writable)
  | cap (long : Text.writeBound ≤ cap.natAbs)
  | die {die : RolledDie} (member : die ∈ dice) (long : ¬ die.Writable)
  | successes (long : Text.writeBound ≤ dice.length)

end Term

/-- Some terms have thrown their pools, and the one behind them has broken off. -/
def Interrupted (cap : Int) (terms : List Term) (done : List (List RolledDie)) (term : Term)
    (dice : List RolledDie) : Prop :=
  ∃ earlier later, terms = earlier ++ term :: later ∧
    List.Forall₂ (fun term pool => term.Pool cap pool) earlier done ∧ term.BreaksOff cap dice

theorem Term.callsOf_append_cons {earlier later : List Term} {term : Term}
    {done : List (List RolledDie)} {dice : List RolledDie}
    (length : earlier.length = done.length) :
    callsOf (earlier ++ term :: later) (done ++ [dice]) =
      callsOf earlier done ++ term.blockCalls dice := by
  simp [callsOf, List.zipWith_append length]

namespace Pool

variable {State : Type} {source : Source State} {fault : RollFault} {term : Term} {cap : Int}

theorem capFault_eq_explosion_iff {label shown : String} :
    capFault term cap = .explosion label shown ↔
      term.label = .ok label ∧ Text.writeInt cap = .ok shown := by
  unfold capFault
  cases term.label <;> cases Text.writeInt cap <;> simp

theorem unprintable_of_capFault {limit : Text.DigitLimit}
    (unwritten : capFault term cap = .numeral limit) (dice : List RolledDie) :
    term.Unprintable cap dice := by
  by_contra printable
  have writable : term.Writable := not_not.mp fun long => printable (.label long)
  have short : cap.natAbs < Text.writeBound := Nat.not_le.mp fun long => printable (.cap long)
  obtain ⟨label, labelWritten⟩ := writable.exists_label
  obtain ⟨shown, capWritten⟩ := Text.exists_writeInt_iff.mpr short
  rw [capFault_eq_explosion_iff.mpr ⟨labelWritten, capWritten⟩] at unwritten
  cases unwritten

theorem capFault_ne_draw (term : Term) (cap : Int) (drawFault : DrawFault) :
    capFault term cap ≠ .draw drawFault := by
  unfold capFault
  cases term.label <;> cases Text.writeInt cap <;> simp

section Draws

variable (draws : Rolling.Avoids (Rolling.draw source 1 term.size) fault)
include draws

theorem throwFace_avoids : Rolling.Avoids (throwFace source term.die) fault := by
  unfold Term.size at draws
  cases kind : term.die with
  | sided size =>
      rw [kind] at draws
      exact draws
  | fudge =>
      rw [kind] at draws
      exact draws.bind fun _ => Rolling.avoids_pure _

theorem throwDie_avoids : Rolling.Avoids (throwDie source term) fault := by
  refine (throwFace_avoids draws).bind fun face => ?_
  split
  · exact (throwFace_avoids draws).bind fun _ => Rolling.avoids_pure _
  · exact Rolling.avoids_pure _

/-- A chain fails once its allowance is used up, whatever it has thrown before. -/
theorem continueChain_eq_error_iff {allowance : Nat} {thrown : List RolledDie}
    {state next : State} :
    continueChain source term cap allowance thrown state = .error fault next ↔
      capFault term cap = fault ∧ source.Answers state
        ((List.replicate allowance (term.bonusDie term.maxFace)).flatMap
          (RolledDie.calls term.die)) next := by
  induction allowance generalizing thrown state with
  | zero =>
      simp [continueChain, run_throw_eq_error_iff, Source.answers_nil_iff]
  | succ allowance ih =>
      have never := throwFace_avoids draws state next
      simp only [continueChain, run_bind_eq_error_iff, throwFace_yields _ _ _ _, true_and, never,
        false_or, List.replicate_succ, List.flatMap_cons, Source.answers_append_iff]
      constructor
      · intro failed
        obtain ⟨face, middle, first, rest⟩ := failed
        by_cases greatest : face = term.maxFace
        · subst greatest
          rw [if_pos rfl, ih] at rest
          exact ⟨rest.1, middle, first, rest.2⟩
        · rw [if_neg greatest] at rest
          exact absurd rest run_pure_ne_error
      · intro left
        obtain ⟨same, middle, first, rest⟩ := left
        refine ⟨term.maxFace, middle, first, ?_⟩
        rw [if_pos rfl, ih]
        exact ⟨same, rest⟩

theorem block_stops :
    Rolling.Stops source (block source term cap) fault
      (fun dice => capFault term cap = fault ∧ term.Overruns cap dice)
      (List.flatMap (RolledDie.calls term.die)) := by
  intro state next
  have never := throwDie_avoids draws state next
  simp only [block, run_bind_eq_error_iff, throwDie_yields _ _ _ _, never, false_or]
  constructor
  · intro failed
    obtain ⟨die, middle, ⟨base, first⟩, rest⟩ := failed
    by_cases explodes : term.Explodes die
    · simp only [if_pos (explodes_iff.mpr explodes), run_bind_eq_error_iff, run_pure_ne_error,
        and_false, exists_false, or_false, chain, continueChain_eq_error_iff draws] at rest
      exact ⟨_, ⟨rest.1, die, base, explodes, rfl⟩,
        Source.answers_append_iff.mpr ⟨middle, first, rest.2⟩⟩
    · rw [if_neg (fun met => explodes (explodes_iff.mp met))] at rest
      exact absurd rest run_pure_ne_error
  · intro left
    obtain ⟨dice, ⟨same, die, base, explodes, rfl⟩, answers⟩ := left
    obtain ⟨middle, first, rest⟩ := Source.answers_append_iff.mp answers
    refine ⟨die, middle, ⟨base, first⟩, ?_⟩
    simp only [if_pos (explodes_iff.mpr explodes), run_bind_eq_error_iff, run_pure_ne_error,
      and_false, exists_false, or_false, chain, continueChain_eq_error_iff draws]
    exact ⟨same, rest⟩

theorem throwAll_stops :
    Rolling.Stops source (throwAll source term cap) fault
      (fun dice => capFault term cap = fault ∧ term.BreaksOff cap dice)
      (List.flatMap (RolledDie.calls term.die)) := by
  intro state next
  have blocksStop : Rolling.Stops source (blocks source term cap) fault _ _ :=
    (block_stops draws).repeated (block_yields term cap) term.magnitude
  simp only [throwAll, run_bind_eq_error_iff, run_pure_ne_error, and_false, exists_false, or_false,
    blocksStop _ _]
  constructor
  · intro left
    obtain ⟨⟨done, last⟩, ⟨fewer, shapes, same, overruns⟩, answers⟩ := left
    refine ⟨done.flatten ++ last, ⟨same, done, last, fewer, shapes, overruns, rfl⟩, ?_⟩
    rw [List.flatMap_append, List.flatten_eq_flatMap, List.flatMap_assoc]
    exact answers
  · intro left
    obtain ⟨dice, ⟨same, done, last, fewer, shapes, overruns, rfl⟩, answers⟩ := left
    rw [List.flatMap_append, List.flatten_eq_flatMap, List.flatMap_assoc] at answers
    exact ⟨(done, last), ⟨fewer, shapes, same, overruns⟩, answers⟩

end Draws

end Pool

/-! ## Whole rolls -/

variable {State : Type} {source : Source State} {cap : Int}

namespace TermRoll

theorem unprintable_of_ofPool {term : Term} {dice : List RolledDie} {limit : Text.DigitLimit}
    (unwritten : ofPool term dice = .error limit) (cap : Int) : term.Unprintable cap dice := by
  by_contra printable
  have writable : term.Writable := not_not.mp fun long => printable (.label long)
  have each : ∀ die ∈ dice, die.Writable :=
    fun die member => not_not.mp fun long => printable (.die member long)
  have few : dice.length < Text.writeBound :=
    Nat.not_le.mp fun long => printable (.successes long)
  obtain ⟨part, written⟩ := exists_ofPool_iff.mpr
    ⟨writable.exists_label, each, exists_successText term.filter term.success few⟩
  rw [written] at unwritten
  cases unwritten

theorem roll_stops (term : Term) {fault : RollFault}
    (other : ∀ drawFault, fault ≠ .draw drawFault) :
    Rolling.Stops source (roll source cap term) fault (term.Fails cap fault) term.blockCalls := by
  intro state next
  have draws : Rolling.Avoids (Rolling.draw source 1 term.size) fault :=
    Rolling.draw_avoids other 1 term.size
  simp only [roll, run_bind_eq_error_iff, Pool.throwAll_stops draws state next,
    Pool.throwAll_yields term cap _ _ _, Rolling.written_eq_error_iff]
  constructor
  · intro failed
    rcases failed with ⟨dice, ⟨capped, broken⟩, answers⟩ |
      ⟨dice, middle, ⟨shape, answers⟩, ⟨limit, long, same⟩, rfl⟩
    · exact ⟨dice, .overrun capped broken, answers⟩
    · exact ⟨dice, .unwritten shape long same, answers⟩
  · intro left
    obtain ⟨dice, fails, answers⟩ := left
    cases fails with
    | overrun capped broken => exact .inl ⟨dice, ⟨capped, broken⟩, answers⟩
    | unwritten shape long same =>
        exact .inr ⟨dice, next, ⟨shape, answers⟩, ⟨_, long, same⟩, rfl⟩

theorem roll_avoids_draw {term : Term} {fault : DrawFault}
    (draws : Rolling.Avoids (Rolling.draw source 1 term.size) (.draw fault)) :
    Rolling.Avoids (roll source cap term) (.draw fault) := by
  have thrown : Rolling.Avoids (Pool.throwAll source term cap) (.draw fault) := by
    intro state next failed
    obtain ⟨_, ⟨same, -⟩, -⟩ := (Pool.throwAll_stops draws state next).mp failed
    exact Pool.capFault_ne_draw term cap fault same
  exact thrown.bind fun _ => Rolling.written_avoids (fun limit => by simp) _

end TermRoll

namespace Expression

variable {expression : Expression} {text : String} {label : Option String} {state next : State}

/-- Which draws lead to a fault that is not the source's: those of the terms before the one that
fails, and its own, or else all of them if it is the whole breakdown that cannot be written. -/
theorem roll_eq_error_iff {fault : RollFault} (other : ∀ drawFault, fault ≠ .draw drawFault) :
    expression.roll source cap text label state = .error fault next ↔
      (∃ earlier term later parts dice, expression.dice = earlier ++ term :: later ∧
        List.Forall₂ (fun term part => term.Recorded cap part) earlier parts ∧
        term.Fails cap fault dice ∧ source.Answers state
          (Term.callsOf earlier (parts.map TermRoll.dice) ++ term.blockCalls dice) next) ∨
      ∃ parts middle, expression.dice.mapM (TermRoll.roll source cap) state = .ok parts middle ∧
        (∃ limit, RollResult.ofParts parts expression.modifier text label = .error limit ∧
          fault = .numeral limit) ∧ middle = next := by
  simp only [Expression.roll, run_bind_eq_error_iff, Rolling.written_eq_error_iff, Term.callsOf,
    List.zipWith_map_right]
  have stops (term : Term) := @TermRoll.roll_stops _ source cap term fault other
  exact or_congr_left (Rolling.mapM_eq_error_iff (TermRoll.roll_yields cap) stops)

theorem roll_eq_explosion_iff {shownLabel shownCap : String} :
    expression.roll source cap text label state = .error (.explosion shownLabel shownCap) next ↔
      ∃ earlier term later parts dice, expression.dice = earlier ++ term :: later ∧
        List.Forall₂ (fun term part => term.Recorded cap part) earlier parts ∧
        (Pool.capFault term cap = .explosion shownLabel shownCap ∧ term.BreaksOff cap dice) ∧
        source.Answers state
          (Term.callsOf earlier (parts.map TermRoll.dice) ++ term.blockCalls dice) next := by
  have overruns : ∀ (term : Term) dice, term.Fails cap (.explosion shownLabel shownCap) dice ↔
      Pool.capFault term cap = .explosion shownLabel shownCap ∧ term.BreaksOff cap dice := by
    intro term dice
    constructor
    · intro fails
      cases fails with
      | overrun capped broken => exact ⟨capped, broken⟩
      | unwritten _ _ same => cases same
    · intro left
      exact .overrun left.1 left.2
  rw [roll_eq_error_iff fun drawFault => RollFault.noConfusion]
  simp only [overruns, reduceCtorEq, and_false, exists_false, false_and, or_false]

theorem exists_pools_of_recorded {terms : List Term} {parts : List TermRoll}
    (recorded : List.Forall₂ (fun term part => term.Recorded cap part) terms parts) :
    ∃ pools, List.Forall₂ (fun term pool => term.Pool cap pool) terms pools ∧
      Term.callsOf terms pools = Term.callsOf terms (parts.map TermRoll.dice) := by
  induction recorded with
  | nil => exact ⟨[], .nil, rfl⟩
  | @cons term part terms parts first _ ih =>
      obtain ⟨pool, shape, done⟩ := first
      obtain ⟨pools, shapes, same⟩ := ih
      refine ⟨pool :: pools, .cons shape shapes, ?_⟩
      have calls : term.blockCalls part.dice = term.blockCalls pool := by
        rw [(TermRoll.ofPool_eq_ok done).2.1, Term.blockCalls, Selection.flatMap_calls_apply,
          Term.blockCalls]
      simp only [Term.callsOf, List.map_cons, List.zipWith_cons_cons, List.flatten_cons, calls]
        at same ⊢
      rw [same]

/-- Once a term breaks off, its fault ends the traversal, unless a part before it is too long to be
written down. -/
theorem mapM_roll_of_interrupted {earlier later : List Term} {term : Term}
    {done : List (List RolledDie)} {dice : List RolledDie} {state next : State}
    (pools : List.Forall₂ (fun term pool => term.Pool cap pool) earlier done)
    (broken : term.BreaksOff cap dice)
    (answers : source.Answers state (Term.callsOf earlier done ++ term.blockCalls dice) next) :
    ∃ fault after, (earlier ++ term :: later).mapM (TermRoll.roll source cap) state =
        .error fault after ∧
      ((∃ limit, fault = .numeral limit) ∨ fault = Pool.capFault term cap ∧ after = next) := by
  induction pools generalizing state with
  | nil =>
      have draws : Rolling.Avoids (Rolling.draw source 1 term.size) (Pool.capFault term cap) :=
        Rolling.draw_avoids (Pool.capFault_ne_draw term cap) 1 term.size
      have thrown := (Pool.throwAll_stops draws state next).mpr
        ⟨dice, ⟨rfl, broken⟩, answers⟩
      refine ⟨_, next, ?_, .inr ⟨rfl, rfl⟩⟩
      simp only [List.nil_append, List.mapM_cons, TermRoll.roll, run_bind_eq_error_iff, thrown,
        true_or]
  | @cons first pool earlier done shape _ ih =>
      rw [Term.callsOf, List.zipWith_cons_cons, List.flatten_cons, List.append_assoc] at answers
      obtain ⟨middle, firstAnswers, restAnswers⟩ := Source.answers_append_iff.mp answers
      have thrown := (Pool.throwAll_yields first cap _ _ _).mpr ⟨shape, firstAnswers⟩
      simp only [List.cons_append, List.mapM_cons, run_bind_eq_error_iff, TermRoll.roll,
        run_bind_eq_ok_iff, Rolling.written_eq_ok_iff, Rolling.written_eq_error_iff,
        run_pure_ne_error, and_false, exists_false, or_false]
      cases written : TermRoll.ofPool first pool with
      | error limit =>
          exact ⟨.numeral limit, middle,
            .inl (.inr ⟨pool, middle, thrown, ⟨limit, written, rfl⟩, rfl⟩), .inl ⟨limit, rfl⟩⟩
      | ok part =>
          obtain ⟨fault, after, failed, known⟩ := ih restAnswers
          exact ⟨fault, after,
            .inr ⟨part, middle, ⟨pool, middle, thrown, written, rfl⟩, failed⟩, known⟩

theorem roll_eq_error_of_interrupted (text : String) (label : Option String)
    {done : List (List RolledDie)} {term : Term} {dice : List RolledDie}
    (interrupted : Interrupted cap expression.dice done term dice)
    (answers : source.Answers state (Term.callsOf expression.dice (done ++ [dice])) next) :
    ∃ fault after, expression.roll source cap text label state = .error fault after ∧
      ((∃ limit, fault = .numeral limit) ∨ fault = Pool.capFault term cap ∧ after = next) := by
  obtain ⟨earlier, later, terms, pools, broken⟩ := interrupted
  rw [terms, Term.callsOf_append_cons pools.length_eq] at answers
  obtain ⟨fault, after, failed, known⟩ := mapM_roll_of_interrupted pools broken answers
  refine ⟨fault, after, ?_, known⟩
  rw [Expression.roll, run_bind_eq_error_iff, terms]
  exact .inl failed

theorem exists_interrupted_of_roll {shownLabel shownCap : String}
    (stopped : expression.roll source cap text label state =
      .error (.explosion shownLabel shownCap) next) :
    ∃ done term dice, Interrupted cap expression.dice done term dice ∧
      term.label = .ok shownLabel ∧ Text.writeInt cap = .ok shownCap ∧
      source.Answers state (Term.callsOf expression.dice (done ++ [dice])) next ∧
      ∀ earlier, expression.roll source.recorded cap text label (state, earlier) =
        .error (.explosion shownLabel shownCap)
          (next, earlier ++ Term.callsOf expression.dice (done ++ [dice])) := by
  obtain ⟨before, term, later, parts, dice, terms, recorded, ⟨fault, broken⟩, answers⟩ :=
    roll_eq_explosion_iff.mp stopped
  obtain ⟨pools, shapes, same⟩ := exists_pools_of_recorded recorded
  obtain ⟨shownLabelIs, shownCapIs⟩ := Pool.capFault_eq_explosion_iff.mp fault
  refine ⟨pools, term, dice, ⟨before, later, terms, shapes, broken⟩, shownLabelIs, shownCapIs, ?_⟩
  rw [terms, Term.callsOf_append_cons shapes.length_eq, same]
  refine ⟨answers, fun earlier => roll_eq_explosion_iff.mpr ?_⟩
  exact ⟨before, term, later, parts, dice, terms, recorded, ⟨fault, broken⟩,
    answers.recorded earlier⟩

/-- The draws on which a chain overruns the cap are all that the roll makes. -/
theorem recorded_eq_explosion {shownLabel shownCap : String} {done : List (List RolledDie)}
    {term : Term} {dice : List RolledDie} {after : State}
    (stopped : expression.roll source cap text label state =
      .error (.explosion shownLabel shownCap) next)
    (interrupted : Interrupted cap expression.dice done term dice)
    (answers : source.Answers state (Term.callsOf expression.dice (done ++ [dice])) after)
    (earlier : List Call) :
    expression.roll source.recorded cap text label (state, earlier) =
      .error (.explosion shownLabel shownCap)
        (after, earlier ++ Term.callsOf expression.dice (done ++ [dice])) := by
  obtain ⟨_, _, _, -, -, -, -, noted⟩ := exists_interrupted_of_roll stopped
  obtain ⟨fault, left, failed, known⟩ :=
    roll_eq_error_of_interrupted text label interrupted (answers.recorded earlier)
  rw [noted earlier] at failed ⊢
  cases failed
  rcases known with ⟨limit, impossible⟩ | ⟨-, same⟩
  · cases impossible
  · rw [same]

theorem exists_refusal_of_roll {fault : DrawFault}
    (failed : expression.roll source cap text label state = .error (.draw fault) next) :
    ∃ term ∈ expression.dice, ∃ before after,
      source.draw 1 term.size before = .error fault after := by
  by_contra none
  have draws : ∀ term ∈ expression.dice,
      Rolling.Avoids (Rolling.draw source 1 term.size) (.draw fault) := by
    intro term member before after refused
    obtain ⟨_, same, refuses⟩ := Rolling.draw_eq_error_iff.mp refused
    cases same
    exact none ⟨term, member, before, after, refuses⟩
  have thrown : Rolling.Avoids (expression.dice.mapM (TermRoll.roll source cap)) (.draw fault) :=
    .mapM fun term member => TermRoll.roll_avoids_draw (draws term member)
  exact (thrown.bind fun _ => Rolling.written_avoids (fun limit => by simp) _) state next failed

theorem exists_unprintable_of_roll {limit : Text.DigitLimit}
    (failed : expression.roll source cap text label state = .error (.numeral limit) next) :
    Text.writeBound ≤ expression.modifier.natAbs ∨
      ∃ term ∈ expression.dice, ∃ dice before after,
        (term.Pool cap dice ∨ term.BreaksOff cap dice) ∧
          source.Answers before (term.blockCalls dice) after ∧ term.Unprintable cap dice := by
  rcases (roll_eq_error_iff fun drawFault => by simp).mp failed with
    ⟨before, term, later, parts, dice, terms, -, fails, answers⟩ |
    ⟨parts, middle, -, ⟨_, unfinished, -⟩, -⟩
  · have member : term ∈ expression.dice := terms ▸ List.mem_append_right _ List.mem_cons_self
    obtain ⟨start, -, own⟩ := Source.answers_append_iff.mp answers
    cases fails with
    | overrun capped broken =>
        exact .inr ⟨term, member, dice, start, next, .inr broken, own,
          Pool.unprintable_of_capFault capped dice⟩
    | unwritten shape long _ =>
        exact .inr ⟨term, member, dice, start, next, .inl shape, own,
          TermRoll.unprintable_of_ofPool long cap⟩
  · exact .inl (RollResult.ofParts_eq_error_iff.mp unfinished).2

/-- How bonus dice and their cap bear on a roll: what a result shows of them, on which draws the cap
stops the roll and that no further one is made, and that nothing else stops it but the source or a
number that is too long. -/
structure CapsChains {State : Type} (source : Source State) (expression : Expression) (cap : Int)
    (text : String) (label : Option String) (state : State) : Prop where
  returned : ∀ result next, expression.roll source cap text label state = .ok result next →
    ∃ blocks, IsCut expression.dice result.dice blocks ∧
      (∀ others, IsCut expression.dice result.dice others → others = blocks) ∧
      List.Forall₂ (fun term block => term.ClosesChains cap block) expression.dice blocks
  stopped : (∀ limit next,
      expression.roll source cap text label state ≠ .error (.numeral limit) next) →
    ∀ shownLabel shownCap next,
      expression.roll source cap text label state =
          .error (.explosion shownLabel shownCap) next ↔
        ∃ done term dice, Interrupted cap expression.dice done term dice ∧
          term.label = .ok shownLabel ∧ Text.writeInt cap = .ok shownCap ∧
          source.Answers state (Term.callsOf expression.dice (done ++ [dice])) next
  noted : ∀ shownLabel shownCap next,
    expression.roll source cap text label state = .error (.explosion shownLabel shownCap) next →
    ∀ done term dice after, Interrupted cap expression.dice done term dice →
      source.Answers state (Term.callsOf expression.dice (done ++ [dice])) after →
      ∀ earlier, expression.roll source.recorded cap text label (state, earlier) =
        .error (.explosion shownLabel shownCap)
          (after, earlier ++ Term.callsOf expression.dice (done ++ [dice]))
  refused : ∀ fault next, expression.roll source cap text label state = .error (.draw fault) next →
    ∃ term ∈ expression.dice, ∃ before after, source.draw 1 term.size before = .error fault after
  unwritten : ∀ limit next,
    expression.roll source cap text label state = .error (.numeral limit) next →
    Text.writeBound ≤ expression.modifier.natAbs ∨
      ∃ term ∈ expression.dice, ∃ dice before after,
        (term.Pool cap dice ∨ term.BreaksOff cap dice) ∧
          source.Answers before (term.blockCalls dice) after ∧ term.Unprintable cap dice
  completed :
    (∀ fault next, expression.roll source cap text label state ≠ .error (.draw fault) next) →
    (∀ limit next, expression.roll source cap text label state ≠ .error (.numeral limit) next) →
    (∀ done term dice next, Interrupted cap expression.dice done term dice →
      ¬ source.Answers state (Term.callsOf expression.dice (done ++ [dice])) next) →
    ∃ result next, expression.roll source cap text label state = .ok result next

/-- Bonus dice come in chains within the cap, and the cap stops exactly the rolls in which a chain
would exceed it. -/
theorem roll_capsChains (source : Source State) (expression : Expression) (cap : Int)
    (text : String) (label : Option String) (state : State) :
    CapsChains source expression cap text label state where
  returned result next rolled := by
    obtain ⟨parts, recorded, -, finished⟩ := roll_eq_ok_iff.mp rolled
    have dice := (RollResult.ofParts_eq_ok finished).2
    have cut : IsCut expression.dice result.dice (parts.map TermRoll.dice) :=
      ⟨dice.symm, List.forall₂_map_right_iff.mpr (recorded.imp fun _ _ => Term.Recorded.owns)⟩
    refine ⟨_, cut, fun others other => other.unique cut, ?_⟩
    exact List.forall₂_map_right_iff.mpr (recorded.imp fun _ _ => Term.Recorded.closesChains)
  stopped legible shownLabel shownCap next := by
    constructor
    · intro stopped
      obtain ⟨done, term, dice, interrupted, shownLabelIs, shownCapIs, answers, -⟩ :=
        exists_interrupted_of_roll stopped
      exact ⟨done, term, dice, interrupted, shownLabelIs, shownCapIs, answers⟩
    · intro left
      obtain ⟨done, term, dice, interrupted, shownLabelIs, shownCapIs, answers⟩ := left
      have reached := Pool.capFault_eq_explosion_iff.mpr ⟨shownLabelIs, shownCapIs⟩
      obtain ⟨fault, after, failed, known⟩ :=
        roll_eq_error_of_interrupted text label interrupted answers
      rcases known with ⟨limit, rfl⟩ | ⟨same, rfl⟩
      · exact absurd failed (legible limit after)
      · rw [failed, same, reached]
  noted _ _ _ stopped _ _ _ _ interrupted answers earlier :=
    recorded_eq_explosion stopped interrupted answers earlier
  refused _ _ failed := exists_refusal_of_roll failed
  unwritten _ _ failed := exists_unprintable_of_roll failed
  completed answered legible never := by
    cases outcome : expression.roll source cap text label state with
    | ok result next => exact ⟨result, next, rfl⟩
    | error fault next =>
        cases fault with
        | explosion shownLabel shownCap =>
            obtain ⟨done, term, dice, interrupted, -, -, answers, -⟩ :=
              exists_interrupted_of_roll outcome
            exact absurd answers (never done term dice next interrupted)
        | draw drawFault => exact absurd outcome (answered drawFault next)
        | numeral limit => exact absurd outcome (legible limit next)

/-- Two exploding dice that throw a six again. -/
def fuse : Term :=
  { volley with
    count := 2, filter := none, reroll := some {6}
    count_ne_zero := by decide, filter_fits := by decide }

/-- With a cap of one, the second die breaks off: its only bonus die is a six too. -/
def fuseDice : List RolledDie :=
  [{ size := 6, result := 6, modified := some 4, rerolled := true }, fuse.bonusDie 2,
    { size := 6, result := 6, modified := some 3, rerolled := true }, fuse.bonusDie 6]

theorem breaksOff_fuse : fuse.BreaksOff 1 fuseDice := by
  have again : fuse.Rerolls 6 := ⟨{6}, rfl, by decide⟩
  refine ⟨[fuseDice.take 2], fuseDice.drop 2, by decide, fun block member => ?_,
    ⟨_, .rerolled again, ⟨rfl, rfl⟩, rfl⟩, rfl⟩
  obtain rfl := List.mem_singleton.mp member
  exact .chain (.rerolled again) ⟨rfl, rfl⟩ (.last (by decide))

theorem roll_fuse :
    Expression.roll Generator.source 1 ⟨[fuse], 3⟩ "" none (.scripted [6, 4, 2, 6, 3, 6, 1]) =
      .error (.explosion "2d6" "1") (.scripted [1]) := by
  have label : fuse.label = .ok "2d6" := by
    simp only [Term.label, Text.writeNat, Term.sizeText, Term.magnitude, fuse, volley]
    rw [writeInt_of_digit (by decide) (by decide), writeInt_of_digit (by decide) (by decide)]
    rfl
  have shownCap : Text.writeInt 1 = .ok "1" := writeInt_of_digit (by decide) (by decide)
  refine roll_eq_explosion_iff.mpr ⟨[], fuse, [], [], fuseDice, rfl, .nil,
    ⟨Pool.capFault_eq_explosion_iff.mpr ⟨label, shownCap⟩, breaksOff_fuse⟩, ?_⟩
  exact .cons rfl (.cons rfl (.cons rfl (.cons rfl (.cons rfl (.cons rfl .nil)))))

theorem roll_capsChains_fuse :
    Expression.roll Generator.source 1 ⟨[fuse], 3⟩ "" none (.scripted [6, 4, 2, 6, 3, 6, 1]) =
        .error (.explosion "2d6" "1") (.scripted [1]) ∧
      ∃ done term dice, Interrupted 1 [fuse] done term dice ∧
        ∀ earlier, Expression.roll Generator.source.recorded 1 ⟨[fuse], 3⟩ "" none
            (.scripted [6, 4, 2, 6, 3, 6, 1], earlier) =
          .error (.explosion "2d6" "1")
            (.scripted [1], earlier ++ Term.callsOf [fuse] (done ++ [dice])) := by
  have chains := roll_capsChains Generator.source ⟨[fuse], 3⟩ 1 "" none
    (.scripted [6, 4, 2, 6, 3, 6, 1])
  obtain ⟨done, term, dice, interrupted, -, -, answers⟩ :=
    (chains.stopped (fun limit next failed => by simp [roll_fuse] at failed) _ _ _).mp roll_fuse
  exact ⟨roll_fuse, done, term, dice, interrupted,
    chains.noted _ _ _ roll_fuse done term dice _ interrupted answers⟩

end Expression

end TabletopDice
