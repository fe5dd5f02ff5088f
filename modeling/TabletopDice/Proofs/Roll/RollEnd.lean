import Mathlib.Algebra.Group.Action.Defs
import Mathlib.Algebra.Order.BigOperators.Group.List
import Mathlib.Algebra.Order.Ring.Nat
import TabletopDice.Proofs.Notation.Explained
import TabletopDice.Proofs.Roll.ExplosionCap
import TabletopDice.Proofs.Roll.FaceBounds
import TabletopDice.Settings.Environment

/-!
How a roll can end. A roll of what has been read returns, or a chain of bonus dice overruns its cap,
unless the source itself refuses a draw. There is one more way: the numbers of a notation are
limited one by one but not their sum, and a sum that is too long to be written stops the roll once
all its dice have been thrown.
-/

set_option autoImplicit false

namespace TabletopDice

open Sequencing

/-! ## Terms whose part can always be written -/

namespace Term

variable {term : Term} {cap : Int}

theorem Block.length_le {block : List RolledDie} (shape : term.Block cap block) :
    block.length ≤ 1 + cap.toNat := by
  cases shape with
  | single _ _ => simp
  | chain _ _ bonusChain =>
      have bounded := bonusChain.length_le
      rw [List.length_cons]
      omega

theorem Pool.length_le {pool : List RolledDie} (shape : term.Pool cap pool) :
    pool.length ≤ term.magnitude * (1 + cap.toNat) := by
  obtain ⟨blocks, length, shapes, rfl⟩ := shape
  have each : ∀ size ∈ blocks.map List.length, size ≤ 1 + cap.toNat :=
    List.forall_mem_map.mpr fun block member => (shapes block member).length_le
  have sum := List.sum_le_card_nsmul _ _ each
  rwa [List.length_map, length, smul_eq_mul, ← List.length_flatten] at sum

/-- Whatever the term throws, its part of the breakdown can be written. -/
structure Tellable (cap : Int) (term : Term) : Prop where
  writable : term.Writable
  pool : term.magnitude * (1 + cap.toNat) < Text.writeBound

theorem Shows.writable {die : RolledDie} (shows : term.Shows die) (writable : term.Writable) :
    die.Writable where
  result := Nat.lt_of_le_of_lt shows.result.natAbs_le writable.size
  rerolled _ face found := Nat.lt_of_le_of_lt (shows.modified face found).natAbs_le writable.size

theorem Expressible.tellable {ceilings : Ceilings} {bound : Nat}
    (expressible : term.Expressible ceilings) (moderate : ceilings.Below bound)
    (room : bound * bound ≤ Text.writeBound) (capSmall : cap.natAbs < bound) :
    term.Tellable cap where
  writable := expressible.writable moderate (moderate.le_writeBound room)
  pool := by
    have dice := moderate.dice
    have count := expressible.count_le
    refine Nat.lt_of_lt_of_le (Nat.mul_lt_mul_of_lt_of_le ?_ ?_ (Nat.zero_lt_of_lt dice)) room
    · omega
    · omega

end Term

namespace TermRoll

variable {State : Type} {source : Source State} {term : Term} {cap : Int} {pool : List RolledDie}

theorem exists_ofPool (tellable : term.Tellable cap) (shape : term.Pool cap pool)
    (shows : ∀ die ∈ pool, term.Shows die) : ∃ part, ofPool term pool = .ok part := by
  refine exists_ofPool_iff.mpr ⟨tellable.writable.exists_label, fun die member => ?_, ?_⟩
  · exact (shows die member).writable tellable.writable
  · exact exists_successText _ _ (Nat.lt_of_le_of_lt shape.length_le tellable.pool)

/-- A term that can be told never stops a roll with a numeral that is too long. -/
theorem roll_avoids_numeral (inRange : source.InRange) (tellable : term.Tellable cap)
    (capShort : cap.natAbs < Text.writeBound) (limit : Text.DigitLimit) :
    Rolling.Avoids (roll source cap term) (.numeral limit) := by
  intro state next failed
  obtain ⟨dice, fails, answers⟩ :=
    (roll_stops term (fun _ => RollFault.noConfusion) state next).mp failed
  cases fails with
  | overrun capped _ =>
      obtain ⟨label, labelWritten⟩ := tellable.writable.exists_label
      obtain ⟨shown, capWritten⟩ := Text.exists_writeInt_iff.mpr capShort
      rw [Pool.capFault_eq_explosion_iff.mpr ⟨labelWritten, capWritten⟩] at capped
      cases capped
  | unwritten shape long _ =>
      obtain ⟨part, written⟩ :=
        exists_ofPool tellable shape (Term.shows_of_answers inRange answers)
      rw [written] at long
      cases long

end TermRoll

/-! ## Ends of rolls -/

namespace Expression

variable {State : Type} {source : Source State} {cap : Int} {expression : Expression}
  {text : String} {label : Option String} {state next : State}

/-- The ways in which a roll of the expression can end, and what each says of the expression. -/
inductive Ends (source : Source State) (cap : Int) (expression : Expression) :
    EStateM.Result RollFault State RollResult → Prop where
  | returned {result : RollResult} {next : State}
      (short : expression.modifier.natAbs < Text.writeBound) :
      Ends source cap expression (.ok result next)
  | capped {term : Term} {shownLabel shownCap : String} {next : State}
      (member : term ∈ expression.dice) (explodes : term.explode = true)
      (labelShown : term.label = .ok shownLabel) (capShown : Text.writeInt cap = .ok shownCap) :
      Ends source cap expression (.error (.explosion shownLabel shownCap) next)
  | refused {term : Term} {fault : DrawFault} {before after next : State}
      (member : term ∈ expression.dice) (refuses : source.draw 1 term.size before =
        .error fault after) :
      Ends source cap expression (.error (.draw fault) next)
  | overlong {next : State} (long : Text.writeBound ≤ expression.modifier.natAbs) :
      Ends source cap expression (.error (.numeral .writing) next)

theorem overlong_of_roll (inRange : source.InRange)
    (tellable : ∀ term ∈ expression.dice, term.Tellable cap)
    (capShort : cap.natAbs < Text.writeBound) {limit : Text.DigitLimit}
    (failed : expression.roll source cap text label state = .error (.numeral limit) next) :
    limit = .writing ∧ Text.writeBound ≤ expression.modifier.natAbs := by
  obtain thrown | ⟨parts, middle, -, unwritten⟩ := run_bind_eq_error_iff.mp failed
  · refine absurd thrown (Rolling.Avoids.mapM (fun term member => ?_) state next)
    exact TermRoll.roll_avoids_numeral inRange (tellable term member) capShort limit
  · obtain ⟨⟨_, unfinished, same⟩, -⟩ := Rolling.written_eq_error_iff.mp unwritten
    cases same
    exact RollResult.ofParts_eq_error_iff.mp unfinished

theorem ends_of_tellable (inRange : source.InRange)
    (tellable : ∀ term ∈ expression.dice, term.Tellable cap)
    (capShort : cap.natAbs < Text.writeBound) (text : String) (label : Option String)
    (state : State) :
    Ends source cap expression (expression.roll source cap text label state) := by
  cases outcome : expression.roll source cap text label state with
  | ok result next =>
      obtain ⟨parts, -, -, finished⟩ := roll_eq_ok_iff.mp outcome
      exact .returned (RollResult.short_of_ofParts finished)
  | error fault next =>
      cases fault with
      | explosion shownLabel shownCap =>
          obtain ⟨_, term, _, interrupted, labelShown, capShown, -⟩ :=
            exists_interrupted_of_roll outcome
          obtain ⟨earlier, later, terms, -, broken⟩ := interrupted
          obtain ⟨_, _, -, -, ⟨_, -, explodes, -⟩, -⟩ := broken
          have member : term ∈ expression.dice := terms ▸ List.mem_append_right _ List.mem_cons_self
          exact .capped member explodes.1 labelShown capShown
      | draw drawFault =>
          obtain ⟨term, member, before, after, refuses⟩ := exists_refusal_of_roll outcome
          exact .refused member refuses
      | numeral limit =>
          obtain ⟨rfl, long⟩ := overlong_of_roll inRange tellable capShort outcome
          exact .overlong long

/-- A modifier that is too long stops the roll behind its last die. -/
theorem roll_of_long_modifier {parts : List TermRoll}
    (long : Text.writeBound ≤ expression.modifier.natAbs)
    (thrown : expression.dice.mapM (TermRoll.roll source cap) state = .ok parts next) :
    expression.roll source cap text label state = .error (.numeral .writing) next := by
  have unfinished : RollResult.ofParts parts expression.modifier text label = .error .writing :=
    RollResult.ofParts_eq_error_iff.mpr ⟨rfl, long⟩
  rw [Expression.roll, run_bind_of_ok thrown, unfinished]
  rfl

/-- A notation read under the default settings is rolled to the end, or to the cap on bonus dice, or
to a modifier that is too long. -/
theorem roll_ends {written : List Char}
    (read : Expression.parse ({} : Settings).ceilings written = .ok expression)
    (inRange : source.InRange) (text : String) (label : Option String) (state : State) :
    Ends source ({} : Settings).maxExplosionChain expression
      (expression.roll source ({} : Settings).maxExplosionChain text label state) := by
  have room := Text.square_le_writeBound 6 (by decide)
  have expressible := expressible_of_parse read
  have small : ({} : Settings).maxExplosionChain.natAbs < 10 ^ 6 := by decide
  have limit := Explanation.below_default.le_writeBound room
  refine ends_of_tellable inRange (fun term member => ?_) (Nat.lt_of_lt_of_le small limit) text
    label state
  exact (expressible.terms term member).tellable Explanation.below_default room small

/-- Two dice of which the higher one counts, and a six brings a bonus die. -/
def lucky : Term :=
  { fuse with
    filter := some (.keep ⟨.highest, 1⟩), reroll := none
    filter_fits := by decide }

theorem roll_ends_lucky :
    Expression.parse ({} : Settings).ceilings "2d6kh1!-7".toList = .ok ⟨[lucky], -7⟩ ∧
      Generator.source.InRange ∧
      Ends Generator.source ({} : Settings).maxExplosionChain ⟨[lucky], -7⟩
        (Expression.roll Generator.source ({} : Settings).maxExplosionChain ⟨[lucky], -7⟩ "" none
          (.scripted [2, 6, 6, 1])) := by
  have read : Expression.parse ({} : Settings).ceilings "2d6kh1!-7".toList =
      .ok ⟨[lucky], -7⟩ := by
    decide +kernel
  exact ⟨read, Generator.source_inRange, roll_ends read Generator.source_inRange "" none _⟩

def subtracted : Term :=
  { volley with
    count := -1, filter := none, reroll := none, explode := false
    count_ne_zero := by decide, filter_fits := by decide }

theorem exists_parts_subtracted :
    ∃ parts, [subtracted].mapM (TermRoll.roll Generator.source ({} : Settings).maxExplosionChain)
      (.scripted [3]) = .ok parts (.scripted []) := by
  have tellable : subtracted.Tellable ({} : Settings).maxExplosionChain := by
    refine ⟨⟨Text.lt_writeBound (by decide), Text.lt_writeBound (by decide)⟩, ?_⟩
    exact Nat.lt_of_lt_of_le (by decide) (Text.square_le_writeBound 6 (by decide))
  have thrown : Pool.throwAll Generator.source subtracted ({} : Settings).maxExplosionChain
      (.scripted [3]) = .ok [{ size := 6, result := 3 }] (.scripted []) :=
    rfl
  obtain ⟨shape, answers⟩ := (Pool.throwAll_yields subtracted _ _ _ _).mp thrown
  obtain ⟨part, written⟩ := TermRoll.exists_ofPool tellable shape
    (Term.shows_of_answers Generator.source_inRange answers)
  refine ⟨[part], ?_⟩
  simp only [List.mapM_cons, List.mapM_nil, TermRoll.roll, run_bind_eq_ok_iff,
    Rolling.written_eq_ok_iff]
  exact ⟨part, _, ⟨_, _, thrown, written, rfl⟩, [], _, rfl, rfl⟩

/-- Each number has no more digits than may be written, but their sum has. The die falls, and then
the roll stops. -/
theorem roll_subtracted_nines :
    ∃ expression,
      Expression.parse ({} : Settings).ceilings
          ("-1d6+1+".toList ++ List.replicate 4300 '9') = .ok expression ∧
        expression.roll Generator.source ({} : Settings).maxExplosionChain "" none
          (.scripted [3]) = .error (.numeral .writing) (.scripted []) := by
  have first : Expression.parse ({} : Settings).ceilings "-1d6+1".toList =
      .ok ⟨[subtracted], 1⟩ := by
    decide +kernel
  have run : DigitRun (List.replicate 4300 '9') := digitRun_nines (by decide)
  have readable : Readable (List.replicate 4300 '9') := readable_nines.mpr (by decide)
  have bound : Text.writeBound ≤ Text.digitsValue (List.replicate 4300 '9') + 1 :=
    Text.writeBound_le_nines (by decide)
  -- The nines themselves must not be evaluated.
  generalize List.replicate 4300 '9' = nines at *
  obtain ⟨parts, thrown⟩ := exists_parts_subtracted
  refine ⟨_, parse_append_number first run readable .plus, roll_of_long_modifier ?_ thrown⟩
  change Text.writeBound ≤ (1 + (Text.digitsValue nines : Int)).natAbs
  omega

end Expression

end TabletopDice
