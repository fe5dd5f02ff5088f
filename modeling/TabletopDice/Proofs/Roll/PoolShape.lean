import TabletopDice.Proofs.Roll.CallSequence

/-!
The pools that a term can throw. Chains, blocks and pools are described by their dice alone. The
calls of a pool can be read off its dice, so that a term throws a pool on a source exactly when the
pool has the right shape and the source gives these answers.
-/

set_option autoImplicit false

namespace TabletopDice

/-- The call that shows a face of a die. The faces of a fudge die count two less than the
answers. -/
def Die.call : Die → Int → Call
  | .sided size, face => .answered 1 size face
  | .fudge, face => .answered 1 Die.fudgeSize (face + 2)

/-- The calls of a rolled die of the given kind: its first throw, and the second if there was
one. -/
def RolledDie.calls (kind : Die) (die : RolledDie) : List Call :=
  kind.call die.result :: (die.modified.map kind.call).toList

namespace Term

def bonusDie (term : Term) (face : Int) : RolledDie where
  size := term.size
  result := face
  exploded := true

def Rerolls (term : Term) (face : Int) : Prop :=
  ∃ faces, term.reroll = some faces ∧ face ∈ faces

/-- The dice that a term throws before any bonus dice. -/
inductive BaseDie (term : Term) : RolledDie → Prop where
  | kept {face : Int} (settled : ¬ term.Rerolls face) :
      BaseDie term { size := term.size, result := face }
  | rerolled {face second : Int} (again : term.Rerolls face) :
      BaseDie term { size := term.size, result := face, modified := some second, rerolled := true }

/-- Chains of at most so many bonus dice. All of them show the greatest face but the last, which
shows another one. -/
inductive Chain (term : Term) : Nat → List RolledDie → Prop where
  | last {allowance : Nat} {face : Int} (ends : face ≠ term.maxFace) :
      Chain term (allowance + 1) [term.bonusDie face]
  | more {allowance : Nat} {chain : List RolledDie} (rest : Chain term allowance chain) :
      Chain term (allowance + 1) (term.bonusDie term.maxFace :: chain)

def Explodes (term : Term) (die : RolledDie) : Prop :=
  term.explode = true ∧ die.result = term.maxFace

/-- A base die with the chain that it brings. -/
inductive Block (term : Term) (cap : Int) : List RolledDie → Prop where
  | single {die : RolledDie} (base : term.BaseDie die) (calm : ¬ term.Explodes die) :
      Block term cap [die]
  | chain {die : RolledDie} {bonus : List RolledDie} (base : term.BaseDie die)
      (explodes : term.Explodes die) (bonusChain : term.Chain cap.toNat bonus) :
      Block term cap (die :: bonus)

/-- A pool has one block for each of the term's dice. -/
def Pool (term : Term) (cap : Int) (dice : List RolledDie) : Prop :=
  ∃ blocks : List (List RolledDie), blocks.length = term.magnitude ∧
    (∀ block ∈ blocks, term.Block cap block) ∧ dice = blocks.flatten

/-! ## The dice of a pool -/

/-- What can be said of every die of a term, be it a base die or a bonus die, filtered or not. -/
structure RecordedDie (term : Term) (die : RolledDie) : Prop where
  size : die.size = term.size
  dropped : die.dropped = true → term.filter.isSome
  rerolled_iff_isSome : die.rerolled = true ↔ die.modified.isSome
  rerolled_iff : die.rerolled = true ↔ die.exploded = false ∧ term.Rerolls die.result

variable {term : Term} {cap : Int}

theorem BaseDie.exploded {die : RolledDie} (base : term.BaseDie die) : die.exploded = false := by
  cases base with
  | kept => rfl
  | rerolled => rfl

theorem BaseDie.recorded {die : RolledDie} (base : term.BaseDie die) : term.RecordedDie die := by
  cases base with
  | kept settled => exact ⟨rfl, nofun, by simp, by simp [settled]⟩
  | rerolled again => exact ⟨rfl, nofun, by simp, by simp [again]⟩

theorem bonusDie_recorded (term : Term) (face : Int) : term.RecordedDie (term.bonusDie face) :=
  ⟨rfl, nofun, by simp [bonusDie], by simp [bonusDie]⟩

/-- The dice of a term's pools: base dice, and bonus dice if the term explodes. -/
inductive ThrownDie (term : Term) : RolledDie → Prop where
  | base {die : RolledDie} (base : term.BaseDie die) : ThrownDie term die
  | bonus {face : Int} (explodes : term.explode = true) : ThrownDie term (term.bonusDie face)

theorem ThrownDie.recorded {die : RolledDie} (thrown : term.ThrownDie die) :
    term.RecordedDie die := by
  cases thrown with
  | base base => exact base.recorded
  | bonus _ => exact term.bonusDie_recorded _

theorem Chain.exists_bonusDie {allowance : Nat} {chain : List RolledDie}
    (shape : term.Chain allowance chain) : ∀ die ∈ chain, ∃ face, die = term.bonusDie face := by
  induction shape with
  | @last _ face _ =>
      intro die member
      exact ⟨face, List.mem_singleton.mp member⟩
  | more _ ih =>
      intro die member
      cases member with
      | head => exact ⟨term.maxFace, rfl⟩
      | tail _ later => exact ih die later

theorem Chain.countP_base {allowance : Nat} {chain : List RolledDie}
    (shape : term.Chain allowance chain) : chain.countP (!·.exploded) = 0 := by
  rw [List.countP_eq_zero]
  intro die member
  obtain ⟨face, rfl⟩ := shape.exists_bonusDie die member
  simp [bonusDie]

theorem Block.thrown {block : List RolledDie} (shape : term.Block cap block) :
    ∀ die ∈ block, term.ThrownDie die := by
  cases shape with
  | single base _ =>
      intro die member
      exact List.mem_singleton.mp member ▸ .base base
  | chain base explodes bonusChain =>
      intro die member
      cases member with
      | head => exact .base base
      | tail _ later =>
          obtain ⟨face, rfl⟩ := bonusChain.exists_bonusDie die later
          exact .bonus explodes.1

theorem Block.countP_base {block : List RolledDie} (shape : term.Block cap block) :
    block.countP (!·.exploded) = 1 := by
  cases shape with
  | single base _ => simp [base.exploded]
  | chain base _ bonusChain => simp [base.exploded, bonusChain.countP_base]

theorem Block.head {block : List RolledDie} (shape : term.Block cap block) :
    ∃ first rest, block = first :: rest ∧ first.exploded = false := by
  cases shape with
  | single base _ => exact ⟨_, _, rfl, base.exploded⟩
  | chain base _ _ => exact ⟨_, _, rfl, base.exploded⟩

theorem Pool.thrown {dice : List RolledDie} (shape : term.Pool cap dice) :
    ∀ die ∈ dice, term.ThrownDie die := by
  obtain ⟨blocks, -, shapes, rfl⟩ := shape
  intro die member
  obtain ⟨block, present, inBlock⟩ := List.mem_flatten.mp member
  exact (shapes block present).thrown die inBlock

theorem Pool.countP_base {dice : List RolledDie} (shape : term.Pool cap dice) :
    dice.countP (!·.exploded) = term.magnitude := by
  obtain ⟨blocks, length, shapes, rfl⟩ := shape
  rw [← length, List.countP_flatten]
  have ones : blocks.map (List.countP (!·.exploded)) = List.replicate blocks.length 1 :=
    List.map_eq_replicate_iff.mpr fun block member => (shapes block member).countP_base
  rw [ones, List.sum_replicate_nat, Nat.mul_one]

theorem Pool.head {dice : List RolledDie} (shape : term.Pool cap dice) :
    ∃ first rest, dice = first :: rest ∧ first.exploded = false := by
  obtain ⟨blocks, length, shapes, rfl⟩ := shape
  cases blocks with
  | nil => exact absurd length (Nat.ne_of_lt term.magnitude_pos)
  | cons block blocks =>
      obtain ⟨first, rest, rfl, base⟩ := (shapes block List.mem_cons_self).head
      exact ⟨first, rest ++ blocks.flatten, rfl, base⟩

theorem Pool.magnitude_le_length {dice : List RolledDie} (shape : term.Pool cap dice) :
    term.magnitude ≤ dice.length := by
  rw [← shape.countP_base]
  exact List.countP_le_length

end Term

namespace Pool

open Sequencing

variable {State : Type} {source : Source State}

theorem throwFace_yields (die : Die) :
    Rolling.Yields source (throwFace source die) (fun _ => True) (fun face => [die.call face]) := by
  intro state face next
  rw [true_and]
  cases die with
  | sided size => exact Rolling.draw_eq_ok_iff
  | fudge =>
      simp only [throwFace, run_bind_eq_ok_iff, run_pure_eq_ok_iff, Rolling.draw_eq_ok_iff,
        Die.call]
      constructor
      · intro thrown
        obtain ⟨answer, middle, answers, rfl, rfl⟩ := thrown
        simpa using answers
      · intro answers
        exact ⟨face + 2, next, answers, by omega, rfl⟩

theorem reroll_any_iff {term : Term} {face : Int} :
    term.reroll.any (fun faces => decide (face ∈ faces)) = true ↔ term.Rerolls face := by
  unfold Term.Rerolls
  cases term.reroll <;> simp

theorem throwDie_yields (term : Term) :
    Rolling.Yields source (throwDie source term) term.BaseDie (RolledDie.calls term.die) := by
  intro state die next
  simp only [throwDie, run_bind_eq_ok_iff, throwFace_yields _ _ _ _, true_and]
  constructor
  · intro thrown
    obtain ⟨face, middle, first, rest⟩ := thrown
    by_cases again : term.Rerolls face
    · rw [if_pos (reroll_any_iff.mpr again)] at rest
      simp only [run_bind_eq_ok_iff, throwFace_yields _ _ _ _, true_and,
        run_pure_eq_ok_iff] at rest
      obtain ⟨second, last, answers, rfl, rfl⟩ := rest
      exact ⟨.rerolled again, Source.answers_append_iff.mpr ⟨middle, first, answers⟩⟩
    · rw [if_neg (fun any => again (reroll_any_iff.mp any)), run_pure_eq_ok_iff] at rest
      obtain ⟨rfl, rfl⟩ := rest
      exact ⟨.kept again, first⟩
  · intro thrown
    obtain ⟨base, answers⟩ := thrown
    cases base with
    | @kept face settled =>
        refine ⟨face, next, answers, ?_⟩
        rw [if_neg (fun any => settled (reroll_any_iff.mp any)), run_pure_eq_ok_iff]
        exact ⟨rfl, rfl⟩
    | @rerolled face second again =>
        rw [RolledDie.calls, Source.answers_cons_iff] at answers
        obtain ⟨middle, first, rest⟩ := answers
        refine ⟨face, middle, first, ?_⟩
        rw [if_pos (reroll_any_iff.mpr again)]
        simp only [run_bind_eq_ok_iff, throwFace_yields _ _ _ _, true_and, run_pure_eq_ok_iff]
        exact ⟨second, next, rest, rfl, rfl⟩

/-- The chain is built behind the dice thrown so far, which stand in reverse. -/
theorem continueChain_eq_ok_iff {term : Term} {cap : Int} {allowance : Nat}
    {thrown dice : List RolledDie} {state next : State} :
    continueChain source term cap allowance thrown state = .ok dice next ↔
      ∃ bonus, term.Chain allowance bonus ∧ dice = thrown.reverse ++ bonus ∧
        source.Answers state (bonus.flatMap (RolledDie.calls term.die)) next := by
  induction allowance generalizing thrown state with
  | zero =>
      constructor
      · intro impossible
        cases impossible
      · intro impossible
        obtain ⟨bonus, chain, -⟩ := impossible
        cases chain
  | succ allowance ih =>
      simp only [continueChain, run_bind_eq_ok_iff, throwFace_yields _ _ _ _, true_and]
      constructor
      · intro done
        obtain ⟨face, middle, first, rest⟩ := done
        by_cases greatest : face = term.maxFace
        · subst greatest
          rw [if_pos rfl, ih] at rest
          obtain ⟨bonus, chain, rfl, answers⟩ := rest
          refine ⟨term.bonusDie term.maxFace :: bonus, .more chain, ?_, ?_⟩
          · simp [Term.bonusDie]
          · exact Source.answers_append_iff.mpr ⟨middle, first, answers⟩
        · rw [if_neg greatest, run_pure_eq_ok_iff] at rest
          obtain ⟨rfl, rfl⟩ := rest
          exact ⟨[term.bonusDie face], .last greatest, by simp [Term.bonusDie], first⟩
      · intro done
        obtain ⟨bonus, chain, rfl, answers⟩ := done
        cases chain with
        | @last _ face ends =>
            refine ⟨face, next, answers, ?_⟩
            rw [if_neg ends, run_pure_eq_ok_iff]
            exact ⟨by simp [Term.bonusDie], rfl⟩
        | @more _ bonus rest =>
            obtain ⟨middle, first, later⟩ := Source.answers_append_iff.mp answers
            refine ⟨term.maxFace, middle, first, ?_⟩
            rw [if_pos rfl, ih]
            exact ⟨bonus, rest, by simp [Term.bonusDie], later⟩

theorem chain_yields (term : Term) (cap : Int) :
    Rolling.Yields source (chain source term cap) (term.Chain cap.toNat)
      (List.flatMap (RolledDie.calls term.die)) := by
  intro state dice next
  rw [chain, continueChain_eq_ok_iff]
  simp

theorem explodes_iff {term : Term} {die : RolledDie} :
    (term.explode && die.result == term.maxFace) = true ↔ term.Explodes die := by
  simp [Term.Explodes]

theorem block_yields (term : Term) (cap : Int) :
    Rolling.Yields source (block source term cap) (term.Block cap)
      (List.flatMap (RolledDie.calls term.die)) := by
  intro state dice next
  simp only [block, run_bind_eq_ok_iff, throwDie_yields _ _ _ _]
  constructor
  · intro thrown
    obtain ⟨die, middle, ⟨base, first⟩, rest⟩ := thrown
    by_cases explodes : term.Explodes die
    · rw [if_pos (explodes_iff.mpr explodes)] at rest
      simp only [run_bind_eq_ok_iff, chain_yields _ _ _ _ _, run_pure_eq_ok_iff] at rest
      obtain ⟨bonus, last, ⟨bonusChain, answers⟩, rfl, rfl⟩ := rest
      exact ⟨.chain base explodes bonusChain,
        Source.answers_append_iff.mpr ⟨middle, first, answers⟩⟩
    · rw [if_neg (fun met => explodes (explodes_iff.mp met)), run_pure_eq_ok_iff] at rest
      obtain ⟨rfl, rfl⟩ := rest
      exact ⟨.single base explodes, by simpa using first⟩
  · intro thrown
    obtain ⟨shape, answers⟩ := thrown
    cases shape with
    | @single die base calm =>
        refine ⟨die, next, ⟨base, by simpa using answers⟩, ?_⟩
        rw [if_neg (fun met => calm (explodes_iff.mp met)), run_pure_eq_ok_iff]
        exact ⟨rfl, rfl⟩
    | @chain die bonus base explodes bonusChain =>
        rw [List.flatMap_cons, Source.answers_append_iff] at answers
        obtain ⟨middle, first, rest⟩ := answers
        refine ⟨die, middle, ⟨base, first⟩, ?_⟩
        rw [if_pos (explodes_iff.mpr explodes)]
        simp only [run_bind_eq_ok_iff, chain_yields _ _ _ _ _, run_pure_eq_ok_iff]
        exact ⟨bonus, next, ⟨bonusChain, rest⟩, rfl, rfl⟩

/-- A term throws exactly the pools of its shape, each on the calls of its dice. -/
theorem throwAll_yields (term : Term) (cap : Int) :
    Rolling.Yields source (throwAll source term cap) (term.Pool cap)
      (List.flatMap (RolledDie.calls term.die)) := by
  intro state dice next
  have blocksYield : Rolling.Yields source (blocks source term cap) _ _ :=
    (block_yields term cap).repeated term.magnitude
  simp only [throwAll, run_bind_eq_ok_iff, run_pure_eq_ok_iff, blocksYield _ _ _]
  constructor
  · intro thrown
    obtain ⟨blocks, middle, ⟨⟨length, shapes⟩, answers⟩, rfl, rfl⟩ := thrown
    refine ⟨⟨blocks, length, shapes, rfl⟩, ?_⟩
    rw [List.flatten_eq_flatMap, List.flatMap_assoc]
    exact answers
  · intro thrown
    obtain ⟨⟨blocks, length, shapes, rfl⟩, answers⟩ := thrown
    rw [List.flatten_eq_flatMap, List.flatMap_assoc] at answers
    exact ⟨blocks, next, ⟨⟨length, shapes⟩, answers⟩, rfl, rfl⟩

end Pool

end TabletopDice
