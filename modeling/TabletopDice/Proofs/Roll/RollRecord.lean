import TabletopDice.Proofs.Roll.PoolShape
import TabletopDice.Roll.Result

/-!
What a finished roll has recorded. Filtering a pool changes no mark but `dropped`, so the calls of a
term can still be read off the dice that it reports. A roll succeeds exactly when every term has a
record and the source gives the answers of all the records in order.
-/

set_option autoImplicit false

namespace TabletopDice

open Sequencing

namespace Selection

/-- What does not depend on the `dropped` mark is the same before and after a filter. -/
theorem map_apply {View : Type} {view : RolledDie → View}
    (ignores : ∀ (die : RolledDie) (dropped : Bool), view { die with dropped } = view die)
    (filter : Option Filter) (pool : List RolledDie) :
    (apply filter pool).map view = pool.map view := by
  cases filter with
  | none => rfl
  | some filter =>
      have unmarked : pool.zipIdx.map (view ∘ Prod.fst) = pool.map view := by
        rw [← List.map_map, List.zipIdx_map_fst]
      rw [apply, mark, List.map_map, ← unmarked]
      exact List.map_congr_left fun entry _ => ignores entry.1 _

theorem forall_mem_apply_iff {holds : RolledDie → Prop}
    (ignores : ∀ (die : RolledDie) (dropped : Bool), holds { die with dropped } ↔ holds die)
    (filter : Option Filter) (pool : List RolledDie) :
    (∀ die ∈ apply filter pool, holds die) ↔ ∀ die ∈ pool, holds die := by
  have same : (apply filter pool).map holds = pool.map holds :=
    map_apply (fun die dropped => propext (ignores die dropped)) filter pool
  have shown (dice : List RolledDie) :
      (∀ die ∈ dice, holds die) ↔ ∀ fact ∈ dice.map holds, fact := by
    rw [List.forall_mem_map]
  rw [shown, shown, same]

theorem flatMap_calls_apply (kind : Die) (filter : Option Filter) (pool : List RolledDie) :
    (apply filter pool).flatMap (RolledDie.calls kind) = pool.flatMap (RolledDie.calls kind) := by
  have same : (apply filter pool).map (RolledDie.calls kind) = pool.map _ :=
    map_apply (fun _ _ => rfl) filter pool
  rw [List.flatMap_def, List.flatMap_def, same]

theorem map_exploded_apply (filter : Option Filter) (pool : List RolledDie) :
    (apply filter pool).map RolledDie.exploded = pool.map RolledDie.exploded :=
  map_apply (fun _ _ => rfl) filter pool

theorem length_apply (filter : Option Filter) (pool : List RolledDie) :
    (apply filter pool).length = pool.length := by
  have same := congrArg List.length (map_exploded_apply filter pool)
  rwa [List.length_map, List.length_map] at same

theorem countP_base_apply (filter : Option Filter) (pool : List RolledDie) :
    (apply filter pool).countP (!·.exploded) = pool.countP (!·.exploded) := by
  have counted := congrArg (List.countP not) (map_exploded_apply filter pool)
  rwa [List.countP_map, List.countP_map] at counted

theorem head_apply {filter : Option Filter} {first : RolledDie} {rest : List RolledDie}
    (base : first.exploded = false) :
    ∃ marked others, apply filter (first :: rest) = marked :: others ∧ marked.exploded = false := by
  have same := map_exploded_apply filter (first :: rest)
  rw [List.map_cons, base] at same
  obtain ⟨marked, others, split, unexploded, -⟩ := List.map_eq_cons_iff.mp same
  exact ⟨marked, others, split, unexploded⟩

theorem recorded_apply {term : Term} {pool : List RolledDie}
    (recorded : ∀ die ∈ pool, term.RecordedDie die) :
    ∀ die ∈ apply term.filter pool, term.RecordedDie die := by
  intro die member
  cases filtered : term.filter with
  | none =>
      rw [filtered] at member
      exact recorded die member
  | some filter =>
      rw [filtered] at member
      obtain ⟨entry, present, rfl⟩ := List.mem_map.mp member
      have thrown := recorded entry.1 (List.fst_mem_of_mem_zipIdx present)
      exact { thrown with dropped := fun _ => by rw [filtered]; rfl }

end Selection

namespace TermRoll

theorem ofPool_eq_ok {term : Term} {pool : List RolledDie} {part : TermRoll}
    (recorded : ofPool term pool = .ok part) :
    part.isNegative = term.isNegative ∧ part.dice = Selection.apply term.filter pool ∧
      part.score = scoreOf term.success part.dice := by
  simp only [ofPool, bind_eq_ok_iff, pure_eq_ok_iff] at recorded
  obtain ⟨text, -, rfl⟩ := recorded
  exact ⟨rfl, rfl, rfl⟩

end TermRoll

def Term.Recorded (term : Term) (cap : Int) (part : TermRoll) : Prop :=
  ∃ pool, term.Pool cap pool ∧ TermRoll.ofPool term pool = .ok part

def Term.blockCalls (term : Term) (block : List RolledDie) : List Call :=
  block.flatMap (RolledDie.calls term.die)

variable {State : Type} {source : Source State}

theorem TermRoll.roll_yields (cap : Int) (term : Term) :
    Rolling.Yields source (TermRoll.roll source cap term) (term.Recorded cap)
      (fun part => term.blockCalls part.dice) := by
  intro state part next
  simp only [TermRoll.roll, run_bind_eq_ok_iff, Rolling.written_eq_ok_iff,
    Pool.throwAll_yields _ _ _ _ _]
  constructor
  · intro rolled
    obtain ⟨pool, middle, ⟨shape, answers⟩, recorded, rfl⟩ := rolled
    refine ⟨⟨pool, shape, recorded⟩, ?_⟩
    rw [Term.blockCalls, (TermRoll.ofPool_eq_ok recorded).2.1, Selection.flatMap_calls_apply]
    exact answers
  · intro rolled
    obtain ⟨⟨pool, shape, recorded⟩, answers⟩ := rolled
    rw [Term.blockCalls, (TermRoll.ofPool_eq_ok recorded).2.1,
      Selection.flatMap_calls_apply] at answers
    exact ⟨pool, next, ⟨shape, answers⟩, recorded, rfl⟩

/-- The calls of the blocks of all terms, in order. -/
def Term.callsOf (terms : List Term) (blocks : List (List RolledDie)) : List Call :=
  (List.zipWith Term.blockCalls terms blocks).flatten

theorem Expression.roll_eq_ok_iff {expression : Expression} {cap : Int} {text : String}
    {label : Option String} {state next : State} {result : RollResult} :
    expression.roll source cap text label state = .ok result next ↔
      ∃ parts, List.Forall₂ (fun term part => term.Recorded cap part) expression.dice parts ∧
        source.Answers state (Term.callsOf expression.dice (parts.map TermRoll.dice)) next ∧
        RollResult.ofParts parts expression.modifier text label = .ok result := by
  simp only [Expression.roll, run_bind_eq_ok_iff, Rolling.written_eq_ok_iff,
    Rolling.mapM_eq_ok_iff (TermRoll.roll_yields cap), Term.callsOf, List.zipWith_map_right]
  constructor
  · intro rolled
    obtain ⟨parts, middle, ⟨recorded, answers⟩, finished, rfl⟩ := rolled
    exact ⟨parts, recorded, answers, finished⟩
  · intro rolled
    obtain ⟨parts, recorded, answers, finished⟩ := rolled
    exact ⟨parts, next, ⟨recorded, answers⟩, finished, rfl⟩

/-- A roll around one of its terms. -/
theorem Expression.roll_eq_around {expression : Expression} {earlier later : List Term}
    {term : Term} (terms : expression.dice = earlier ++ term :: later) (cap : Int) (text : String)
    (label : Option String) :
    expression.roll source cap text label = (do
      let parts ← earlier.mapM (TermRoll.roll source cap)
      let pool ← Pool.throwAll source term cap
      let part ← Rolling.written (TermRoll.ofPool term pool)
      let rest ← later.mapM (TermRoll.roll source cap)
      Rolling.written
        (RollResult.ofParts (parts ++ part :: rest) expression.modifier text label)) := by
  simp only [Expression.roll, terms, List.mapM_append, List.mapM_cons, TermRoll.roll, bind_assoc,
    pure_bind]

theorem Expression.roll_eq_ok_iff_around {expression : Expression} {cap : Int} {text : String}
    {label : Option String} {state next : State} {result : RollResult} {earlier later : List Term}
    {term : Term} (terms : expression.dice = earlier ++ term :: later) :
    expression.roll source cap text label state = .ok result next ↔
      ∃ parts before pool after part rest,
        earlier.mapM (TermRoll.roll source cap) state = .ok parts before ∧
        Pool.throwAll source term cap before = .ok pool after ∧
        TermRoll.ofPool term pool = .ok part ∧
        later.mapM (TermRoll.roll source cap) after = .ok rest next ∧
        RollResult.ofParts (parts ++ part :: rest) expression.modifier text label =
          .ok result := by
  simp only [roll_eq_around terms, run_bind_eq_ok_iff, Rolling.written_eq_ok_iff]
  constructor
  · intro rolled
    obtain ⟨parts, before, front, pool, _, thrown, part, after, ⟨written, rfl⟩, rest, _, back,
      finished, rfl⟩ := rolled
    exact ⟨parts, before, pool, _, part, rest, front, thrown, written, back, finished⟩
  · intro rolled
    obtain ⟨parts, before, pool, after, part, rest, front, thrown, written, back, finished⟩ :=
      rolled
    exact ⟨parts, before, front, pool, after, thrown, part, after, ⟨written, rfl⟩, rest, next, back,
      finished, rfl⟩

theorem RollResult.ofParts_eq_ok {parts : List TermRoll} {modifier : Int} {text : String}
    {label : Option String} {result : RollResult}
    (finished : RollResult.ofParts parts modifier text label = .ok result) :
    result.total = modifier + Number.sum (parts.map TermRoll.contribution) ∧
      result.dice = (parts.map TermRoll.dice).flatten := by
  simp only [RollResult.ofParts, bind_eq_ok_iff, pure_eq_ok_iff] at finished
  obtain ⟨breakdown, -, rfl⟩ := finished
  exact ⟨rfl, List.flatMap_def⟩

theorem RollResult.breakdownOf_eq_ok {parts : List TermRoll} {modifier : Int} {text : String}
    {label : Option String} {result : RollResult}
    (finished : RollResult.ofParts parts modifier text label = .ok result) :
    breakdownOf parts modifier = .ok result.breakdown := by
  simp only [RollResult.ofParts, bind_eq_ok_iff, pure_eq_ok_iff] at finished
  obtain ⟨breakdown, written, rfl⟩ := finished
  exact written

end TabletopDice
