import Mathlib.Data.List.Chain
import TabletopDice.Proofs.Roll.RollRecord

/-!
Chains of bonus dice as they can be seen in the dice of a term. A die that shows its greatest face
first is followed by a bonus die and no other die is, every chain ends, and none is longer than the
cap. All this can be told die by die, so that it carries over from blocks to whole pools.
-/

set_option autoImplicit false

namespace TabletopDice

/-- The rules of bonus dice in the dice of a term. Bonus dice follow one another without a base die
between them as long as their chain goes on. -/
structure Term.ClosesChains (term : Term) (cap : Int) (dice : List RolledDie) : Prop where
  calm : term.explode = false → ∀ die ∈ dice, die.exploded = false
  follows : term.explode = true →
    dice.IsChain fun die next => next.exploded = true ↔ die.result = term.maxFace
  ends : term.explode = true → ∀ die ∈ dice.getLast?, die.result ≠ term.maxFace
  short : ∀ chain, chain <:+: dice → (∀ die ∈ chain, die.exploded = true) →
    (chain.length : Int) ≤ max cap 0

namespace Term

variable {term : Term} {cap : Int}

/-! ## One block -/

theorem Chain.length_le {allowance : Nat} {chain : List RolledDie}
    (shape : term.Chain allowance chain) : chain.length ≤ allowance := by
  induction shape with
  | last => simp
  | more _ ih => exact Nat.succ_le_succ ih

theorem Chain.follows {allowance : Nat} {chain : List RolledDie}
    (shape : term.Chain allowance chain) {die : RolledDie} (greatest : die.result = term.maxFace) :
    (die :: chain).IsChain fun die next => next.exploded = true ↔ die.result = term.maxFace := by
  induction shape generalizing die with
  | last => exact .cons_cons (iff_of_true rfl greatest) (.singleton _)
  | more _ ih => exact .cons_cons (iff_of_true rfl greatest) (ih rfl)

theorem Chain.ends {allowance : Nat} {chain : List RolledDie}
    (shape : term.Chain allowance chain) (die : RolledDie) :
    ∀ last ∈ (die :: chain).getLast?, last.result ≠ term.maxFace := by
  induction shape generalizing die with
  | last ends =>
      intro last found
      cases found
      exact ends
  | more _ ih =>
      intro last found
      rw [List.getLast?_cons_cons] at found
      exact ih _ last found

theorem eq_nil_of_prefix_base {die : RolledDie} {dice chain : List RolledDie}
    (base : die.exploded = false) (start : chain <+: die :: dice)
    (exploded : ∀ bonus ∈ chain, bonus.exploded = true) : chain = [] := by
  rcases List.prefix_cons_iff.mp start with empty | ⟨rest, rfl, -⟩
  · exact empty
  · have bonus := exploded die List.mem_cons_self
    rw [base] at bonus
    cases bonus

theorem Block.closesChains {block : List RolledDie} (shape : term.Block cap block) :
    term.ClosesChains cap block := by
  cases shape with
  | @single die base calm =>
      refine ⟨fun _ other member => ?_, fun _ => .singleton die, fun explode last found => ?_,
        fun chain inside exploded => ?_⟩
      · exact List.mem_singleton.mp member ▸ base.exploded
      · cases found
        exact fun greatest => calm ⟨explode, greatest⟩
      · rcases List.infix_cons_iff.mp inside with start | nothing
        · rw [eq_nil_of_prefix_base base.exploded start exploded]
          exact Int.le_max_right cap 0
        · rw [List.infix_nil.mp nothing]
          exact Int.le_max_right cap 0
  | @chain die bonus base explodes bonusChain =>
      have explode := explodes.1
      refine ⟨fun calm => ?_, fun _ => bonusChain.follows explodes.2,
        fun _ => bonusChain.ends die, fun chain inside exploded => ?_⟩
      · rw [explode] at calm
        cases calm
      · rcases List.infix_cons_iff.mp inside with start | within
        · rw [eq_nil_of_prefix_base base.exploded start exploded]
          exact Int.le_max_right cap 0
        · have shorter := within.length_le
          have bounded := bonusChain.length_le
          omega

/-! ## Whole pools -/

theorem closesChains_nil (term : Term) (cap : Int) : term.ClosesChains cap [] where
  calm := by simp
  follows _ := .nil
  ends := by simp
  short chain inside _ := by
    rw [List.infix_nil.mp inside]
    exact Int.le_max_right cap 0

/-- A base die starts afresh, so that no chain reaches across it. -/
theorem ClosesChains.append {first second : List RolledDie} (left : term.ClosesChains cap first)
    (right : term.ClosesChains cap second)
    (base : ∀ die ∈ second.head?, die.exploded = false) :
    term.ClosesChains cap (first ++ second) where
  calm explode die member := by
    rcases List.mem_append.mp member with early | late
    · exact left.calm explode die early
    · exact right.calm explode die late
  follows explode := by
    refine List.isChain_append.mpr ⟨left.follows explode, right.follows explode, ?_⟩
    intro die last next head
    refine iff_of_false ?_ (left.ends explode die last)
    rw [base next head]
    exact Bool.false_ne_true
  ends explode die found := by
    rw [List.getLast?_append] at found
    cases late : second.getLast? with
    | none =>
        rw [late, Option.none_or] at found
        exact left.ends explode die found
    | some last =>
        rw [late, Option.some_or] at found
        cases found
        exact right.ends explode die late
  short chain inside exploded := by
    rcases List.infix_append_iff.mp inside with early | late | ⟨before, after, rfl, suffix, start⟩
    · exact left.short chain early exploded
    · exact right.short chain late exploded
    · have nothing : after = [] := by
        cases second with
        | nil => exact List.prefix_nil.mp start
        | cons die second =>
            exact eq_nil_of_prefix_base (base die rfl) start
              fun bonus member => exploded bonus (List.mem_append_right before member)
      rw [nothing, List.append_nil] at exploded ⊢
      exact left.short before suffix.isInfix exploded

theorem closesChains_flatten {blocks : List (List RolledDie)}
    (shapes : ∀ block ∈ blocks, term.Block cap block) :
    term.ClosesChains cap blocks.flatten ∧
      ∀ die ∈ blocks.flatten.head?, die.exploded = false := by
  induction blocks with
  | nil => exact ⟨closesChains_nil term cap, by simp⟩
  | cons block blocks ih =>
      obtain ⟨first, rest⟩ := List.forall_mem_cons.mp shapes
      obtain ⟨closed, base⟩ := ih rest
      refine ⟨first.closesChains.append closed base, ?_⟩
      obtain ⟨die, dice, rfl, unexploded⟩ := first.head
      intro head found
      cases found
      exact unexploded

theorem Pool.closesChains {dice : List RolledDie} (shape : term.Pool cap dice) :
    term.ClosesChains cap dice := by
  obtain ⟨blocks, -, shapes, rfl⟩ := shape
  exact (closesChains_flatten shapes).1

/-! ## Filtered dice -/

/-- The rules look at first results and at marks of bonus dice only. -/
theorem ClosesChains.of_map_eq {first second : List RolledDie}
    (same : second.map (fun die => (die.result, die.exploded)) =
      first.map fun die => (die.result, die.exploded))
    (closed : term.ClosesChains cap first) : term.ClosesChains cap second := by
  have results : second.map RolledDie.result = first.map RolledDie.result := by
    have firsts := congrArg (List.map Prod.fst) same
    rwa [List.map_map, List.map_map] at firsts
  have marks : second.map RolledDie.exploded = first.map RolledDie.exploded := by
    have seconds := congrArg (List.map Prod.snd) same
    rwa [List.map_map, List.map_map] at seconds
  constructor
  · intro explode
    have unmarked : ∀ mark ∈ first.map RolledDie.exploded, mark = false :=
      List.forall_mem_map.mpr (closed.calm explode)
    rw [← marks] at unmarked
    exact List.forall_mem_map.mp unmarked
  · intro explode
    have linked : (first.map fun die => (die.result, die.exploded)).IsChain
        fun die next => next.2 = true ↔ die.1 = term.maxFace :=
      (List.isChain_map _).mpr (closed.follows explode)
    rw [← same] at linked
    exact (List.isChain_map _).mp linked
  · intro explode die last
    have shown : die.result ∈ (first.map RolledDie.result).getLast? := by
      rw [← results, List.getLast?_map, last]
      rfl
    rw [List.getLast?_map] at shown
    obtain ⟨other, found, equal⟩ := Option.map_eq_some_iff.mp shown
    exact equal ▸ closed.ends explode other found
  · intro chain inside exploded
    have marked := inside.map RolledDie.exploded
    rw [marks] at marked
    obtain ⟨others, within, equal⟩ := List.infix_map_iff.mp marked
    have length : chain.length = others.length := by simpa using congrArg List.length equal
    have all : ∀ mark ∈ chain.map RolledDie.exploded, mark = true :=
      List.forall_mem_map.mpr exploded
    rw [equal] at all
    rw [length]
    exact closed.short others within (List.forall_mem_map.mp all)

theorem Recorded.closesChains {part : TermRoll} (recorded : term.Recorded cap part) :
    term.ClosesChains cap part.dice := by
  obtain ⟨pool, shape, done⟩ := recorded
  rw [(TermRoll.ofPool_eq_ok done).2.1]
  refine shape.closesChains.of_map_eq ?_
  exact Selection.map_apply (fun _ _ => rfl) term.filter pool

end Term

end TabletopDice
