import TabletopDice.Proofs.Roll.PoolShape
import TabletopDice.Proofs.Roll.SelectionRank
import TabletopDice.Source.Generator

/-!
The rule by which a term drops dice. Whatever pool its throws have given, bonus dice included, the
filter of a term always has dice to pick and dice to leave, and it tells them apart by their ranks.
-/

set_option autoImplicit false

namespace TabletopDice.Selection

/-- Of a filter's two sides, the one with the higher values: the dice that are kept if the highest
are kept or the lowest dropped, else those that are dropped. -/
def OnHigherSide (filter : Filter) (die : RolledDie) : Prop :=
  match filter with
  | .keep ⟨.highest, _⟩ => die.dropped = false
  | .keep ⟨.lowest, _⟩ => die.dropped = true
  | .drop ⟨.highest, _⟩ => die.dropped = true
  | .drop ⟨.lowest, _⟩ => die.dropped = false

/-- The dice of a pool after a filter. -/
structure DropsByRank (filter : Filter) (pool marked : List RolledDie) : Prop where
  length : marked.length = pool.length
  dice : ∀ (place : Nat) (die : RolledDie), pool[place]? = some die → marked[place]? =
    some { die with dropped := dropsRank filter pool.length (rank pool (die, place)) }
  selected : (selectedCount filter marked : Int) = filter.pick.count
  someKept : ∃ die ∈ marked, die.dropped = false
  someDropped : ∃ die ∈ marked, die.dropped = true
  higher : ∀ first ∈ marked, OnHigherSide filter first →
    ∀ second ∈ marked, ¬ OnHigherSide filter second → second.value ≤ first.value

/-! ## The two sides -/

theorem rank_le_of_outranks {pool : List RolledDie} {first second : RolledDie × Nat}
    (outranks : Outranks first second) : rank pool first ≤ rank pool second := by
  refine List.countP_mono_left ?_
  intro other _ above
  simp only [decide_eq_true_eq] at *
  exact outranks_trans above outranks

theorem value_le_of_rank_lt {pool : List RolledDie} {first second : RolledDie × Nat}
    (less : rank pool first < rank pool second) : second.1.value ≤ first.1.value := by
  by_contra greater
  have outranks : Outranks second first := .inl (Int.not_le.mp greater)
  exact Nat.not_lt.mpr (rank_le_of_outranks outranks) less

def lowerSide (filter : Filter) (dice : Int) : Int :=
  match filter.pick.side with
  | .highest => filter.pick.count
  | .lowest => dice - filter.pick.count

theorem onHigherSide_iff {filter : Filter} {dice rank : Int} {die : RolledDie}
    (marked : die.dropped = dropsRank filter dice rank) :
    OnHigherSide filter die ↔ rank < lowerSide filter dice := by
  unfold OnHigherSide lowerSide
  rw [marked]
  obtain ⟨side, count⟩ | ⟨side, count⟩ := filter
  · cases side with
    | highest => simp only [dropsRank, Filter.pick, decide_eq_false_iff_not, Int.not_le]
    | lowest => simp only [dropsRank, Filter.pick, decide_eq_true_eq]
  · cases side with
    | highest => simp only [dropsRank, Filter.pick, decide_eq_true_eq]
    | lowest => simp only [dropsRank, Filter.pick, decide_eq_false_iff_not, Int.not_le]

theorem exists_of_mem_mark {filter : Filter} {pool : List RolledDie}
    (positive : 0 < filter.pick.count) (enough : filter.pick.count ≤ pool.length)
    {die : RolledDie} (member : die ∈ mark filter pool) :
    ∃ place thrown, pool[place]? = some thrown ∧ die.value = thrown.value ∧
      die.dropped = dropsRank filter pool.length (rank pool (thrown, place)) := by
  obtain ⟨place, found⟩ := List.mem_iff_getElem?.mp member
  have within : place < pool.length := by
    rw [← length_mark filter pool]
    exact (List.getElem?_eq_some_iff.mp found).1
  have thrown := List.getElem?_eq_getElem within
  rw [getElem?_mark_eq_some positive enough thrown] at found
  cases found
  exact ⟨place, _, thrown, rfl, rfl⟩

theorem value_le_of_sides {filter : Filter} {pool : List RolledDie}
    (positive : 0 < filter.pick.count) (enough : filter.pick.count ≤ pool.length)
    {first second : RolledDie} (firstMember : first ∈ mark filter pool)
    (secondMember : second ∈ mark filter pool) (higher : OnHigherSide filter first)
    (lower : ¬ OnHigherSide filter second) : second.value ≤ first.value := by
  obtain ⟨firstPlace, firstThrown, -, firstValue, firstMark⟩ :=
    exists_of_mem_mark positive enough firstMember
  obtain ⟨secondPlace, secondThrown, -, secondValue, secondMark⟩ :=
    exists_of_mem_mark positive enough secondMember
  rw [onHigherSide_iff firstMark] at higher
  rw [onHigherSide_iff secondMark] at lower
  have less : rank pool (firstThrown, firstPlace) < rank pool (secondThrown, secondPlace) := by
    omega
  rw [firstValue, secondValue]
  exact value_le_of_rank_lt less

theorem exists_kept_and_dropped {filter : Filter} {pool : List RolledDie}
    (positive : 0 < filter.pick.count) (fewer : filter.pick.count < pool.length) :
    (∃ die ∈ mark filter pool, die.dropped = false) ∧
      ∃ die ∈ mark filter pool, die.dropped = true := by
  have selected := selectedCount_mark positive (Int.le_of_lt fewer)
  have total := countP_kept_mark filter pool
  have bounds : 0 < (mark filter pool).countP (·.dropped) ∧
      0 < (kept (mark filter pool)).length := by
    cases filter with
    | keep pick =>
        simp only [selectedCount, Filter.pick] at *
        omega
    | drop pick =>
        simp only [selectedCount, Filter.pick] at *
        omega
  obtain ⟨someDropped, someKept⟩ := bounds
  constructor
  · obtain ⟨die, member⟩ := List.exists_mem_of_length_pos someKept
    obtain ⟨inPool, unmarked⟩ := List.mem_filter.mp member
    exact ⟨die, inPool, by simpa using unmarked⟩
  · exact List.countP_pos_iff.mp someDropped

theorem mark_dropsByRank {filter : Filter} {pool : List RolledDie}
    (positive : 0 < filter.pick.count) (fewer : filter.pick.count < pool.length) :
    DropsByRank filter pool (mark filter pool) where
  length := length_mark filter pool
  dice _ _ found := getElem?_mark_eq_some positive (Int.le_of_lt fewer) found
  selected := selectedCount_mark positive (Int.le_of_lt fewer)
  someKept := (exists_kept_and_dropped positive fewer).1
  someDropped := (exists_kept_and_dropped positive fewer).2
  higher _ firstMember higher _ secondMember lower :=
    value_le_of_sides positive (Int.le_of_lt fewer) firstMember secondMember higher lower

/-! ## Filtering what a term has thrown -/

/-- A term's filter drops dice by rank from every pool that the term can throw. -/
theorem apply_dropsByRank {State : Type} {source : Source State} {term : Term} {filter : Filter}
    (filtered : term.filter = some filter) {cap : Int} {state next : State}
    {pool : List RolledDie} (thrown : Pool.throwAll source term cap state = .ok pool next) :
    (0 < filter.pick.count ∧ filter.pick.count < term.magnitude ∧
      term.magnitude ≤ pool.length) ∧
      DropsByRank filter pool (apply term.filter pool) := by
  obtain ⟨shape, -⟩ := (Pool.throwAll_yields term cap _ _ _).mp thrown
  obtain ⟨positive, fewer⟩ : filter.Fits term.magnitude := term.filter_fits filter filtered
  have enough := shape.magnitude_le_length
  refine ⟨⟨positive, fewer, enough⟩, ?_⟩
  rw [filtered]
  exact mark_dropsByRank positive (Int.lt_of_lt_of_le fewer (Int.ofNat_le.mpr enough))

/-- Three exploding dice of which the lowest two are kept. A one is thrown again. -/
def lowestTwo : Term :=
  ⟨3, .sided 8, some (.keep ⟨.lowest, 2⟩), some {1}, true, none, by decide, by decide, by decide⟩

/-- A bonus die, and a die that showed a one first and counts as much as two others. -/
def tiedPool : List RolledDie :=
  [{ size := 8, result := 8 }, { size := 8, result := 3, exploded := true },
    { size := 8, result := 1, modified := some 3, rerolled := true }, { size := 8, result := 3 }]

theorem apply_dropsByRank_tiedPool :
    Pool.throwAll Generator.source lowestTwo 10 (.scripted [8, 3, 1, 3, 3]) =
        .ok tiedPool (.scripted []) ∧
      DropsByRank (.keep ⟨.lowest, 2⟩) tiedPool (apply lowestTwo.filter tiedPool) := by
  have thrown : Pool.throwAll Generator.source lowestTwo 10 (.scripted [8, 3, 1, 3, 3]) =
      .ok tiedPool (.scripted []) := rfl
  exact ⟨thrown, (apply_dropsByRank rfl thrown).2⟩

end TabletopDice.Selection
