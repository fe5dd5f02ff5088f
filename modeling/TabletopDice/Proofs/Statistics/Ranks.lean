import Mathlib.Data.List.Sort
import TabletopDice.Proofs.Statistics.Iterations

/-!
Ranks in a summary. Median and percentiles are picked from the totals in ascending order, each at
the place that its share of the totals names. So many totals stand before it, and therefore no more
than so many lie below it.
-/

set_option autoImplicit false

namespace TabletopDice

open Sequencing

/-- In ascending order the value stands behind so many totals: not more of them are below it, and
together with those that equal it they are more. -/
structure HasRank (totals : List Int) (rank : Nat) (value : Int) : Prop where
  below : totals.countP (· < value) ≤ rank
  notAbove : rank < totals.countP (· ≤ value)

theorem HasRank.of_perm {totals others : List Int} {rank : Nat} {value : Int}
    (has : HasRank totals rank value) (same : totals.Perm others) : HasRank others rank value :=
  ⟨same.countP_eq _ ▸ has.below, same.countP_eq _ ▸ has.notAbove⟩

/-- What stands at a place of an ascending list has the rank of that place. -/
theorem hasRank_of_getElem? {sorted : List Int} (ordered : sorted.Pairwise (· ≤ ·)) {index : Nat}
    {value : Int} (found : sorted[index]? = some value) : HasRank sorted index value := by
  obtain ⟨within, rfl⟩ := List.getElem?_eq_some_iff.mp found
  have cut : sorted = sorted.take index ++ sorted[index] :: sorted.drop (index + 1) := by
    rw [← List.drop_eq_getElem_cons within, List.take_append_drop]
  have length : (sorted.take index).length = index :=
    List.length_take_of_le (Nat.le_of_lt within)
  generalize sorted[index] = value, sorted.take index = before,
    sorted.drop (index + 1) = behind at cut length
  subst cut length
  obtain ⟨-, rest, across⟩ := List.pairwise_append.mp ordered
  have later : ∀ total ∈ behind, value ≤ total := (List.pairwise_cons.mp rest).1
  constructor
  · have none : (value :: behind).countP (· < value) = 0 := by
      refine List.countP_eq_zero.mpr (List.forall_mem_cons.mpr ⟨by simp, fun total member => ?_⟩)
      simpa using later total member
    rw [List.countP_append, none, Nat.add_zero]
    exact List.countP_le_length
  · have all : before.countP (· ≤ value) = before.length := by
      refine List.countP_eq_length.mpr fun total member => ?_
      simpa using across total member value List.mem_cons_self
    rw [List.countP_append, all, List.countP_cons_of_pos (by simp)]
    omega

namespace Summary

/-! ## Ascending totals -/

theorem ascending_perm (totals : List Int) : (ascending totals).Perm totals :=
  List.mergeSort_perm totals _

theorem length_ascending (totals : List Int) : (ascending totals).length = totals.length :=
  (ascending_perm totals).length_eq

theorem pairwise_ascending (totals : List Int) : (ascending totals).Pairwise (· ≤ ·) :=
  List.pairwise_mergeSort' (· ≤ ·) totals

theorem length_ascending_pos {totals : List Int} (some : totals ≠ []) :
    0 < (ascending totals).length :=
  length_ascending totals ▸ List.length_pos_iff.mpr some

theorem mem_of_ascending {totals : List Int} {index : Nat} {value : Int}
    (found : (ascending totals)[index]? = some value) : value ∈ totals :=
  (ascending_perm totals).mem_iff.mp (List.mem_of_getElem? found)

theorem totalAt_eq_of_lt {sorted : List Int} {index : Nat} (within : index < sorted.length) :
    sorted[index]? = some (totalAt sorted index) := by
  rw [totalAt, List.getD_eq_getElem?_getD, List.getElem?_eq_getElem within, Option.getD_some]

theorem totalAt_le {sorted : List Int} (ordered : sorted.Pairwise (· ≤ ·)) {first second : Nat}
    (le : first ≤ second) (within : second < sorted.length) :
    totalAt sorted first ≤ totalAt sorted second := by
  have firstFound := totalAt_eq_of_lt (Nat.lt_of_le_of_lt le within)
  have secondFound := totalAt_eq_of_lt within
  obtain ⟨firstWithin, firstValue⟩ := List.getElem?_eq_some_iff.mp firstFound
  obtain ⟨_, secondValue⟩ := List.getElem?_eq_some_iff.mp secondFound
  rw [← firstValue, ← secondValue]
  rcases Nat.lt_or_eq_of_le le with less | rfl
  · exact List.pairwise_iff_getElem.mp ordered first second firstWithin within less
  · exact Int.le_refl _

theorem exists_totalAt_of_mem {sorted : List Int} {total : Int} (member : total ∈ sorted) :
    ∃ index < sorted.length, total = totalAt sorted index := by
  obtain ⟨index, within, rfl⟩ := List.getElem_of_mem member
  have found := totalAt_eq_of_lt within
  rw [List.getElem?_eq_getElem within] at found
  exact ⟨index, within, Option.some.inj found⟩

/-! ## Figures read off ascending totals -/

/-- The figures of the summary that are taken from ascending totals or counted among them. -/
structure ReadOff (sorted : List Int) (summary : Summary) : Prop where
  iterations : summary.iterations = sorted.length
  min : summary.min = totalAt sorted 0
  max : summary.max = totalAt sorted (sorted.length - 1)
  median : summary.median = totalAt sorted (sorted.length / 2)
  mode : summary.mode = modes (counts sorted)
  probabilities : shares sorted.length (counts sorted) = .ok summary.probabilities
  percentiles : summary.percentiles = listedPercentiles.map fun percent =>
    (percent, totalAt sorted (percentileIndex sorted.length percent))

theorem readOff_of_ofTotals {text : String} {totals : List Int} {summary : Summary}
    (summed : ofTotals text totals = .ok summary) : ReadOff (ascending totals) summary := by
  simp only [ofTotals, bind_eq_ok_iff, pure_eq_ok_iff] at summed
  obtain ⟨_, -, _, -, _, -, _, shared, rfl⟩ := summed
  exact ⟨rfl, rfl, rfl, rfl, rfl, shared, rfl⟩

theorem percentileIndex_eq_min (size percent : Nat) :
    percentileIndex size percent = Min.min (size - 1) (size * percent / 100) := rfl

/-- A percentile below the hundredth never asks for a place beyond the last. -/
theorem percentileIndex_eq {size percent : Nat} (some : 0 < size) (part : percent < 100) :
    percentileIndex size percent = size * percent / 100 ∧ percentileIndex size percent < size := by
  have less : size * percent / 100 < size :=
    Nat.div_lt_of_lt_mul (Nat.mul_comm 100 size ▸ Nat.mul_lt_mul_of_pos_left part some)
  rw [percentileIndex_eq_min, Nat.min_eq_right (Nat.le_sub_one_of_lt less)]
  exact ⟨rfl, less⟩

theorem percentileIndex_mono (size : Nat) {first second : Nat} (le : first ≤ second) :
    percentileIndex size first ≤ percentileIndex size second := by
  have product : size * first / 100 ≤ size * second / 100 :=
    Nat.div_le_div_right (Nat.mul_le_mul_left size le)
  simp only [percentileIndex_eq_min]
  omega

/-- The places of all totals that a summary shows, the median apart, in ascending order. -/
def shownIndices (size : Nat) : List Nat :=
  0 :: (listedPercentiles.map (percentileIndex size) ++ [size - 1])

theorem lt_of_mem_listedPercentiles : ∀ percent ∈ listedPercentiles, percent < 100 := by
  decide

theorem pairwise_listedPercentiles : listedPercentiles.Pairwise (· ≤ ·) := by
  decide

theorem lt_of_mem_shownIndices {size : Nat} (some : 0 < size) :
    ∀ index ∈ shownIndices size, index < size := by
  refine List.forall_mem_cons.mpr ⟨some, List.forall_mem_append.mpr ⟨?_, ?_⟩⟩
  · refine List.forall_mem_map.mpr fun percent listed => ?_
    exact (percentileIndex_eq some (lt_of_mem_listedPercentiles percent listed)).2
  · exact List.forall_mem_singleton.mpr (Nat.sub_lt some Nat.one_pos)

theorem pairwise_shownIndices (size : Nat) : (shownIndices size).Pairwise (· ≤ ·) := by
  refine List.pairwise_cons.mpr ⟨fun _ _ => Nat.zero_le _, List.pairwise_append.mpr ⟨?_, ?_, ?_⟩⟩
  · exact List.pairwise_map.mpr (pairwise_listedPercentiles.imp (percentileIndex_mono size))
  · exact List.pairwise_singleton _ _
  · refine List.forall_mem_map.mpr fun percent _ => List.forall_mem_singleton.mpr ?_
    exact percentileIndex_eq_min size percent ▸ Nat.min_le_left _ _

/-! ## Ranks -/

/-- The figures of the summary stand at their places among the totals in ascending order. -/
structure Ranked (totals : List Int) (summary : Summary) : Prop where
  first : (ascending totals)[0]? = some summary.min
  last : (ascending totals)[totals.length - 1]? = some summary.max
  middle : (ascending totals)[totals.length / 2]? = some summary.median
  listed : summary.percentiles.map Prod.fst = listedPercentiles
  picked : ∀ entry ∈ summary.percentiles,
    (ascending totals)[percentileIndex totals.length entry.1]? = some entry.2
  percentile : ∀ entry ∈ summary.percentiles,
    HasRank totals (totals.length * entry.1 / 100) entry.2
  median : HasRank totals (totals.length / 2) summary.median
  median_listed : (50, summary.median) ∈ summary.percentiles
  ordered : (summary.min :: (summary.percentiles.map Prod.snd ++ [summary.max])).Pairwise (· ≤ ·)
  min : summary.min ∈ totals ∧ ∀ total ∈ totals, summary.min ≤ total
  max : summary.max ∈ totals ∧ ∀ total ∈ totals, total ≤ summary.max

namespace ReadOff

variable {sorted : List Int} {summary : Summary} (read : ReadOff sorted summary)
include read

theorem shown :
    summary.min :: (summary.percentiles.map Prod.snd ++ [summary.max]) =
      (shownIndices sorted.length).map (totalAt sorted) := by
  rw [shownIndices, List.map_cons, List.map_append, List.map_map, read.min, read.max,
    read.percentiles, List.map_map]
  rfl

theorem pairwise_shown (ordered : sorted.Pairwise (· ≤ ·)) (positive : 0 < sorted.length) :
    (summary.min :: (summary.percentiles.map Prod.snd ++ [summary.max])).Pairwise (· ≤ ·) := by
  rw [read.shown]
  refine List.pairwise_map.mpr ((pairwise_shownIndices _).imp_of_mem fun _ later le => ?_)
  exact totalAt_le ordered le (lt_of_mem_shownIndices positive _ later)

theorem min_found (positive : 0 < sorted.length) : sorted[0]? = some summary.min :=
  read.min ▸ totalAt_eq_of_lt positive

theorem max_found (positive : 0 < sorted.length) :
    sorted[sorted.length - 1]? = some summary.max :=
  read.max ▸ totalAt_eq_of_lt (Nat.sub_lt positive Nat.one_pos)

theorem median_found (positive : 0 < sorted.length) :
    sorted[sorted.length / 2]? = some summary.median :=
  read.median ▸ totalAt_eq_of_lt (Nat.div_lt_self positive Nat.one_lt_two)

theorem percentile_found (positive : 0 < sorted.length) : ∀ entry ∈ summary.percentiles,
    sorted[sorted.length * entry.1 / 100]? = some entry.2 ∧
      percentileIndex sorted.length entry.1 = sorted.length * entry.1 / 100 := by
  rw [read.percentiles]
  refine List.forall_mem_map.mpr fun percent listed => ?_
  obtain ⟨index, within⟩ := percentileIndex_eq positive (lt_of_mem_listedPercentiles _ listed)
  exact ⟨index ▸ totalAt_eq_of_lt within, index⟩

/-- The median and the fiftieth percentile ask for the same place. -/
theorem median_listed (positive : 0 < sorted.length) :
    (50, summary.median) ∈ summary.percentiles := by
  have half : percentileIndex sorted.length 50 = sorted.length / 2 := by
    rw [(percentileIndex_eq positive (by decide)).1]
    omega
  rw [read.percentiles, read.median, ← half]
  exact List.mem_map_of_mem (by decide)

theorem min_le (ordered : sorted.Pairwise (· ≤ ·)) : ∀ total ∈ sorted, summary.min ≤ total := by
  intro total member
  obtain ⟨index, within, rfl⟩ := exists_totalAt_of_mem member
  exact read.min ▸ totalAt_le ordered (Nat.zero_le index) within

theorem le_max (ordered : sorted.Pairwise (· ≤ ·)) : ∀ total ∈ sorted, total ≤ summary.max := by
  intro total member
  obtain ⟨index, within, rfl⟩ := exists_totalAt_of_mem member
  refine read.max ▸ totalAt_le ordered (Nat.le_sub_one_of_lt within) ?_
  exact Nat.sub_lt (Nat.zero_lt_of_lt within) Nat.one_pos

end ReadOff

theorem ranked_of_ofTotals {text : String} {totals : List Int} {summary : Summary}
    (some : totals ≠ []) (summed : ofTotals text totals = .ok summary) : Ranked totals summary := by
  have read := readOff_of_ofTotals summed
  have ordered := pairwise_ascending totals
  have permuted := ascending_perm totals
  have positive := length_ascending_pos some
  have middle := read.median_found positive
  have picked := read.percentile_found positive
  have last := read.max_found positive
  rw [length_ascending] at middle picked last
  have placed {index : Nat} {value : Int} (found : (ascending totals)[index]? = .some value) :
      HasRank totals index value :=
    (hasRank_of_getElem? ordered found).of_perm permuted
  constructor
  case first => exact read.min_found positive
  case last => exact last
  case middle => exact middle
  case listed =>
    rw [read.percentiles]
    rfl
  case picked => exact fun entry member => (picked entry member).2 ▸ (picked entry member).1
  case percentile => exact fun entry member => placed (picked entry member).1
  case median => exact placed middle
  case median_listed => exact read.median_listed positive
  case ordered => exact read.pairwise_shown ordered positive
  case min =>
    exact ⟨mem_of_ascending (read.min_found positive), fun total member =>
      read.min_le ordered total (permuted.mem_iff.mpr member)⟩
  case max =>
    exact ⟨mem_of_ascending last, fun total member =>
      read.le_max ordered total (permuted.mem_iff.mpr member)⟩

end Summary

namespace Expression

/-- The figures of every summary have their ranks among the totals, whatever these are, and what a
simulation sums up are the totals of its rolls. -/
theorem simulate_ranked :
    (∀ text totals summary, totals ≠ [] → Summary.ofTotals text totals = .ok summary →
      Summary.Ranked totals summary) ∧
    ∀ {State : Type} (source : Source State) (cap : Int) (expression : Expression)
      (iterations : Int) (text : String) (state : State) (summary : Summary) (next : State),
      expression.simulate source cap iterations text state = .ok summary next →
        ∃ results, RollsInTurn source cap expression state results next ∧
          (results.length : Int) = iterations ∧
          Summary.Ranked (results.map RollResult.total) summary := by
  constructor
  · intro text totals summary some summed
    exact Summary.ranked_of_ofTotals some summed
  · intro State source cap expression iterations text state summary next simulated
    obtain ⟨enough, results, rolls, length, summed⟩ := simulate_eq_ok_iff.mp simulated
    exact ⟨results, rolls, length,
      Summary.ranked_of_ofTotals (totals_ne_nil enough length) summed⟩

theorem exists_ofTotals_knucklebone :
    ∃ summary, Summary.ofTotals "" [2, 1, 2, 4] = .ok summary := by
  have sorted : Summary.ascending [2, 1, 2, 4] = [1, 2, 2, 4] :=
    ((Summary.ascending_perm _).trans (by decide)).eq_of_pairwise
      (fun _ _ _ _ => Int.le_antisymm) (Summary.pairwise_ascending _) (by decide)
  have succeeds : (Summary.ofTotals "" [2, 1, 2, 4]).isOk = true := by
    simp only [Summary.ofTotals, sorted]
    decide +kernel
  cases found : Summary.ofTotals "" [2, 1, 2, 4] with
  | ok summary => exact ⟨summary, rfl⟩
  | error fault =>
      rw [found] at succeeds
      cases succeeds

theorem exists_simulate_knucklebone :
    ∃ summary, simulate Generator.source 10 ⟨[knucklebone], 0⟩ 4 "" (.scripted [2, 1, 2, 4]) =
      .ok summary (.scripted []) := by
  have faces : ∀ draw ∈ ([2, 1, 2, 4] : List Int), 1 ≤ draw ∧ draw ≤ 4 := by decide
  obtain ⟨results, rolls, totals⟩ := exists_rollsInTurn_knucklebone faces
  obtain ⟨summary, summed⟩ := exists_ofTotals_knucklebone
  have length : results.length = 4 := by
    rw [← List.length_map RollResult.total, totals]
    rfl
  exact ⟨summary, simulate_eq_ok_iff.mpr ⟨by decide, results, rolls, by omega, totals ▸ summed⟩⟩

theorem simulate_ranked_knucklebone :
    (∃ summary, Summary.ofTotals "" [2, 1, 2, 4] = .ok summary ∧
      Summary.Ranked [2, 1, 2, 4] summary) ∧
    ∃ summary, simulate Generator.source 10 ⟨[knucklebone], 0⟩ 4 "" (.scripted [2, 1, 2, 4]) =
        .ok summary (.scripted []) ∧
      ∃ results, RollsInTurn Generator.source 10 ⟨[knucklebone], 0⟩ (.scripted [2, 1, 2, 4])
          results (.scripted []) ∧ (results.length : Int) = 4 ∧
        Summary.Ranked (results.map RollResult.total) summary := by
  obtain ⟨summed, simulatedToo⟩ := simulate_ranked
  obtain ⟨summary, found⟩ := exists_ofTotals_knucklebone
  obtain ⟨other, simulated⟩ := exists_simulate_knucklebone
  exact ⟨⟨summary, found, summed _ _ _ (by decide) found⟩,
    other, simulated, simulatedToo _ _ _ _ _ _ _ _ simulated⟩

end Expression

end TabletopDice
