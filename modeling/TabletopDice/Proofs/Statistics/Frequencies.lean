import Mathlib.Algebra.BigOperators.Group.List.Lemmas
import Mathlib.Algebra.GroupWithZero.Nat
import TabletopDice.Proofs.Statistics.Ranks

/-!
Frequencies in a summary. In ascending totals equal ones are neighbours, so that one pass over them
counts every value once, in ascending order. Every roll is accounted for in exactly one of the
counts, and the modes are all values with the greatest of them.
-/

set_option autoImplicit false

namespace TabletopDice

open Sequencing

namespace Summary

/-! ## Counting neighbours -/

/-- The counts list each value of the totals once, in ascending order, with its number of
occurrences. -/
structure Tallies (totals : List Int) (counts : List (Int × Nat)) : Prop where
  ascending : (counts.map Prod.fst).Pairwise (· < ·)
  mem_iff : ∀ value, value ∈ counts.map Prod.fst ↔ value ∈ totals
  count : ∀ entry ∈ counts, entry.2 = totals.count entry.1

theorem Tallies.of_perm {totals others : List Int} {counts : List (Int × Nat)}
    (tallies : Tallies totals counts) (same : totals.Perm others) : Tallies others counts where
  ascending := tallies.ascending
  mem_iff value := (tallies.mem_iff value).trans same.mem_iff
  count entry member := (tallies.count entry member).trans (same.count_eq entry.1)

theorem Tallies.eq_nil {totals : List Int} (tallies : Tallies totals []) : totals = [] :=
  List.eq_nil_iff_forall_not_mem.mpr fun value member =>
    List.not_mem_nil ((tallies.mem_iff value).mpr member)

/-- Another total of the least value adds to the first count. -/
theorem Tallies.again {totals : List Int} {counts : List (Int × Nat)} {value : Int} {count : Nat}
    (tallies : Tallies totals ((value, count) :: counts)) :
    Tallies (value :: totals) ((value, count + 1) :: counts) := by
  obtain ⟨ascending, memIff, counted⟩ := tallies
  rw [List.map_cons] at ascending memIff
  obtain ⟨here, later⟩ := List.forall_mem_cons.mp counted
  have least := (List.pairwise_cons.mp ascending).1
  refine ⟨ascending, fun other => ?_, List.forall_mem_cons.mpr ⟨?_, fun entry member => ?_⟩⟩
  · have present : value ∈ totals := (memIff value).mp List.mem_cons_self
    rw [List.map_cons, memIff, List.mem_cons]
    exact ⟨.inr, fun either => either.elim (fun same => same ▸ present) id⟩
  · rw [List.count_cons_self, ← here]
  · have greater : value < entry.1 := least _ (List.mem_map_of_mem member)
    rw [List.count_cons_of_ne (Int.ne_of_lt greater), later entry member]

/-- A total below all others is counted in front of them. -/
theorem Tallies.ahead {totals : List Int} {counts : List (Int × Nat)} {first : Int}
    (tallies : Tallies totals counts) (below : ∀ total ∈ totals, first < total) :
    Tallies (first :: totals) ((first, 1) :: counts) := by
  obtain ⟨ascending, memIff, counted⟩ := tallies
  have belowKeys : ∀ value ∈ counts.map Prod.fst, first < value :=
    fun value member => below value ((memIff value).mp member)
  refine ⟨List.pairwise_cons.mpr ⟨belowKeys, ascending⟩, fun value => ?_,
    List.forall_mem_cons.mpr ⟨?_, fun entry member => ?_⟩⟩
  · rw [List.map_cons, List.mem_cons, memIff, List.mem_cons]
  · have fresh : first ∉ totals := fun member => Int.lt_irrefl first (below first member)
    rw [List.count_cons_self, List.count_eq_zero.mpr fresh]
  · have greater := belowKeys _ (List.mem_map_of_mem member)
    rw [List.count_cons_of_ne (Int.ne_of_lt greater), counted entry member]

theorem Tallies.countStep {totals : List Int} {counts : List (Int × Nat)} {first : Int}
    (tallies : Tallies totals counts) (least : ∀ total ∈ totals, first ≤ total) :
    Tallies (first :: totals) (countStep first counts) := by
  cases counts with
  | nil =>
      obtain rfl := tallies.eq_nil
      exact tallies.ahead nofun
  | cons entry counts =>
      obtain ⟨value, count⟩ := entry
      by_cases same : value = first
      · subst same
        have step : Summary.countStep value ((value, count) :: counts) =
            (value, count + 1) :: counts := if_pos rfl
        rw [step]
        exact tallies.again
      · have step : Summary.countStep first ((value, count) :: counts) =
            (first, 1) :: (value, count) :: counts := if_neg same
        rw [step]
        have greatest := (List.pairwise_cons.mp tallies.ascending).1
        have present : value ∈ totals := (tallies.mem_iff value).mp List.mem_cons_self
        have less : first < value := Int.lt_iff_le_and_ne.mpr ⟨least value present, Ne.symm same⟩
        refine tallies.ahead fun total member => ?_
        rcases List.mem_cons.mp ((tallies.mem_iff total).mpr member) with rfl | later
        · exact less
        · exact Int.lt_trans less (greatest total later)

theorem tallies_counts {sorted : List Int} (ordered : sorted.Pairwise (· ≤ ·)) :
    Tallies sorted (counts sorted) := by
  induction sorted with
  | nil => exact ⟨.nil, fun _ => Iff.rfl, nofun⟩
  | cons first sorted ih =>
      obtain ⟨least, rest⟩ := List.pairwise_cons.mp ordered
      exact (ih rest).countStep least

/-! ## Ends of ascending lists -/

theorem head?_eq_of_least {keys : List Int} (ascending : keys.Pairwise (· < ·)) {value : Int}
    (member : value ∈ keys) (least : ∀ key ∈ keys, value ≤ key) : keys.head? = some value := by
  cases keys with
  | nil => cases member
  | cons first keys =>
      rcases List.mem_cons.mp member with rfl | later
      · rfl
      · have less := (List.pairwise_cons.mp ascending).1 value later
        exact absurd (least first List.mem_cons_self) (Int.not_le.mpr less)

theorem getLast?_eq_of_greatest {keys : List Int} (ascending : keys.Pairwise (· < ·)) {value : Int}
    (member : value ∈ keys) (greatest : ∀ key ∈ keys, key ≤ value) :
    keys.getLast? = some value := by
  rcases List.eq_nil_or_concat keys with rfl | ⟨before, last, rfl⟩
  · cases member
  · rw [List.concat_eq_append] at *
    rcases List.mem_append.mp member with earlier | here
    · have less := (List.pairwise_append.mp ascending).2.2 value earlier last List.mem_cons_self
      have bounded := greatest last (List.mem_append_right before List.mem_cons_self)
      exact absurd bounded (Int.not_le.mpr less)
    · rw [List.mem_singleton.mp here, List.getLast?_concat]

/-- The greatest number of a list is one of them. -/
theorem foldl_max_spec {numbers : List Nat} (some : numbers ≠ []) :
    numbers.foldl Nat.max 0 ∈ numbers ∧ ∀ number ∈ numbers, number ≤ numbers.foldl Nat.max 0 := by
  have folded : numbers.foldl Nat.max 0 = numbers.max?.getD 0 :=
    List.foldl_max.trans (Nat.zero_max _)
  cases found : numbers.max? with
  | none => exact absurd (List.max?_eq_none_iff.mp found) some
  | some greatest =>
      rw [folded, found]
      exact List.max?_eq_some_iff.mp found

/-! ## Counts, shares and modes -/

section Counts

variable {totals : List Int} {counts : List (Int × Nat)} (tallies : Tallies totals counts)
include tallies

/-- Every total is counted exactly once. -/
theorem Tallies.sum_count :
    ((counts.map Prod.fst).map fun value => totals.count value).sum = totals.length := by
  have distinct : (counts.map Prod.fst).Nodup := tallies.ascending.imp Int.ne_of_lt
  have permuted : (counts.map Prod.fst).Perm totals.dedup :=
    (List.perm_ext_iff_of_nodup distinct totals.nodup_dedup).mpr fun value =>
      (tallies.mem_iff value).trans List.mem_dedup.symm
  rw [(permuted.map fun value => totals.count value).sum_eq]
  exact List.sum_map_count_dedup_eq_length totals

theorem Tallies.entry_mem {value : Int} (member : value ∈ totals) :
    (value, totals.count value) ∈ counts := by
  obtain ⟨⟨key, count⟩, found, rfl⟩ := List.mem_map.mp ((tallies.mem_iff value).mpr member)
  have counted : count = totals.count key := tallies.count _ found
  exact counted ▸ found

theorem Tallies.mem_modes_iff {value : Int} :
    value ∈ modes counts ↔
      value ∈ totals ∧ ∀ other, totals.count other ≤ totals.count value := by
  have member {other : Int} {count : Nat} (found : (other, count) ∈ counts) :
      other ∈ totals ∧ count = totals.count other :=
    ⟨(tallies.mem_iff other).mp (List.mem_map_of_mem found), tallies.count _ found⟩
  constructor
  · intro found
    obtain ⟨⟨key, count⟩, chosen, rfl⟩ := List.mem_map.mp found
    obtain ⟨present, greatest⟩ := List.mem_filter.mp chosen
    obtain ⟨inTotals, counted⟩ := member present
    refine ⟨inTotals, fun other => ?_⟩
    by_cases rolled : other ∈ totals
    · have nonempty : counts.map Prod.snd ≠ [] :=
        List.ne_nil_of_mem (List.mem_map_of_mem present)
      have bounded := (foldl_max_spec nonempty).2 _
        (List.mem_map_of_mem (f := Prod.snd) (tallies.entry_mem rolled))
      rwa [← eq_of_beq greatest, counted] at bounded
    · rw [List.count_eq_zero.mpr rolled]
      exact Nat.zero_le _
  · intro found
    obtain ⟨inTotals, greatest⟩ := found
    have present := tallies.entry_mem inTotals
    refine List.mem_map.mpr ⟨_, List.mem_filter.mpr ⟨present, beq_iff_eq.mpr ?_⟩, rfl⟩
    have nonempty : counts.map Prod.snd ≠ [] :=
      List.ne_nil_of_mem (List.mem_map_of_mem present)
    obtain ⟨attained, bound⟩ := foldl_max_spec nonempty
    obtain ⟨⟨key, count⟩, chosen, same⟩ := List.mem_map.mp attained
    refine Nat.le_antisymm (bound _ (List.mem_map_of_mem present)) ?_
    rw [← same, (member chosen).2]
    exact greatest key

theorem Tallies.pairwise_modes : (modes counts).Pairwise (· < ·) :=
  tallies.ascending.sublist (List.filter_sublist.map Prod.fst)

theorem Tallies.modes_ne_nil (some : totals ≠ []) : modes counts ≠ [] := by
  obtain ⟨total, member⟩ := List.exists_mem_of_ne_nil totals some
  have nonempty : counts.map Prod.snd ≠ [] :=
    List.ne_nil_of_mem (List.mem_map_of_mem (tallies.entry_mem member))
  obtain ⟨⟨value, count⟩, chosen, same⟩ := List.mem_map.mp (foldl_max_spec nonempty).1
  exact List.ne_nil_of_mem
    (List.mem_map_of_mem (List.mem_filter.mpr ⟨chosen, beq_iff_eq.mpr same⟩))

end Counts

theorem quotient_eq_ok_iff {numerator : Int} {denominator : Nat} {value : Float} :
    quotient numerator denominator = .ok value ↔
      Number.nearest? numerator denominator = some value := by
  unfold quotient
  cases Number.nearest? numerator denominator <;> simp

theorem share_eq_ok_iff {size count : Nat} {value : Int} {share : Int × Float} :
    (quotient count size >>= fun share => pure (value, share)) = .ok share ↔
      share.1 = value ∧ Number.nearest? count size = some share.2 := by
  simp only [bind_eq_ok_iff, pure_eq_ok_iff, quotient_eq_ok_iff]
  constructor
  · intro found
    obtain ⟨_, nearest, rfl⟩ := found
    exact ⟨rfl, nearest⟩
  · intro found
    exact ⟨share.2, found.2, Prod.ext found.1.symm rfl⟩

theorem keys_of_shares {size : Nat} {counts : List (Int × Nat)} {probabilities : List (Int × Float)}
    (shared : shares size counts = .ok probabilities) :
    probabilities.map Prod.fst = counts.map Prod.fst := by
  have paired : List.Forall₂ (fun share entry => share.1 = entry.1) probabilities counts :=
    ((mapM_eq_ok_iff.mp shared).imp fun _ _ done => (share_eq_ok_iff.mp done).1).flip
  exact List.forall₂_eq_eq_eq ▸
    List.forall₂_map_left_iff.mpr (List.forall₂_map_right_iff.mpr paired)

theorem nearest_of_shares {size : Nat} {counts : List (Int × Nat)}
    {probabilities : List (Int × Float)} (shared : shares size counts = .ok probabilities) :
    ∀ share ∈ probabilities, ∃ count : Nat, (share.1, count) ∈ counts ∧
      Number.nearest? count size = some share.2 := by
  intro share member
  obtain ⟨⟨value, count⟩, present, done⟩ := exists_mem_of_mapM_eq_ok shared member
  obtain ⟨same, nearest⟩ := share_eq_ok_iff.mp done
  exact ⟨count, same ▸ present, nearest⟩

/-- The summary accounts for every total in its shares and modes. -/
structure Accounts (totals : List Int) (summary : Summary) : Prop where
  iterations : summary.iterations = totals.length
  ascending : (summary.probabilities.map Prod.fst).Pairwise (· < ·)
  mem_iff : ∀ value, value ∈ summary.probabilities.map Prod.fst ↔ value ∈ totals
  first : (summary.probabilities.map Prod.fst).head? = some summary.min
  last : (summary.probabilities.map Prod.fst).getLast? = some summary.max
  positive : ∀ value ∈ summary.probabilities.map Prod.fst, 0 < totals.count value
  sum : ((summary.probabilities.map Prod.fst).map fun value => totals.count value).sum =
    totals.length
  share : ∀ entry ∈ summary.probabilities,
    Number.nearest? (totals.count entry.1) totals.length = some entry.2
  mode_ne_nil : summary.mode ≠ []
  mode_ascending : summary.mode.Pairwise (· < ·)
  mem_mode_iff : ∀ value, value ∈ summary.mode ↔
    value ∈ totals ∧ ∀ other, totals.count other ≤ totals.count value
  mode_between : ∀ value ∈ summary.mode, summary.min ≤ value ∧ value ≤ summary.max

theorem accounts_of_ofTotals {text : String} {totals : List Int} {summary : Summary}
    (some : totals ≠ []) (summed : ofTotals text totals = .ok summary) :
    Accounts totals summary := by
  have read := readOff_of_ofTotals summed
  have ranked := ranked_of_ofTotals some summed
  have tallies : Tallies totals (counts (ascending totals)) :=
    (tallies_counts (pairwise_ascending totals)).of_perm (ascending_perm totals)
  have size := length_ascending totals
  have keys := keys_of_shares read.probabilities
  have memIff : ∀ value, value ∈ summary.probabilities.map Prod.fst ↔ value ∈ totals :=
    fun value => keys ▸ tallies.mem_iff value
  have ascendingKeys : (summary.probabilities.map Prod.fst).Pairwise (· < ·) :=
    keys ▸ tallies.ascending
  constructor
  case iterations => exact size ▸ read.iterations
  case ascending => exact ascendingKeys
  case mem_iff => exact memIff
  case first =>
    exact head?_eq_of_least ascendingKeys ((memIff _).mpr ranked.min.1) fun value member =>
      ranked.min.2 value ((memIff value).mp member)
  case last =>
    exact getLast?_eq_of_greatest ascendingKeys ((memIff _).mpr ranked.max.1) fun value member =>
      ranked.max.2 value ((memIff value).mp member)
  case positive =>
    exact fun value member => List.count_pos_iff.mpr ((memIff value).mp member)
  case sum =>
    rw [keys]
    exact tallies.sum_count
  case share =>
    intro share member
    obtain ⟨count, present, nearest⟩ := nearest_of_shares read.probabilities share member
    have counted : count = totals.count share.1 := tallies.count _ present
    rwa [counted, size] at nearest
  case mode_ne_nil => exact read.mode ▸ tallies.modes_ne_nil some
  case mode_ascending => exact read.mode ▸ tallies.pairwise_modes
  case mem_mode_iff => exact fun value => read.mode ▸ tallies.mem_modes_iff
  case mode_between =>
    intro value member
    rw [read.mode, tallies.mem_modes_iff] at member
    exact ⟨ranked.min.2 value member.1, ranked.max.2 value member.1⟩

end Summary

namespace Expression

/-- The shares and modes of a simulation account for every one of its rolls. -/
theorem simulate_accounts {State : Type} {source : Source State} {cap : Int}
    {expression : Expression} {iterations : Int} {text : String} {state next : State}
    {summary : Summary}
    (simulated : expression.simulate source cap iterations text state = .ok summary next) :
    ∃ results, RollsInTurn source cap expression state results next ∧
      (results.length : Int) = iterations ∧
      Summary.Accounts (results.map RollResult.total) summary := by
  obtain ⟨enough, results, rolls, length, summed⟩ := simulate_eq_ok_iff.mp simulated
  exact ⟨results, rolls, length,
    Summary.accounts_of_ofTotals (totals_ne_nil enough length) summed⟩

theorem simulate_accounts_knucklebone :
    ∃ summary, simulate Generator.source 10 ⟨[knucklebone], 0⟩ 4 "" (.scripted [2, 1, 2, 4]) =
        .ok summary (.scripted []) ∧
      ∃ results, RollsInTurn Generator.source 10 ⟨[knucklebone], 0⟩ (.scripted [2, 1, 2, 4])
          results (.scripted []) ∧ (results.length : Int) = 4 ∧
        Summary.Accounts (results.map RollResult.total) summary := by
  obtain ⟨summary, simulated⟩ := exists_simulate_knucklebone
  exact ⟨summary, simulated, simulate_accounts simulated⟩

end Expression

end TabletopDice
