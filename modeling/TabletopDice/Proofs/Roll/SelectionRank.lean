import Mathlib.Data.List.Nodup
import TabletopDice.Roll.Selection

/-!
Ranks of dice within a pool. Sorting the pool and cutting the sorted list in two comes to the same
as comparing, for every die by itself, the number of dice that outrank it with a bound.
-/

set_option autoImplicit false

namespace TabletopDice.Selection

/-- A die outranks another if it counts more, or as much and fell earlier. Dice come with their
places. -/
def Outranks (first second : RolledDie × Nat) : Prop :=
  second.1.value < first.1.value ∨ (first.1.value = second.1.value ∧ first.2 < second.2)

instance (first second : RolledDie × Nat) : Decidable (Outranks first second) :=
  inferInstanceAs (Decidable (_ ∨ _))

def rank (dice : List RolledDie) (die : RolledDie × Nat) : Nat :=
  dice.zipIdx.countP fun other => Outranks other die

theorem outranks_asymm {first second : RolledDie × Nat} (outranks : Outranks first second) :
    ¬ Outranks second first := by
  unfold Outranks at *
  omega

theorem outranks_trans {first second third : RolledDie × Nat} (left : Outranks first second)
    (right : Outranks second third) : Outranks first third := by
  unfold Outranks at *
  omega

/-! ## Places in an ordered list -/

section Ordered

variable {Value : Type} {before : Value → Value → Prop} [DecidableRel before]

/-- In an ordered list, a member stands behind exactly the members that come before it. -/
theorem mem_take_iff_countP_lt (asymm : ∀ first second, before first second → ¬ before second first)
    {values : List Value} (ordered : values.Pairwise before) {value : Value}
    (member : value ∈ values) (count : Nat) :
    value ∈ values.take count ↔ values.countP (fun other => before other value) < count := by
  induction values generalizing count with
  | nil => cases member
  | cons first rest ih =>
      obtain ⟨firstLeast, restOrdered⟩ := List.pairwise_cons.mp ordered
      cases count with
      | zero => simp
      | succ count =>
          rw [List.take_succ_cons, List.mem_cons, List.countP_cons]
          rcases List.mem_cons.mp member with rfl | inRest
          · have none : rest.countP (fun other => before other value) = 0 := by
              rw [List.countP_eq_zero]
              intro other present
              simpa using asymm _ _ (firstLeast other present)
            have self : ¬ before value value := fun same => asymm _ _ same same
            simp [none, self]
          · have less := firstLeast value inRest
            have different : value ≠ first := by
              intro same
              subst same
              exact asymm _ _ less less
            simp [different, less, ih restOrdered inRest]

theorem mem_drop_iff_le_countP (asymm : ∀ first second, before first second → ¬ before second first)
    {values : List Value} (ordered : values.Pairwise before) {value : Value}
    (member : value ∈ values) (count : Nat) :
    value ∈ values.drop count ↔ count ≤ values.countP (fun other => before other value) := by
  have inTake := mem_take_iff_countP_lt asymm ordered member count
  rw [← List.take_append_drop count values] at member ordered
  rw [← Nat.not_lt, ← inTake]
  constructor
  · intro later earlier
    have less := (List.pairwise_append.mp ordered).2.2 value earlier value later
    exact asymm _ _ less less
  · intro notEarlier
    exact (List.mem_append.mp member).resolve_left notEarlier

end Ordered

/-! ## The ranking -/

theorem ranking_perm (dice : List RolledDie) : (ranking dice).Perm dice.zipIdx :=
  List.mergeSort_perm _ _

theorem mem_ranking_iff {dice : List RolledDie} {die : RolledDie × Nat} :
    die ∈ ranking dice ↔ dice[die.2]? = some die.1 := by
  rw [(ranking_perm dice).mem_iff, List.mem_zipIdx_iff_getElem?]

theorem nodup_ranking_places (dice : List RolledDie) :
    ((ranking dice).map Prod.snd).Nodup := by
  rw [((ranking_perm dice).map Prod.snd).nodup_iff]
  rw [List.zipIdx_map_snd]
  exact List.nodup_range'

theorem snd_eq_of_mem_zipIdx_zipIdx {Value : Type} {values : List Value}
    {entry : (Value × Nat) × Nat} (member : entry ∈ values.zipIdx.zipIdx) :
    entry.2 = entry.1.2 := by
  rw [List.mem_zipIdx_iff_getElem?, List.getElem?_zipIdx, Option.map_eq_some_iff] at member
  obtain ⟨value, -, same⟩ := member
  simp [← same]

/-- The sort is stable, so that each die of the ranking outranks the later ones. -/
theorem pairwise_ranking (dice : List RolledDie) : (ranking dice).Pairwise Outranks := by
  let order := fun first second : RolledDie × Nat => decide (second.1.value ≤ first.1.value)
  have trans : ∀ first second third, order first second → order second third →
      order first third := by
    intro first second third left right
    simp only [order, decide_eq_true_eq] at *
    exact Int.le_trans right left
  have total : ∀ first second, order first second || order second first := by
    intro first second
    simpa [order] using Int.le_total second.1.value first.1.value
  -- Ties of the sort are broken by the places within the sorted list, which are those of the dice.
  have sorted := List.pairwise_mergeSort (List.zipIdxLE_trans trans) (List.zipIdxLE_total total)
    dice.zipIdx.zipIdx
  have same : (dice.zipIdx.zipIdx.mergeSort (List.zipIdxLE order)).map Prod.fst = ranking dice :=
    List.mergeSort_zipIdx
  have weak : (ranking dice).Pairwise fun first second =>
      second.1.value < first.1.value ∨
        (first.1.value = second.1.value ∧ first.2 ≤ second.2) := by
    rw [← same, List.pairwise_map]
    refine sorted.imp_of_mem ?_
    intro first second firstMember secondMember le
    rw [List.mem_mergeSort] at firstMember secondMember
    have firstPlace := snd_eq_of_mem_zipIdx_zipIdx firstMember
    have secondPlace := snd_eq_of_mem_zipIdx_zipIdx secondMember
    simp only [List.zipIdxLE, order] at le
    rw [← firstPlace, ← secondPlace]
    split at le
    · split at le
      · simp only [decide_eq_true_eq] at *
        omega
      · simp only [decide_eq_true_eq] at *
        omega
    · cases le
  have places := List.pairwise_map.mp (nodup_ranking_places dice)
  refine (weak.and places).imp ?_
  intro first second both
  unfold Outranks
  omega

theorem rank_eq_countP_ranking (dice : List RolledDie) (die : RolledDie × Nat) :
    rank dice die = (ranking dice).countP fun other => Outranks other die :=
  ((ranking_perm dice).countP_eq _).symm

/-! ## Picking -/

theorem mem_map_snd_iff {dice : List RolledDie} {part : List (RolledDie × Nat)}
    (within : part ⊆ ranking dice) {die : RolledDie} {place : Nat}
    (found : dice[place]? = some die) :
    place ∈ part.map Prod.snd ↔ (die, place) ∈ part := by
  constructor
  · intro member
    obtain ⟨⟨other, otherPlace⟩, present, same⟩ := List.mem_map.mp member
    obtain rfl : otherPlace = place := same
    have otherFound := mem_ranking_iff.mp (within present)
    rw [found] at otherFound
    cases otherFound
    exact present
  · intro member
    exact List.mem_map.mpr ⟨_, member, rfl⟩

theorem mem_pickedPlaces_iff {pick : Pick} {dice : List RolledDie} {die : RolledDie} {place : Nat}
    (found : dice[place]? = some die) :
    place ∈ pickedPlaces pick dice ↔
      match pick.side with
      | .highest => rank dice (die, place) < pick.count.toNat
      | .lowest => dice.length - pick.count.toNat ≤ rank dice (die, place) := by
  have member : (die, place) ∈ ranking dice := mem_ranking_iff.mpr found
  have ordered := pairwise_ranking dice
  rw [rank_eq_countP_ranking]
  unfold pickedPlaces
  cases pick.side with
  | highest =>
      simp only [← List.map_take, mem_map_snd_iff (List.take_subset _ _) found]
      exact mem_take_iff_countP_lt (fun _ _ => outranks_asymm) ordered member _
  | lowest =>
      simp only [← List.map_drop, mem_map_snd_iff (List.drop_subset _ _) found]
      exact mem_drop_iff_le_countP (fun _ _ => outranks_asymm) ordered member _

theorem nodup_pickedPlaces (pick : Pick) (dice : List RolledDie) :
    (pickedPlaces pick dice).Nodup := by
  unfold pickedPlaces
  cases pick.side with
  | highest => exact (nodup_ranking_places dice).sublist (List.take_sublist _ _)
  | lowest => exact (nodup_ranking_places dice).sublist (List.drop_sublist _ _)

theorem length_ranking_places (dice : List RolledDie) :
    ((ranking dice).map Prod.snd).length = dice.length := by
  rw [List.length_map, (ranking_perm dice).length_eq, List.length_zipIdx]

theorem length_pickedPlaces {pick : Pick} {dice : List RolledDie} (nonnegative : 0 ≤ pick.count)
    (enough : pick.count ≤ dice.length) : ((pickedPlaces pick dice).length : Int) = pick.count := by
  have total := length_ranking_places dice
  unfold pickedPlaces
  cases pick.side with
  | highest =>
      simp only [List.length_take, total]
      omega
  | lowest =>
      simp only [List.length_drop, total]
      omega

theorem pickedPlaces_subset (pick : Pick) (dice : List RolledDie) :
    pickedPlaces pick dice ⊆ List.range dice.length := by
  have all : (ranking dice).map Prod.snd ⊆ List.range dice.length := by
    intro place member
    obtain ⟨die, present, rfl⟩ := List.mem_map.mp member
    have found := mem_ranking_iff.mp present
    exact List.mem_range.mpr (List.getElem?_eq_some_iff.mp found).1
  unfold pickedPlaces
  cases pick.side with
  | highest => exact fun place member => all (List.mem_of_mem_take member)
  | lowest => exact fun place member => all (List.mem_of_mem_drop member)

/-! ## Marking -/

theorem getD_foldl_mark (places : List Nat) (marks : Array Bool) {place : Nat}
    (within : place < marks.size) :
    (places.foldl (fun marks place => marks.setIfInBounds place true) marks).getD place false =
      (marks.getD place false || decide (place ∈ places)) := by
  induction places generalizing marks with
  | nil => simp
  | cons first rest ih =>
      rw [List.foldl_cons, ih _ (by simpa using within)]
      by_cases same : first = place
      · subst same
        simp [Array.getD, within]
      · have other : place ≠ first := fun equal => same equal.symm
        simp [Array.getD, within, same, other]

theorem getD_markPlaces {length place : Nat} (places : List Nat) (within : place < length) :
    (markPlaces length places).getD place false = decide (place ∈ places) := by
  unfold markPlaces
  rw [getD_foldl_mark places _ (by simpa using within)]
  simp [Array.getD, within]

theorem length_mark (filter : Filter) (dice : List RolledDie) :
    (mark filter dice).length = dice.length := by
  simp [mark]

theorem getElem?_mark (filter : Filter) (dice : List RolledDie) (place : Nat) :
    (mark filter dice)[place]? = dice[place]?.map fun die =>
      { die with dropped := isDropped filter (place ∈ pickedPlaces filter.pick dice) } := by
  unfold mark
  rw [List.getElem?_map, List.getElem?_zipIdx]
  cases found : dice[place]? with
  | none => rfl
  | some die =>
      have within := (List.getElem?_eq_some_iff.mp found).1
      simp only [Option.map_some, Nat.zero_add, getD_markPlaces _ within]

/-- Whether a filter drops the die of the given rank from a pool of so many dice. -/
def dropsRank (filter : Filter) (dice rank : Int) : Bool :=
  match filter with
  | .keep ⟨.highest, count⟩ => count ≤ rank
  | .keep ⟨.lowest, count⟩ => rank < dice - count
  | .drop ⟨.highest, count⟩ => rank < count
  | .drop ⟨.lowest, count⟩ => dice - count ≤ rank

theorem getElem?_mark_eq_some {filter : Filter} {dice : List RolledDie}
    (positive : 0 < filter.pick.count) (enough : filter.pick.count ≤ dice.length)
    {die : RolledDie} {place : Nat} (found : dice[place]? = some die) :
    (mark filter dice)[place]? =
      some { die with dropped := dropsRank filter dice.length (rank dice (die, place)) } := by
  have picked : place ∈ pickedPlaces filter.pick dice ↔ _ := mem_pickedPlaces_iff found
  have same : isDropped filter (place ∈ pickedPlaces filter.pick dice) =
      dropsRank filter dice.length (rank dice (die, place)) := by
    obtain ⟨side, count⟩ | ⟨side, count⟩ := filter <;> cases side <;>
      simp only [Filter.pick] at picked positive enough <;>
      simp only [isDropped, dropsRank, Filter.pick, picked, ← decide_not] <;>
      exact decide_eq_decide.mpr (by omega)
  rw [getElem?_mark, found, Option.map_some, same]

/-! ## How many dice count -/

theorem countP_mem_pickedPlaces (pick : Pick) (dice : List RolledDie) :
    (List.range dice.length).countP (fun place => place ∈ pickedPlaces pick dice) =
      (pickedPlaces pick dice).length := by
  rw [List.countP_eq_length_filter]
  have distinct : ((List.range dice.length).filter (· ∈ pickedPlaces pick dice)).Nodup :=
    List.nodup_range.filter _
  refine ((List.perm_ext_iff_of_nodup distinct (nodup_pickedPlaces pick dice)).mpr ?_).length_eq
  intro place
  rw [List.mem_filter, decide_eq_true_eq]
  constructor
  · exact And.right
  · intro picked
    exact ⟨pickedPlaces_subset pick dice picked, picked⟩

theorem countP_dropped_mark (filter : Filter) (dice : List RolledDie) :
    (mark filter dice).countP (·.dropped) =
      (List.range dice.length).countP fun place =>
        isDropped filter (place ∈ pickedPlaces filter.pick dice) := by
  rw [List.range_eq_range', ← List.zipIdx_map_snd 0 dice, mark, List.countP_map, List.countP_map]
  refine List.countP_congr ?_
  intro entry member
  have within : entry.2 < dice.length := List.snd_lt_of_mem_zipIdx member
  simp only [Function.comp_apply, getD_markPlaces _ within]

theorem countP_kept_mark (filter : Filter) (dice : List RolledDie) :
    (mark filter dice).countP (·.dropped) + (kept (mark filter dice)).length = dice.length := by
  rw [kept, ← List.countP_eq_length_filter, ← length_mark filter dice]
  rw [List.length_eq_countP_add_countP (·.dropped)]
  simp only [Bool.not_eq_true, Bool.decide_eq_false]

/-- The number of the dice that count. -/
def survivors (dice : List RolledDie) : Nat :=
  (kept dice).length

/-- The number of dice that a filter singles out: those that it keeps or those that it drops. -/
def selectedCount (filter : Filter) (marked : List RolledDie) : Nat :=
  match filter with
  | .keep _ => (kept marked).length
  | .drop _ => marked.countP (·.dropped)

theorem selectedCount_mark {filter : Filter} {dice : List RolledDie}
    (positive : 0 < filter.pick.count) (enough : filter.pick.count ≤ dice.length) :
    (selectedCount filter (mark filter dice) : Int) = filter.pick.count := by
  have picked := countP_mem_pickedPlaces filter.pick dice
  have size := length_pickedPlaces (Int.le_of_lt positive) enough
  have marked := countP_dropped_mark filter dice
  have total := countP_kept_mark filter dice
  have rest := List.length_eq_countP_add_countP (l := List.range dice.length)
    fun place => decide (place ∈ pickedPlaces filter.pick dice)
  simp only [List.length_range, Bool.not_eq_true, Bool.decide_eq_false] at rest
  cases filter with
  | keep pick =>
      simp only [isDropped] at marked
      simp only [selectedCount]
      omega
  | drop pick =>
      simp only [isDropped] at marked
      simp only [selectedCount]
      omega

end TabletopDice.Selection
