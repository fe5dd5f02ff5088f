import TabletopDice.Proofs.Roll.RollRecord
import TabletopDice.Proofs.Roll.SelectionRank

/-!
The values of filtered dice. A filter cuts the ranked values of a pool in two, so that the values
that count, and those that do not, depend on nothing but the values of the pool, in whatever order
its dice fell.
-/

set_option autoImplicit false

namespace TabletopDice

/-- What a pick takes from a ranked list, and what it leaves. -/
def Pick.taken {Value : Type} (pick : Pick) (ranked : List Value) : List Value :=
  match pick.side with
  | .highest => ranked.take pick.count.toNat
  | .lowest => ranked.drop (ranked.length - pick.count.toNat)

def Pick.left {Value : Type} (pick : Pick) (ranked : List Value) : List Value :=
  match pick.side with
  | .highest => ranked.drop pick.count.toNat
  | .lowest => ranked.take (ranked.length - pick.count.toNat)

/-- The ranked values that a filter keeps, and those that it drops. -/
def Filter.keptOf {Value : Type} (filter : Option Filter) (ranked : List Value) : List Value :=
  match filter with
  | none => ranked
  | some (.keep pick) => pick.taken ranked
  | some (.drop pick) => pick.left ranked

def Filter.droppedOf {Value : Type} (filter : Option Filter) (ranked : List Value) : List Value :=
  match filter with
  | none => []
  | some (.keep pick) => pick.left ranked
  | some (.drop pick) => pick.taken ranked

namespace Pick

variable {Value Other : Type}

theorem taken_append_left_perm (pick : Pick) (ranked : List Value) :
    (pick.taken ranked ++ pick.left ranked).Perm ranked := by
  unfold taken left
  cases pick.side with
  | highest => rw [List.take_append_drop]
  | lowest => exact List.perm_append_comm.trans (.of_eq (List.take_append_drop _ ranked))

theorem map_taken (pick : Pick) (view : Value → Other) (ranked : List Value) :
    (pick.taken ranked).map view = pick.taken (ranked.map view) := by
  unfold taken
  cases pick.side with
  | highest => exact List.map_take
  | lowest => rw [List.map_drop, List.length_map]

theorem map_left (pick : Pick) (view : Value → Other) (ranked : List Value) :
    (pick.left ranked).map view = pick.left (ranked.map view) := by
  unfold left
  cases pick.side with
  | highest => exact List.map_drop
  | lowest => rw [List.map_take, List.length_map]

/-- Lists that agree position by position agree in what is taken of them and in what is left. -/
theorem forall₂_taken {relates : Value → Other → Prop} {first : List Value} {second : List Other}
    (pick : Pick) (related : List.Forall₂ relates first second) :
    List.Forall₂ relates (pick.taken first) (pick.taken second) := by
  unfold taken
  cases pick.side with
  | highest => exact List.forall₂_take _ related
  | lowest =>
      rw [related.length_eq]
      exact List.forall₂_drop _ related

theorem forall₂_left {relates : Value → Other → Prop} {first : List Value} {second : List Other}
    (pick : Pick) (related : List.Forall₂ relates first second) :
    List.Forall₂ relates (pick.left first) (pick.left second) := by
  unfold left
  cases pick.side with
  | highest => exact List.forall₂_drop _ related
  | lowest =>
      rw [related.length_eq]
      exact List.forall₂_take _ related

end Pick

theorem Filter.forall₂_keptOf {Value Other : Type} {relates : Value → Other → Prop}
    {first : List Value} {second : List Other} (filter : Option Filter)
    (related : List.Forall₂ relates first second) :
    List.Forall₂ relates (keptOf filter first) (keptOf filter second) := by
  rcases filter with _ | pick | pick
  · exact related
  · exact pick.forall₂_taken related
  · exact pick.forall₂_left related

namespace Selection

/-- The values of a pool from the highest to the lowest. -/
def rankedValues (dice : List RolledDie) : List Int :=
  (ranking dice).map fun entry => entry.1.value

theorem rankedValues_perm (dice : List RolledDie) :
    (rankedValues dice).Perm (dice.map RolledDie.value) := by
  have values : dice.zipIdx.map (fun entry => entry.1.value) = dice.map RolledDie.value := by
    have unmarked := List.zipIdx_map_fst 0 dice
    exact List.map_map.symm.trans (congrArg (List.map RolledDie.value) unmarked)
  exact ((ranking_perm dice).map _).trans (.of_eq values)

theorem pairwise_rankedValues (dice : List RolledDie) :
    (rankedValues dice).Pairwise fun first second => second ≤ first := by
  refine List.pairwise_map.mpr ((pairwise_ranking dice).imp ?_)
  intro first second outranks
  unfold Outranks at outranks
  omega

/-- The ranked values do not tell in which order the dice fell. -/
theorem rankedValues_eq_of_perm {first second : List RolledDie}
    (same : (first.map RolledDie.value).Perm (second.map RolledDie.value)) :
    rankedValues first = rankedValues second :=
  ((rankedValues_perm first).trans (same.trans (rankedValues_perm second).symm)).eq_of_pairwise
    (fun _ _ _ _ right left => Int.le_antisymm left right) (pairwise_rankedValues first)
    (pairwise_rankedValues second)

/-! ## Kept and dropped values -/

/-- If the places of all entries differ, those at the places of a part are the part. -/
theorem filter_mem_perm {Value : Type} {whole part rest : List (Value × Nat)}
    (split : (part ++ rest).Perm whole) (distinct : (whole.map Prod.snd).Nodup) :
    (whole.filter fun entry => entry.2 ∈ part.map Prod.snd).Perm part ∧
      (whole.filter fun entry => entry.2 ∉ part.map Prod.snd).Perm rest := by
  have apart : ∀ entry ∈ rest, entry.2 ∉ part.map Prod.snd := by
    rw [← (split.map Prod.snd).nodup_iff, List.map_append, List.nodup_append] at distinct
    intro entry member taken
    exact distinct.2.2 _ taken _ (List.mem_map_of_mem member) rfl
  have inPart : ∀ entry ∈ part, entry.2 ∈ part.map Prod.snd :=
    fun entry member => List.mem_map_of_mem member
  constructor
  · refine (split.filter _).symm.trans (.of_eq ?_)
    rw [List.filter_append, List.filter_eq_self.mpr (by simpa using inPart),
      List.filter_eq_nil_iff.mpr (by simpa using apart), List.append_nil]
  · refine (split.filter _).symm.trans (.of_eq ?_)
    rw [List.filter_append, List.filter_eq_nil_iff.mpr (by simpa using inPart),
      List.filter_eq_self.mpr (by simpa using apart), List.nil_append]

theorem pickedPlaces_eq (pick : Pick) (dice : List RolledDie) :
    pickedPlaces pick dice = (pick.taken (ranking dice)).map Prod.snd := by
  rw [Pick.map_taken]
  cases side : pick.side with
  | highest => simp only [pickedPlaces, Pick.taken, side]
  | lowest => simp only [pickedPlaces, Pick.taken, side, length_ranking_places]

/-- Asking for the mark of a die is asking whether its place was picked. -/
theorem map_value_filter_mark (filter : Filter) (dice : List RolledDie) (asks : Bool → Bool) :
    ((mark filter dice).filter fun die => asks die.dropped).map RolledDie.value =
      (dice.zipIdx.filter fun entry =>
        asks (isDropped filter (entry.2 ∈ pickedPlaces filter.pick dice))).map
          fun entry => entry.1.value := by
  rw [mark, List.filter_map, List.map_map]
  refine congrArg _ (List.filter_congr fun entry member => ?_)
  have within : entry.2 < dice.length := List.snd_lt_of_mem_zipIdx member
  simp only [Function.comp_apply, getD_markPlaces _ within]

theorem values_picked_perm (pick : Pick) (dice : List RolledDie) :
    ((dice.zipIdx.filter fun entry => entry.2 ∈ pickedPlaces pick dice).map
      fun entry => entry.1.value).Perm (pick.taken (rankedValues dice)) ∧
    ((dice.zipIdx.filter fun entry => entry.2 ∉ pickedPlaces pick dice).map
      fun entry => entry.1.value).Perm (pick.left (rankedValues dice)) := by
  have split := (pick.taken_append_left_perm (ranking dice)).trans (ranking_perm dice)
  have distinct : (dice.zipIdx.map Prod.snd).Nodup := by
    rw [List.zipIdx_map_snd]
    exact List.nodup_range'
  obtain ⟨taken, left⟩ := filter_mem_perm split distinct
  rw [pickedPlaces_eq, rankedValues, ← Pick.map_taken, ← Pick.map_left]
  exact ⟨taken.map _, left.map _⟩

/-- A filter keeps one end of the ranked values and drops the other. -/
theorem values_apply_perm (filter : Option Filter) (dice : List RolledDie)
    (fresh : ∀ die ∈ dice, die.dropped = false) :
    ((kept (apply filter dice)).map RolledDie.value).Perm
        (Filter.keptOf filter (rankedValues dice)) ∧
      (((apply filter dice).filter (·.dropped)).map RolledDie.value).Perm
        (Filter.droppedOf filter (rankedValues dice)) := by
  rcases filter with _ | filter
  · constructor
    · rw [kept, apply, List.filter_eq_self.mpr (by simpa using fresh)]
      exact (rankedValues_perm dice).symm
    · rw [apply, List.filter_eq_nil_iff.mpr (by simpa using fresh)]
      exact .refl _
  · have keptDice := map_value_filter_mark filter dice not
    have droppedDice := map_value_filter_mark filter dice id
    simp only [id] at droppedDice
    rw [kept, apply, keptDice, droppedDice]
    obtain ⟨taken, left⟩ := values_picked_perm filter.pick dice
    simp only [decide_not] at left
    cases filter with
    | keep pick =>
        simp only [isDropped, Bool.not_not]
        exact ⟨taken, left⟩
    | drop pick =>
        simp only [isDropped]
        exact ⟨left, taken⟩

end Selection

namespace TermRoll

/-- What kept values are worth: their sum, or the number of them that reach the threshold. -/
def scoreOfValues (success : Option Int) (values : List Int) : Int :=
  match success with
  | none => Number.sum values
  | some threshold => values.countP (threshold ≤ ·)

theorem scoreOf_eq (success : Option Int) (dice : List RolledDie) :
    scoreOf success dice = scoreOfValues success ((Selection.kept dice).map RolledDie.value) := by
  cases success with
  | none => rfl
  | some threshold =>
      rw [scoreOf, scoreOfValues, List.countP_map]
      rfl

theorem scoreOfValues_perm {first second : List Int} (success : Option Int)
    (same : first.Perm second) : scoreOfValues success first = scoreOfValues success second := by
  cases success with
  | none => exact Number.sum_perm same
  | some threshold => exact congrArg Nat.cast (same.countP_eq _)

theorem scoreOf_apply (success : Option Int) (filter : Option Filter) {pool : List RolledDie}
    (fresh : ∀ die ∈ pool, die.dropped = false) :
    scoreOf success (Selection.apply filter pool) =
      scoreOfValues success (Filter.keptOf filter (Selection.rankedValues pool)) := by
  rw [scoreOf_eq]
  exact scoreOfValues_perm success (Selection.values_apply_perm filter pool fresh).1

end TermRoll

namespace Term

variable {term : Term} {cap : Int}

theorem ThrownDie.not_dropped {die : RolledDie} (thrown : term.ThrownDie die) :
    die.dropped = false := by
  cases thrown with
  | base base => cases base <;> rfl
  | bonus _ => rfl

theorem Pool.not_dropped {pool : List RolledDie} (shape : term.Pool cap pool) :
    ∀ die ∈ pool, die.dropped = false :=
  fun die member => (shape.thrown die member).not_dropped

end Term

end TabletopDice
