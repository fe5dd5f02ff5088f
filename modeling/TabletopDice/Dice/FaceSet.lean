/-!
Finite sets of faces. A set lists its members in strictly ascending order, so that equal sets are
equal lists.
-/

set_option autoImplicit false

namespace TabletopDice

structure FaceSet where
  values : List Int
  ascending : values.Pairwise (· < ·)
deriving DecidableEq, Repr

namespace FaceSet

def insertValue (value : Int) : List Int → List Int
  | [] => [value]
  | first :: rest =>
      if value < first then value :: first :: rest
      else if value = first then first :: rest
      else first :: insertValue value rest

theorem mem_insertValue {value face : Int} {values : List Int} :
    face ∈ insertValue value values ↔ face = value ∨ face ∈ values := by
  induction values with
  | nil => simp [insertValue]
  | cons first rest ih =>
      unfold insertValue
      split
      · simp
      · split
        · simp_all
        · simp only [List.mem_cons, ih]
          exact or_left_comm

theorem pairwise_insertValue {value : Int} {values : List Int}
    (ascending : values.Pairwise (· < ·)) : (insertValue value values).Pairwise (· < ·) := by
  induction values with
  | nil => simp [insertValue]
  | cons first rest ih =>
      obtain ⟨firstLeast, restAscending⟩ := List.pairwise_cons.mp ascending
      unfold insertValue
      split
      case isTrue less =>
        refine List.pairwise_cons.mpr ⟨fun face member => ?_, ascending⟩
        rcases List.mem_cons.mp member with rfl | inRest
        · exact less
        · exact Int.lt_trans less (firstLeast face inRest)
      case isFalse notLess =>
        split
        · exact ascending
        case isFalse different =>
          refine List.pairwise_cons.mpr ⟨fun face member => ?_, ih restAscending⟩
          rcases mem_insertValue.mp member with rfl | inRest
          · omega
          · exact firstLeast face inRest

def insert (value : Int) (faces : FaceSet) : FaceSet :=
  ⟨insertValue value faces.values, pairwise_insertValue faces.ascending⟩

/-- The set of the listed faces, in whatever order and however often each is listed. -/
def ofList (faces : List Int) : FaceSet :=
  faces.foldr insert ⟨[], .nil⟩

instance : Singleton Int FaceSet where
  singleton value := ⟨[value], List.pairwise_singleton _ _⟩

instance : Membership Int FaceSet where
  mem faces value := value ∈ faces.values

instance (value : Int) (faces : FaceSet) : Decidable (value ∈ faces) :=
  inferInstanceAs (Decidable (value ∈ faces.values))

theorem mem_ofList {value : Int} {faces : List Int} : value ∈ ofList faces ↔ value ∈ faces := by
  change value ∈ (ofList faces).values ↔ _
  induction faces with
  | nil => simp [ofList]
  | cons first rest ih =>
      simp only [ofList, List.foldr_cons, insert, mem_insertValue, List.mem_cons]
      exact or_congr_right ih

theorem ext_mem {first second : FaceSet} (same : ∀ value, value ∈ first ↔ value ∈ second) :
    first = second := by
  obtain ⟨values, ascending⟩ := first
  obtain ⟨others, othersAscending⟩ := second
  have permutation : values.Perm others := by
    refine (List.perm_ext_iff_of_nodup ?_ ?_).mpr same
    · exact ascending.imp fun less equal => by omega
    · exact othersAscending.imp fun less equal => by omega
  have equal : values = others :=
    permutation.eq_of_pairwise (fun _ _ _ _ less greater => by omega) ascending othersAscending
  subst equal
  rfl

end FaceSet

end TabletopDice
