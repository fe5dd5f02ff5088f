import Mathlib.Algebra.Order.Field.Power
import Mathlib.Algebra.Order.Ring.Rat
import Mathlib.Tactic.FieldSimp
import Mathlib.Tactic.Linarith
import Mathlib.Tactic.NormNum
import Mathlib.Tactic.Positivity
import Mathlib.Tactic.Ring
import TabletopDice.Number.Shortest

/-!
The nearest double is nearest. The last binary place is chosen such that the quotient, counted in
it, has 53 binary digits or lies among the subnormal numbers. On the grid of that place the rounded
count is nearest, and the doubles between its points lie below the quotient's leading digit.
-/

set_option autoImplicit false

namespace TabletopDice.Number

/-- What a double with these bits stands for, the exponents going on beyond the finite ones. -/
def Binary.value (binary : Binary) : ℚ :=
  binary.significand * 2 ^ binary.exponent

/-- No double is nearer to the quotient, and if another one is as near, the significand is even. -/
structure IsNearest (quotient : ℚ) (bits : Nat) : Prop where
  nearest : ∀ other : Nat,
    |quotient - (Binary.ofBits bits).value| ≤ |quotient - (Binary.ofBits other).value|
  even : ∀ other : Nat,
    |quotient - (Binary.ofBits bits).value| = |quotient - (Binary.ofBits other).value| →
    (Binary.ofBits other).value ≠ (Binary.ofBits bits).value → bits % 2 = 0

/-! ## Rounding to a natural number -/

/-- A natural number is at most a half away from the quotient, and even if it is just a half. -/
structure Rounds (quotient : ℚ) (rounded : Nat) : Prop where
  half : |quotient - rounded| ≤ 1 / 2
  even : |quotient - rounded| = 1 / 2 → rounded % 2 = 0

theorem roundedDiv_rounds {numerator denominator : Nat} (positive : 0 < denominator) :
    Rounds (numerator / denominator) (roundedDiv numerator denominator) := by
  have width : (0 : ℚ) < denominator := by exact_mod_cast positive
  have parts : (numerator : ℚ) / denominator =
      (numerator / denominator : Nat) + (numerator % denominator : Nat) / (denominator : ℚ) := by
    field_simp
    exact_mod_cast (Nat.div_add_mod numerator denominator).symm
  have rest := Nat.mod_lt numerator positive
  rw [parts]
  unfold roundedDiv
  generalize numerator / denominator = quotient, numerator % denominator = remainder at *
  have less : 2 * remainder < denominator ↔ (remainder : ℚ) / denominator < 1 / 2 := by
    rw [div_lt_div_iff₀ width two_pos, one_mul, mul_comm (remainder : ℚ)]
    exact_mod_cast Iff.rfl
  have more : denominator < 2 * remainder ↔ 1 / 2 < (remainder : ℚ) / denominator := by
    rw [div_lt_div_iff₀ two_pos width, one_mul, mul_comm (remainder : ℚ)]
    exact_mod_cast Iff.rfl
  have nonneg : 0 ≤ (remainder : ℚ) / denominator := by positivity
  have below : (remainder : ℚ) / denominator < 1 := (div_lt_one width).mpr (by exact_mod_cast rest)
  generalize (remainder : ℚ) / denominator = fraction at *
  simp only [less, more]
  split
  · rename_i low
    have error : (quotient : ℚ) + fraction - quotient = fraction := by ring
    constructor
    · rw [error, abs_of_nonneg nonneg]
      exact low.le
    · rw [error, abs_of_nonneg nonneg]
      exact fun tie => absurd tie low.ne
  · split
    · rename_i high
      have error : (quotient : ℚ) + fraction - (quotient + 1 : Nat) = -(1 - fraction) := by
        push_cast
        ring
      constructor
      · rw [error, abs_neg, abs_of_nonneg (by linarith)]
        linarith
      · rw [error, abs_neg, abs_of_nonneg (by linarith)]
        intro tie
        linarith
    · rename_i notLow notHigh
      obtain rfl : fraction = 1 / 2 := le_antisymm (not_lt.mp notHigh) (not_lt.mp notLow)
      have evened : (quotient + quotient % 2) % 2 = 0 := by omega
      refine ⟨?_, fun _ => evened⟩
      rcases Nat.mod_two_eq_zero_or_one quotient with even | odd
      · rw [even, Nat.add_zero, add_sub_cancel_left, abs_of_pos one_half_pos]
      · have error : (quotient : ℚ) + 1 / 2 - (quotient + 1 : Nat) = -(1 / 2) := by
          push_cast
          ring
        rw [odd, error, abs_neg, abs_of_pos one_half_pos]

section Rounds

variable {quotient : ℚ} {rounded : Nat} (rounds : Rounds quotient rounded)
include rounds

theorem Rounds.half_le {other : Nat} (different : other ≠ rounded) :
    1 / 2 ≤ |quotient - other| := by
  have apart : (1 : ℚ) ≤ |(rounded : ℚ) - other| := by
    have whole : (1 : Int) ≤ |(rounded : Int) - other| := Int.one_le_abs (by omega)
    exact_mod_cast whole
  have between := abs_sub_le (rounded : ℚ) quotient other
  rw [abs_sub_comm (rounded : ℚ) quotient] at between
  linarith [rounds.half]

theorem Rounds.le_distance (other : Nat) : |quotient - rounded| ≤ |quotient - other| := by
  by_cases same : other = rounded
  · rw [same]
  · exact rounds.half.trans (rounds.half_le same)

theorem Rounds.le_of_lt {bound : Nat} (less : quotient < bound) : rounded ≤ bound := by
  by_contra beyond
  have above : (bound : ℚ) + 1 ≤ rounded := by exact_mod_cast Nat.not_le.mp beyond
  linarith [(abs_le.mp rounds.half).1]

theorem Rounds.le_of_le {bound : Nat} (reached : bound ≤ quotient) : bound ≤ rounded := by
  by_contra missed
  have below : (rounded : ℚ) + 1 ≤ bound := by exact_mod_cast Nat.not_le.mp missed
  linarith [(abs_le.mp rounds.half).2]

end Rounds

/-! ## Binary places -/

theorem coe_pow_toNat {place : Int} (nonneg : 0 ≤ place) :
    ((Nat.pow 2 place.toNat : Nat) : ℚ) = 2 ^ place := by
  rw [Nat.pow_eq, Nat.cast_pow, Nat.cast_ofNat, ← zpow_natCast, Int.toNat_of_nonneg nonneg]

theorem coe_pow_toNat_neg {place : Int} (negative : ¬ 0 ≤ place) :
    ((Nat.pow 2 (-place).toNat : Nat) : ℚ) = (2 ^ place)⁻¹ := by
  rw [coe_pow_toNat (by omega), zpow_neg]

section Places

variable {numerator denominator : Nat}

theorem rounds_in_place (positive : 0 < denominator) (place : Int) :
    Rounds (numerator / denominator / 2 ^ place)
      (if 0 ≤ place then roundedDiv numerator (denominator * Nat.pow 2 place.toNat)
        else roundedDiv (numerator * Nat.pow 2 (-place).toNat) denominator) := by
  split
  · rename_i nonneg
    have power : 0 < Nat.pow 2 place.toNat := Nat.two_pow_pos _
    have rounds := @roundedDiv_rounds numerator _ (Nat.mul_pos positive power)
    rwa [Nat.cast_mul, coe_pow_toNat nonneg, ← div_div] at rounds
  · rename_i negative
    have rounds := @roundedDiv_rounds (numerator * Nat.pow 2 (-place).toNat) _ positive
    rwa [Nat.cast_mul, coe_pow_toNat_neg negative, mul_div_right_comm, ← div_eq_mul_inv]
      at rounds

/-- The place goes by the exponent of the leading digit, as long as there are places for it. -/
theorem exists_leading (some : 0 < numerator) (positive : 0 < denominator) :
    ∃ leading : Int, lastPlace numerator denominator = max (leading - 52) (-1074) ∧
      2 ^ leading ≤ (numerator : ℚ) / denominator ∧
      (numerator : ℚ) / denominator < 2 ^ (leading + 1) := by
  have width : (0 : ℚ) < denominator := by exact_mod_cast positive
  have below (place : Int) :
      (if 0 ≤ place then numerator < denominator * Nat.pow 2 place.toNat
        else numerator * Nat.pow 2 (-place).toNat < denominator) ↔
        (numerator : ℚ) / denominator < 2 ^ place := by
    rw [div_lt_iff₀ width, mul_comm (2 ^ place : ℚ)]
    split
    · rename_i nonneg
      rw [← coe_pow_toNat nonneg]
      exact_mod_cast Iff.rfl
    · rename_i negative
      have power : (0 : ℚ) < 2 ^ place := by positivity
      rw [← div_lt_iff₀ power, div_eq_mul_inv, ← coe_pow_toNat_neg negative]
      exact_mod_cast Iff.rfl
  have shorter : (2 : ℚ) ^ ((numerator.log2 : Int) - denominator.log2 - 1) ≤
      numerator / denominator := by
    have digits : (2 : ℚ) ^ (numerator.log2 : Int) ≤ numerator := by
      exact_mod_cast Nat.log2_self_le some.ne'
    have wider : (denominator : ℚ) ≤ 2 ^ ((denominator.log2 : Int) + 1) := by
      exact_mod_cast (Nat.lt_log2_self (n := denominator)).le
    rw [le_div_iff₀ width]
    calc (2 : ℚ) ^ ((numerator.log2 : Int) - denominator.log2 - 1) * denominator
        ≤ 2 ^ ((numerator.log2 : Int) - denominator.log2 - 1) *
            2 ^ ((denominator.log2 : Int) + 1) := by gcongr
      _ = 2 ^ (numerator.log2 : Int) := by
          rw [← zpow_add₀ two_ne_zero]
          congr 1
          ring
      _ ≤ numerator := digits
  have longer : (numerator : ℚ) / denominator <
      2 ^ ((numerator.log2 : Int) - denominator.log2 + 1) := by
    have digits : (numerator : ℚ) < 2 ^ ((numerator.log2 : Int) + 1) := by
      exact_mod_cast Nat.lt_log2_self (n := numerator)
    have wide : (2 : ℚ) ^ (denominator.log2 : Int) ≤ denominator := by
      exact_mod_cast Nat.log2_self_le positive.ne'
    rw [div_lt_iff₀ width]
    calc (numerator : ℚ) < 2 ^ ((numerator.log2 : Int) + 1) := digits
      _ = 2 ^ ((numerator.log2 : Int) - denominator.log2 + 1) *
            2 ^ (denominator.log2 : Int) := by
          rw [← zpow_add₀ two_ne_zero]
          congr 1
          ring
      _ ≤ 2 ^ ((numerator.log2 : Int) - denominator.log2 + 1) * denominator := by gcongr
  unfold lastPlace
  simp only [below]
  split
  · rename_i less
    exact ⟨_, by congr 1; ring, shorter, by simpa using less⟩
  · rename_i reached
    exact ⟨_, rfl, not_lt.mp reached, longer⟩

theorem lastPlace_spec (some : 0 < numerator) (positive : 0 < denominator) :
    -1074 ≤ lastPlace numerator denominator ∧
      (numerator : ℚ) / denominator < 2 ^ (lastPlace numerator denominator + 53) ∧
      (-1074 < lastPlace numerator denominator →
        2 ^ (lastPlace numerator denominator + 52) ≤ (numerator : ℚ) / denominator) := by
  obtain ⟨leading, same, least, less⟩ := exists_leading some positive
  rw [same]
  refine ⟨le_max_right _ _, less.trans_le (zpow_le_zpow_right₀ one_le_two (by omega)), ?_⟩
  intro above
  refine le_trans (zpow_le_zpow_right₀ one_le_two ?_) least
  omega

end Places

/-! ## Bits -/

theorem Binary.value_subnormal {bits : Nat} (small : bits < hiddenBit) :
    (ofBits bits).value = bits * 2 ^ (-1074 : Int) := by
  have place : bits / hiddenBit = 0 := Nat.div_eq_of_lt small
  have fraction : bits % hiddenBit = bits := Nat.mod_eq_of_lt small
  simp only [ofBits, place, fraction, if_true, value]

theorem Binary.value_normal (field fraction : Nat) (small : fraction < hiddenBit) :
    (ofBits ((field + 1) * hiddenBit + fraction)).value =
      (hiddenBit + fraction : Nat) * 2 ^ ((field : Int) - 1074) := by
  have place : ((field + 1) * hiddenBit + fraction) / hiddenBit = field + 1 := by
    unfold hiddenBit at *
    omega
  have rest : ((field + 1) * hiddenBit + fraction) % hiddenBit = fraction := by
    unfold hiddenBit at *
    omega
  have exponent : ((field + 1 : Nat) : Int) - 1075 = field - 1074 := by omega
  simp only [ofBits, place, rest, Nat.succ_ne_zero, if_false, value, exponent]

/-- A count that reaches the next power of two carries into the exponent. -/
theorem Binary.value_ofBits {field count : Nat} (carried : count ≤ 2 * hiddenBit)
    (normal : field = 0 ∨ hiddenBit ≤ count) :
    (ofBits (field * hiddenBit + count)).value = count * 2 ^ ((field : Int) - 1074) := by
  rcases Nat.lt_or_ge count hiddenBit with small | reached
  · obtain rfl : field = 0 := normal.resolve_right (Nat.not_le.mpr small)
    rw [Nat.zero_mul, Nat.zero_add, value_subnormal small]
    rfl
  · obtain ⟨fraction, rfl⟩ := Nat.exists_eq_add_of_le reached
    rcases Nat.lt_or_ge fraction hiddenBit with small | full
    · have bits : field * hiddenBit + (hiddenBit + fraction) =
          (field + 1) * hiddenBit + fraction := by ring
      rw [bits, value_normal field fraction small]
    · obtain rfl : fraction = hiddenBit := by omega
      have bits : field * hiddenBit + (hiddenBit + hiddenBit) =
          (field + 1 + 1) * hiddenBit + 0 := by ring
      have exponent : ((field + 1 : Nat) : Int) - 1074 = field - 1074 + 1 := by omega
      rw [bits, value_normal (field + 1) 0 (by decide), exponent, zpow_add_one₀ two_ne_zero]
      push_cast
      ring

/-- The doubles are the multiples of binary places by numbers of 53 digits. -/
theorem Binary.exists_value (bits : Nat) :
    ∃ (count : Nat) (place : Int), -1074 ≤ place ∧ count < 2 * hiddenBit ∧
      (ofBits bits).value = count * 2 ^ place := by
  have fraction : bits % hiddenBit < hiddenBit := Nat.mod_lt _ (by decide)
  have parts : bits / hiddenBit * hiddenBit + bits % hiddenBit = bits := Nat.div_add_mod' bits _
  cases field : bits / hiddenBit with
  | zero =>
      rw [field, Nat.zero_mul, Nat.zero_add] at parts
      exact ⟨bits, -1074, le_rfl, by omega, value_subnormal (parts ▸ fraction)⟩
  | succ field' =>
      have shown := value_normal field' _ fraction
      rw [← field, parts] at shown
      exact ⟨_, _, by omega, by omega, shown⟩

/-! ## The nearest double -/

section Nearest

variable {quotient : ℚ} {place : Int} {count : Nat}

theorem distance_in_place (quotient : ℚ) (place : Int) (count : Nat) :
    |quotient - count * 2 ^ place| = |quotient / 2 ^ place - count| * 2 ^ place := by
  have unit : (0 : ℚ) < 2 ^ place := by positivity
  rw [← abs_of_pos unit, ← abs_mul, abs_of_pos unit, sub_mul, div_mul_cancel₀ _ unit.ne']

/-- On a finer grid there are only doubles below the leading digit of the quotient, all of them
farther away. -/
theorem Rounds.lt_distance_finer (rounds : Rounds (quotient / 2 ^ place) count)
    (leading : (hiddenBit : ℚ) * 2 ^ place ≤ quotient) {otherCount : Nat} {otherPlace : Int}
    (digits : otherCount < 2 * hiddenBit) (finer : otherPlace < place) :
    |quotient - count * 2 ^ place| < |quotient - otherCount * 2 ^ otherPlace| := by
  have below : (otherCount : ℚ) * 2 ^ otherPlace < hiddenBit * 2 ^ place := by
    have fewer : (otherCount : ℚ) < 2 * hiddenBit := by exact_mod_cast digits
    calc (otherCount : ℚ) * 2 ^ otherPlace < 2 * hiddenBit * 2 ^ otherPlace := by gcongr
      _ = hiddenBit * 2 ^ (otherPlace + 1) := by
          rw [zpow_add_one₀ two_ne_zero]
          ring
      _ ≤ hiddenBit * 2 ^ place := by
          gcongr
          · exact one_le_two
          · omega
  have unit : (0 : ℚ) < 2 ^ place := by positivity
  calc |quotient - count * 2 ^ place|
      ≤ |quotient - hiddenBit * 2 ^ place| := by
        rw [distance_in_place, distance_in_place]
        exact mul_le_mul_of_nonneg_right (rounds.le_distance hiddenBit) unit.le
    _ = quotient - hiddenBit * 2 ^ place := abs_of_nonneg (sub_nonneg.mpr leading)
    _ < quotient - otherCount * 2 ^ otherPlace := by linarith
    _ ≤ |quotient - otherCount * 2 ^ otherPlace| := le_abs_self _

/-- The doubles of coarser grids lie on the grid itself. -/
theorem exists_count_of_coarser {otherPlace : Int} (coarser : place ≤ otherPlace)
    (otherCount : Nat) :
    ∃ shown : Nat, (otherCount : ℚ) * 2 ^ otherPlace = shown * 2 ^ place := by
  refine ⟨otherCount * Nat.pow 2 (otherPlace - place).toNat, ?_⟩
  rw [Nat.cast_mul, coe_pow_toNat (by omega), mul_assoc, ← zpow_add₀ two_ne_zero]
  congr 2
  omega

theorem Rounds.isNearest {bits : Nat} (rounds : Rounds (quotient / 2 ^ place) count)
    (shown : (Binary.ofBits bits).value = count * 2 ^ place) (parity : bits % 2 = count % 2)
    (leading : -1074 < place → (hiddenBit : ℚ) * 2 ^ place ≤ quotient) :
    IsNearest quotient bits := by
  have unit : (0 : ℚ) < 2 ^ place := by positivity
  constructor
  · intro other
    obtain ⟨otherCount, otherPlace, least, digits, otherShown⟩ := Binary.exists_value other
    rw [shown, otherShown]
    rcases lt_or_ge otherPlace place with finer | coarser
    · exact (rounds.lt_distance_finer (leading (by omega)) digits finer).le
    · obtain ⟨there, same⟩ := exists_count_of_coarser coarser otherCount
      rw [same, distance_in_place, distance_in_place]
      exact mul_le_mul_of_nonneg_right (rounds.le_distance there) unit.le
  · intro other tie different
    obtain ⟨otherCount, otherPlace, least, digits, otherShown⟩ := Binary.exists_value other
    rw [shown, otherShown] at tie different
    rcases lt_or_ge otherPlace place with finer | coarser
    · exact absurd tie (rounds.lt_distance_finer (leading (by omega)) digits finer).ne
    · obtain ⟨there, same⟩ := exists_count_of_coarser coarser otherCount
      rw [same, distance_in_place, distance_in_place] at tie
      rw [same] at different
      have elsewhere : there ≠ count := by
        rintro rfl
        exact different rfl
      have half : 1 / 2 ≤ |quotient / 2 ^ place - count| := by
        rw [mul_right_cancel₀ unit.ne' tie]
        exact rounds.half_le elsewhere
      rw [parity]
      exact rounds.even (le_antisymm rounds.half half)

end Nearest

theorem nearestBits_isNearest {numerator denominator : Nat} (some : 0 < numerator)
    (positive : 0 < denominator) :
    IsNearest (numerator / denominator) (nearestBits numerator denominator) := by
  obtain ⟨least, upper, lower⟩ := lastPlace_spec some positive
  have rounds := @rounds_in_place numerator _ positive (lastPlace numerator denominator)
  unfold nearestBits
  generalize lastPlace numerator denominator = place at *
  simp only
  generalize (if 0 ≤ place then _ else _) = count at *
  have unit : (0 : ℚ) < 2 ^ place := by positivity
  have hidden : (hiddenBit : ℚ) = 2 ^ (52 : Int) := by norm_num [hiddenBit]
  have leading : -1074 < place → (hiddenBit : ℚ) * 2 ^ place ≤ numerator / denominator := by
    intro above
    rw [hidden, ← zpow_add₀ two_ne_zero, Int.add_comm]
    exact lower above
  have carried : count ≤ 2 * hiddenBit := by
    have digits : ((2 * hiddenBit : Nat) : ℚ) = 2 ^ (53 : Int) := by norm_num [hiddenBit]
    refine rounds.le_of_lt ((div_lt_iff₀ unit).mpr ?_)
    rw [digits, ← zpow_add₀ two_ne_zero, Int.add_comm]
    exact upper
  have normal : (place + 1074).toNat = 0 ∨ hiddenBit ≤ count := by
    rcases lt_or_ge (-1074) place with above | subnormal
    · exact .inr (rounds.le_of_le ((le_div_iff₀ unit).mpr (leading above)))
    · exact .inl (by omega)
  have shown := Binary.value_ofBits carried normal
  have exponent : ((place + 1074).toNat : Int) - 1074 = place := by omega
  rw [exponent] at shown
  refine rounds.isNearest shown ?_ leading
  unfold hiddenBit
  omega

/-- One third lies a third of its last place above the nearest double. -/
example : nearestBits 1 3 = 0x3FD5555555555555 := by decide +kernel

/-- The quotient is rounded to the nearest double, or to nothing where that is not a finite one. -/
theorem nearest?_spec (numerator : Int) {denominator : Nat} (positive : 0 < denominator) :
    ∃ bits, IsNearest (numerator.natAbs / denominator) bits ∧
      nearest? numerator denominator =
        if bits < infinityBits then
          some (Float.ofBits (UInt64.ofNat (if numerator < 0 then signBit + bits else bits)))
        else none := by
  by_cases zero : numerator = 0
  · subst zero
    have nothing : (Binary.ofBits 0).value = 0 := by
      rw [Binary.value_subnormal (by decide), Nat.cast_zero, zero_mul]
    have finite : 0 < infinityBits := Nat.zero_lt_succ _
    refine ⟨0, ⟨fun other => ?_, fun _ _ _ => rfl⟩, ?_⟩
    · rw [nothing, Int.natAbs_zero, Nat.cast_zero, zero_div, sub_zero, abs_zero]
      exact abs_nonneg _
    · rw [nearest?, if_pos rfl, if_pos finite, if_neg (Int.lt_irrefl 0)]
      rfl
  · refine ⟨_, nearestBits_isNearest (Int.natAbs_pos.mpr zero) positive, ?_⟩
    rw [nearest?, if_neg zero]

end TabletopDice.Number
