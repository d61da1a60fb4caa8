import Mathlib.Algebra.Order.Field.Rat
import Mathlib.Data.Int.CharZero
import MaxPatch.Proofs.Values

/-! # Readings: what the standard makes of 64 bits

The standard for binary floating point, as the library models it in `Float.Model`, unpacks a pattern
into a sign, a significand and an exponent, or into a zero, an infinity or what is not a number.
These are the fields of a number (`unpacked_of_isFinite`), and what they stand for is its value
(`reading?_eq`).

In units of the least positive number absolute values are natural numbers. They grow with the bits
behind the sign (`units_lt_units`), so every value but zero has one pattern only
(`eq_of_value_eq`). -/

namespace MaxPatch.Binary64

open Float.Model (UnpackedFloat)

variable {x y : Binary64}

/-! ### Fields -/

/-- The bits behind the sign. -/
def magnitude (x : Binary64) : Nat := x.word % 2 ^ 63

/-- The sign. -/
def sign (x : Binary64) : UnpackedFloat.Sign := if x.isNegative then .negative else .positive

theorem fraction_lt (x : Binary64) : x.fraction < 2 ^ 52 := Nat.mod_lt _ (Nat.two_pow_pos 52)

theorem magnitude_eq (x : Binary64) : x.magnitude = x.exponentField * 2 ^ 52 + x.fraction := by
  change x.word % 2 ^ 63 = x.word / 2 ^ 52 % 2 ^ 11 * 2 ^ 52 + x.word % 2 ^ 52
  omega

theorem significand_lt (x : Binary64) : x.significand < 2 ^ 53 := by
  have hfraction : x.fraction < 2 ^ 52 := x.fraction_lt
  unfold significand
  split_ifs
  · omega
  · exact Nat.add_lt_add_left hfraction (2 ^ 52)

theorem le_significand (h : x.exponentField ≠ 0) : 2 ^ 52 ≤ x.significand := by
  rw [significand, if_neg h]
  exact Nat.le_add_right (2 ^ 52) _

theorem scale_eq (h : x.exponentField ≠ 0) : x.scale = x.exponentField :=
  Nat.max_eq_left (Nat.pos_of_ne_zero h)

theorem scale_pos (x : Binary64) : 1 ≤ x.scale := Nat.le_max_right _ _

theorem isNegative_iff (x : Binary64) : x.isNegative ↔ 2 ^ 63 ≤ x.word := decide_eq_true_iff

theorem eq_of_magnitude_eq (hsign : x.isNegative = y.isNegative)
    (hmagnitude : x.magnitude = y.magnitude) : x = y := by
  have hx : x.word < 2 ^ 64 := x.word_lt_twoTo
  have hy : y.word < 2 ^ 64 := y.word_lt_twoTo
  have hiff : 2 ^ 63 ≤ x.word ↔ 2 ^ 63 ≤ y.word := by
    rw [← isNegative_iff, ← isNegative_iff, hsign]
  have hword : x.word = y.word := by
    unfold magnitude at hmagnitude
    omega
  obtain ⟨bits⟩ := x
  obtain ⟨bits'⟩ := y
  exact congrArg mk (UInt64.toNat_inj.mp hword)

/-- What the standard makes of a pattern. -/
def unpacked (x : Binary64) : UnpackedFloat := .unpack .binary64 x.bits.toBitVec

theorem toNat_unpackExponent (x : Binary64) :
    (@UnpackedFloat.unpackExponent .binary64 x.bits.toBitVec).toNat = x.exponentField := by
  change x.word >>> 52 % 2 ^ 11 = x.word / 2 ^ 52 % 2 ^ 11
  rw [Nat.shiftRight_eq_div_pow]

theorem toNat_unpackMantissa (x : Binary64) :
    (@UnpackedFloat.unpackMantissa .binary64 x.bits.toBitVec).toNat = x.fraction := by
  rfl

theorem toNat_unpackSign (x : Binary64) :
    (@UnpackedFloat.unpackSign .binary64 x.bits.toBitVec).toNat = x.word / 2 ^ 63 := by
  have hword : x.word < 2 ^ 64 := x.word_lt_twoTo
  change x.word >>> 63 % 2 = x.word / 2 ^ 63
  rw [Nat.shiftRight_eq_div_pow]
  omega

theorem ofBitVec_unpackSign (x : Binary64) : UnpackedFloat.Sign.ofBitVec
    (@UnpackedFloat.unpackSign .binary64 x.bits.toBitVec) = x.sign := by
  have hpositive : @UnpackedFloat.unpackSign .binary64 x.bits.toBitVec = 0#1 ↔
      ¬ x.isNegative := by
    rw [← BitVec.toNat_inj, toNat_unpackSign, isNegative_iff]
    change x.word / 2 ^ 63 = 0 ↔ _
    omega
  unfold UnpackedFloat.Sign.ofBitVec sign
  by_cases h : x.isNegative
  · rw [if_neg fun hzero => hpositive.mp hzero h, if_pos h]
  · rw [if_pos (hpositive.mpr h), if_neg h]

theorem unpackExponent_eq_top_iff (x : Binary64) :
    @UnpackedFloat.unpackExponent .binary64 x.bits.toBitVec = -1#11 ↔ ¬ x.isFinite := by
  rw [← BitVec.toNat_inj, toNat_unpackExponent]
  change x.exponentField = 2047 ↔ ¬ decide (x.exponentField ≠ 2047) = true
  rw [decide_eq_true_iff, not_not]

theorem unpackExponent_eq_zero_iff (x : Binary64) :
    @UnpackedFloat.unpackExponent .binary64 x.bits.toBitVec = 0#11 ↔ x.exponentField = 0 := by
  rw [← BitVec.toNat_inj, toNat_unpackExponent]
  rfl

theorem unpackMantissa_eq_zero_iff (x : Binary64) :
    @UnpackedFloat.unpackMantissa .binary64 x.bits.toBitVec = 0#52 ↔ x.fraction = 0 := by
  rw [← BitVec.toNat_inj, toNat_unpackMantissa]
  rfl

theorem toNat_one_append (x : Binary64) :
    (1#1 ++ @UnpackedFloat.unpackMantissa .binary64 x.bits.toBitVec).toNat =
      2 ^ 52 + x.fraction := by
  change 2 ^ 52 ||| x.fraction = 2 ^ 52 + x.fraction
  rw [Nat.or_comm, Nat.or_two_pow_eq_add_of_lt x.fraction_lt, Nat.add_comm]

theorem finite_congr (s : UnpackedFloat.Sign) {m m' : Nat} {e e' : Int} {h : 0 < m} {h' : 0 < m'}
    (hm : m = m') (he : e = e') : UnpackedFloat.finite s m e h = .finite s m' e' h' := by
  subst hm he
  rfl

/-- **The fields of a number** are what the standard unpacks its pattern into. -/
theorem unpacked_of_isFinite (hx : x.isFinite) : x.unpacked =
    if h : x.significand = 0 then .zero x.sign
    else .finite x.sign x.significand ((x.scale : Int) - 1075) (Nat.pos_of_ne_zero h) := by
  unfold unpacked UnpackedFloat.unpack
  dsimp only
  rw [ofBitVec_unpackSign, if_neg fun h => x.unpackExponent_eq_top_iff.mp h hx]
  by_cases hfield : x.exponentField = 0
  · have hsignificand : x.significand = x.fraction := if_pos hfield
    have hscale : x.scale = 1 := by rw [scale, hfield]; rfl
    rw [if_pos (x.unpackExponent_eq_zero_iff.mpr hfield)]
    by_cases hzero : x.fraction = 0
    · rw [dif_pos (x.unpackMantissa_eq_zero_iff.mpr hzero), dif_pos (hsignificand.trans hzero)]
    · rw [dif_neg fun h => hzero (x.unpackMantissa_eq_zero_iff.mp h),
        dif_neg fun h => hzero (hsignificand ▸ h)]
      refine finite_congr _ (x.toNat_unpackMantissa.trans hsignificand.symm) ?_
      rw [toNat_unpackExponent, hfield, hscale]
      rfl
  · have hsignificand : x.significand = 2 ^ 52 + x.fraction := if_neg hfield
    rw [if_neg fun h => hfield (x.unpackExponent_eq_zero_iff.mp h), dif_neg (by omega)]
    refine finite_congr _ (x.toNat_one_append.trans hsignificand.symm) ?_
    rw [toNat_unpackExponent, scale_eq hfield]
    rfl

theorem unpacked_of_not_isFinite (hx : ¬ x.isFinite) :
    x.unpacked = if x.fraction = 0 then .infinity x.sign else .notANumber := by
  unfold unpacked UnpackedFloat.unpack
  dsimp only
  rw [ofBitVec_unpackSign, if_pos (x.unpackExponent_eq_top_iff.mpr hx)]
  by_cases hzero : x.fraction = 0
  · rw [if_pos (x.unpackMantissa_eq_zero_iff.mpr hzero), if_pos hzero]
  · rw [if_neg fun h => hzero (x.unpackMantissa_eq_zero_iff.mp h), if_neg hzero]

theorem isFinite_unpacked (x : Binary64) : x.unpacked.isFinite = x.isFinite := by
  by_cases hx : x.isFinite
  · rw [unpacked_of_isFinite hx, hx]
    by_cases hzero : x.significand = 0
    · rw [dif_pos hzero]
      rfl
    · rw [dif_neg hzero]
      rfl
  · rw [unpacked_of_not_isFinite hx, Bool.eq_false_of_not_eq_true hx]
    split_ifs <;> rfl

/-! ### Values -/

/-- The value of a pattern as the standard defines it: the significand with its sign, scaled by the
exponent. An infinity has none, nor has what is not a number. -/
def reading? (x : Binary64) : Option ℚ :=
  match x.unpacked with
  | .notANumber => none
  | .infinity _ => none
  | .zero _ => some 0
  | .finite sign significand exponent _ => some (sign.apply significand * 2 ^ exponent)

theorem reading?_eq_none_iff :
    x.reading? = none ↔ x.unpacked = .notANumber ∨ ∃ s, x.unpacked = .infinity s := by
  unfold reading?
  cases x.unpacked with
  | notANumber => exact iff_of_true rfl (.inl rfl)
  | infinity s => exact iff_of_true rfl (.inr ⟨s, rfl⟩)
  | zero s => exact iff_of_false nofun (by rintro (h | ⟨s', h⟩) <;> cases h)
  | finite s m e h => exact iff_of_false nofun (by rintro (h | ⟨s', h⟩) <;> cases h)

theorem unpacked_of_reading?_zero (hx : x.reading? = some 0) : ∃ s, x.unpacked = .zero s := by
  unfold reading? at hx
  cases hu : x.unpacked with
  | notANumber => rw [hu] at hx; cases hx
  | infinity s => rw [hu] at hx; cases hx
  | zero s => exact ⟨s, rfl⟩
  | finite s m e h =>
    rw [hu] at hx
    have hproduct : ((s.apply m : Int) : ℚ) * 2 ^ e = 0 := Option.some.inj hx
    rcases mul_eq_zero.mp hproduct with hzero | hzero
    · have hnone : s.apply m = 0 := Int.cast_eq_zero.mp hzero
      cases s <;> simp only [UnpackedFloat.Sign.apply] at hnone <;> omega
    · exact absurd hzero (zpow_ne_zero _ two_ne_zero)

theorem ratio_eq (x : Binary64) :
    (x.numerator : ℚ) / x.denominator = x.significand * 2 ^ ((x.scale : Int) - 1075) := by
  have hexponent : (x.scale : Int) - 1075 = (x.scale - 1075 : Nat) - (1075 - x.scale : Nat) := by
    omega
  have hnumerator : (x.numerator : ℚ) = x.significand * 2 ^ (x.scale - 1075) := by
    rw [← Nat.cast_ofNat, ← Nat.cast_pow, ← Nat.cast_mul]
    rfl
  have hdenominator : (x.denominator : ℚ) = 2 ^ (1075 - x.scale) := by
    rw [← Nat.cast_ofNat, ← Nat.cast_pow]
    rfl
  rw [hexponent, zpow_sub₀ two_ne_zero, zpow_natCast, zpow_natCast, hnumerator, hdenominator,
    mul_div_assoc]

theorem cast_apply_sign (x : Binary64) (n : Nat) :
    ((x.sign.apply n : Int) : ℚ) = if x.isNegative then -(n : ℚ) else n := by
  unfold sign
  split_ifs
  · exact Int.cast_neg (n : Int)
  · rfl

/-- **The value of a number** is what its pattern stands for. -/
theorem reading?_eq (x : Binary64) : x.reading? = if x.isFinite then some x.value else none := by
  unfold reading? value
  by_cases hx : x.isFinite
  · rw [unpacked_of_isFinite hx, ratio_eq, if_pos hx]
    by_cases hzero : x.significand = 0
    · rw [dif_pos hzero, hzero, Nat.cast_zero, zero_mul, neg_zero, ite_self]
    · rw [dif_neg hzero]
      dsimp only
      rw [cast_apply_sign, ite_mul, neg_mul]
  · rw [unpacked_of_not_isFinite hx, if_neg hx]
    split_ifs <;> rfl

theorem ratio_nonneg (x : Binary64) : (0 : ℚ) ≤ x.numerator / x.denominator :=
  div_nonneg (Nat.cast_nonneg _) (Nat.cast_nonneg _)

theorem abs_value (x : Binary64) : |x.value| = x.numerator / x.denominator := by
  unfold value
  split_ifs
  · rw [abs_neg, abs_of_nonneg x.ratio_nonneg]
  · exact abs_of_nonneg x.ratio_nonneg

theorem value_nonpos (h : x.isNegative) : x.value ≤ 0 := by
  rw [value, if_pos h]
  exact neg_nonpos.mpr x.ratio_nonneg

theorem value_nonneg (h : ¬ x.isNegative) : 0 ≤ x.value := by
  rw [value, if_neg h]
  exact x.ratio_nonneg

/-! ### The order of absolute values -/

/-- The absolute value in units of the least positive number. -/
def units (x : Binary64) : Nat := x.significand * 2 ^ (x.scale - 1)

theorem numerator_mul (x : Binary64) : x.numerator * 2 ^ 1074 = x.units * x.denominator := by
  have hscale : 1 ≤ x.scale := x.scale_pos
  have hpowers : (x.scale - 1075) + 1074 = (x.scale - 1) + (1075 - x.scale) := by omega
  change x.significand * 2 ^ (x.scale - 1075) * 2 ^ 1074 =
    x.significand * 2 ^ (x.scale - 1) * 2 ^ (1075 - x.scale)
  rw [mul_assoc, ← pow_add, hpowers, pow_add, mul_assoc]

theorem abs_value_eq_units (x : Binary64) : |x.value| = x.units / 2 ^ 1074 := by
  have hdenominator : (x.denominator : ℚ) ≠ 0 := Nat.cast_ne_zero.mpr x.denominator_pos.ne'
  have hmul := congrArg (Nat.cast (R := ℚ)) x.numerator_mul
  rw [Nat.cast_mul, Nat.cast_mul, Nat.cast_pow, Nat.cast_ofNat] at hmul
  rw [abs_value, div_eq_div_iff hdenominator (pow_ne_zero _ two_ne_zero), hmul]

theorem units_lt (x : Binary64) : x.units < 2 ^ (52 + x.exponentField) := by
  have hfraction : x.fraction < 2 ^ 52 := x.fraction_lt
  by_cases hfield : x.exponentField = 0
  · have hunits : x.units = x.fraction := by
      rw [units, significand, scale, if_pos hfield, hfield]
      exact mul_one _
    rwa [hunits, hfield]
  · have hscale : x.scale = x.exponentField := scale_eq hfield
    have hpowers : 52 + x.exponentField = 53 + (x.scale - 1) := by omega
    rw [hpowers, pow_add]
    exact Nat.mul_lt_mul_of_pos_right x.significand_lt (Nat.two_pow_pos _)

theorem le_units (h : x.exponentField ≠ 0) : 2 ^ (51 + x.exponentField) ≤ x.units := by
  have hscale : x.scale = x.exponentField := scale_eq h
  have hpowers : 51 + x.exponentField = 52 + (x.scale - 1) := by omega
  rw [hpowers, pow_add]
  exact Nat.mul_le_mul_right _ (le_significand h)

/-- **Absolute values grow with the bits** behind the sign. -/
theorem units_lt_units (h : x.magnitude < y.magnitude) : x.units < y.units := by
  have hx : x.fraction < 2 ^ 52 := x.fraction_lt
  have hy : y.fraction < 2 ^ 52 := y.fraction_lt
  rw [magnitude_eq, magnitude_eq] at h
  rcases Nat.lt_trichotomy x.exponentField y.exponentField with hlt | heq | hgt
  · -- the larger exponent field alone makes the difference
    calc x.units < 2 ^ (52 + x.exponentField) := x.units_lt
      _ ≤ 2 ^ (51 + y.exponentField) := Nat.pow_le_pow_right two_pos (by omega)
      _ ≤ y.units := le_units (by omega)
  · have hfractions : x.fraction < y.fraction := by
      rw [heq] at h
      omega
    have hsignificands : x.significand < y.significand := by
      unfold significand
      rw [heq]
      split_ifs
      · exact hfractions
      · exact Nat.add_lt_add_left hfractions _
    have hscales : x.scale = y.scale := by rw [scale, heq, scale]
    rw [units, units, hscales]
    exact Nat.mul_lt_mul_of_pos_right hsignificands (Nat.two_pow_pos _)
  · omega

theorem magnitude_eq_of_units_eq (h : x.units = y.units) : x.magnitude = y.magnitude := by
  rcases Nat.lt_trichotomy x.magnitude y.magnitude with hlt | heq | hgt
  · exact absurd h (units_lt_units hlt).ne
  · exact heq
  · exact absurd h (units_lt_units hgt).ne'

/-- **A value has one pattern only**, unless it is zero. -/
theorem eq_of_value_eq (h : x.value = y.value) : x = y ∨ x.value = 0 := by
  have hmagnitude : x.magnitude = y.magnitude := by
    have habs : |x.value| = |y.value| := congrArg abs h
    rw [abs_value_eq_units, abs_value_eq_units, div_left_inj' (pow_ne_zero _ two_ne_zero),
      Nat.cast_inj] at habs
    exact magnitude_eq_of_units_eq habs
  by_cases hx : x.isNegative
  · by_cases hy : y.isNegative
    · exact .inl (eq_of_magnitude_eq (hx.trans hy.symm) hmagnitude)
    · exact .inr (le_antisymm (value_nonpos hx) (h ▸ value_nonneg hy))
  · by_cases hy : y.isNegative
    · exact .inr (le_antisymm (h ▸ value_nonpos hy) (value_nonneg hx))
    · have hsign : x.isNegative = y.isNegative := by
        rw [Bool.eq_false_of_not_eq_true hx, Bool.eq_false_of_not_eq_true hy]
      exact .inl (eq_of_magnitude_eq hsign hmagnitude)

theorem eq_of_reading?_eq {q : ℚ} (hx : x.reading? = some q) (hy : y.reading? = some q) :
    x = y ∨ q = 0 := by
  rw [reading?_eq] at hx hy
  split_ifs at hx hy
  obtain rfl := Option.some.inj hx
  exact eq_of_value_eq (Option.some.inj hy).symm

/-- **What is read from two patterns** is the same only for the two zeros, or if nothing is read. -/
theorem reading?_eq_reading?_iff : x.reading? = y.reading? ↔
    x = y ∨ (x.reading? = none ∧ y.reading? = none) ∨
      ∃ s s', x.unpacked = .zero s ∧ y.unpacked = .zero s' := by
  constructor
  · intro h
    cases hx : x.reading? with
    | none => exact .inr (.inl ⟨rfl, h.symm.trans hx⟩)
    | some q =>
      have hy : y.reading? = some q := h.symm.trans hx
      rcases eq_of_reading?_eq hx hy with heq | rfl
      · exact .inl heq
      · obtain ⟨s, hs⟩ := unpacked_of_reading?_zero hx
        obtain ⟨s', hs'⟩ := unpacked_of_reading?_zero hy
        exact .inr (.inr ⟨s, s', hs, hs'⟩)
  · rintro (rfl | ⟨hx, hy⟩ | ⟨s, s', hs, hs'⟩)
    · rfl
    · rw [hx, hy]
    · rw [reading?, reading?, hs, hs']

end MaxPatch.Binary64
