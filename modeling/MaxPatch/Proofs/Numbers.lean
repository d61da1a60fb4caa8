import Mathlib.Algebra.Order.Ring.Cast
import MaxPatch.Proofs.Readings

/-! # Numbers: what a document writes for a number

What is written for a number is decided by arithmetic of the 64-bit format: the fractional part is
compared to zero and the absolute value to 2^53, and what passes is converted to a whole number of
64 bits (`Json.ofArithmetic`). No step of this rounds anything away: the fractional part is zero
only if the number is whole, and the conversion is exact (`Json.ofBinary64_eq_ofArithmetic`). So
what is written has the value that the pattern stands for (`numbers_keep_their_value`). -/

namespace MaxPatch

open Float.Model (UnpackedFloat)

namespace Binary64

variable {x y : Binary64}

/-! ### Rounding -/

theorem mantissa_shiftRight (m : UnpackedFloat.ExtendedMantissa) (k : Nat) :
    (m >>> k).mantissa = m.mantissa / 2 ^ k := by
  induction k with
  | zero => exact (Nat.div_one _).symm
  | succ k ih =>
    change (m >>> k).mantissa / 2 = m.mantissa / 2 ^ (k + 1)
    rw [ih, Nat.div_div_eq_div_mul, pow_succ]

theorem le_roundedMantissa (m : UnpackedFloat.ExtendedMantissa) :
    m.mantissa ≤ m.roundedMantissa := by
  unfold UnpackedFloat.ExtendedMantissa.roundedMantissa
  cases m.accuracy with
  | exact => exact Nat.le_refl _
  | inexact order =>
    cases order with
    | lt => exact Nat.le_refl _
    | eq => exact Nat.le_add_right _ _
    | gt => exact Nat.le_succ _

theorem mantissa_ofMantissaAndAccuracy (m : Nat) (a : UnpackedFloat.Accuracy) :
    (UnpackedFloat.ExtendedMantissa.ofMantissaAndAccuracy m a).mantissa = m := by
  cases a with
  | exact => rfl
  | inexact order => cases order <;> rfl

/-- The exponent that a significand is shifted to. -/
def targetOf (m : Nat) (e : Int) : Int :=
  Float.Model.Format.binary64.targetExponent (Float.Model.totalExponent m e)

theorem targetOf_eq (m : Nat) (e : Int) : targetOf m e = max (m.log2 + 1 + e - 53) (-1074) := rfl

theorem shifted_pos {m : Nat} (hm : 0 < m) {e : Int} (he : -1074 ≤ e) :
    0 < m / 2 ^ (targetOf m e - e).toNat := by
  have hshift : (targetOf m e - e).toNat ≤ m.log2 := by
    rw [targetOf_eq]
    omega
  refine Nat.div_pos (Nat.le_trans (Nat.pow_le_pow_right two_pos hshift) ?_) (Nat.two_pow_pos _)
  exact Nat.log2_self_le hm.ne'

theorem roundWithAccuracy_finite (s : UnpackedFloat.Sign) {m : Nat} (hm : 0 < m) {e : Int}
    (he : -1074 ≤ e) (a : UnpackedFloat.Accuracy) :
    ∃ m' e' h, UnpackedFloat.roundWithAccuracy .binary64 s m e a = .finite s m' e' h := by
  let rounded := (UnpackedFloat.ExtendedMantissa.ofMantissaAndAccuracy m a >>>
    (targetOf m e - e).toNat).roundedMantissa
  have hrounded : 0 < rounded := by
    refine Nat.lt_of_lt_of_le ?_ (le_roundedMantissa _)
    rw [mantissa_shiftRight, mantissa_ofMantissaAndAccuracy]
    exact shifted_pos hm he
  let e' : Int := e + (targetOf m e - e).toNat
  have hfinal : (UnpackedFloat.ExtendedMantissa.ofMantissaAndAccuracy rounded .exact >>>
      (targetOf rounded e' - e').toNat).mantissa ≠ 0 := by
    rw [mantissa_shiftRight, mantissa_ofMantissaAndAccuracy]
    exact (shifted_pos hrounded (by omega)).ne'
  exact ⟨_, _, _, dif_neg hfinal⟩

/-- **Rounding keeps apart from zero** what is no finer than the least positive number. -/
theorem round_finite (s : UnpackedFloat.Sign) {m : Nat} (hm : 0 < m) {e : Int} (he : -1074 ≤ e) :
    ∃ m' e' h, UnpackedFloat.round .binary64 s m e = .finite s m' e' h := by
  have htarget : -1074 ≤ targetOf m e := by
    rw [targetOf_eq]
    exact le_max_right _ _
  have hpos : 0 < m <<< (e - targetOf m e).toNat := by
    rw [Nat.shiftLeft_eq]
    exact Nat.mul_pos hm (Nat.two_pow_pos _)
  exact roundWithAccuracy_finite s hpos (e := e - (e - targetOf m e).toNat) (by omega) .exact

theorem finite_beq_zero (s : UnpackedFloat.Sign) (m : Nat) (e : Int) (h : 0 < m) :
    (UnpackedFloat.finite s m e h).beq (.zero .positive) = false := by
  cases s <;> rfl

/-- **A difference is zero** after rounding only if it is zero. -/
theorem normalize_beq_zero {n e : Int} (he : -1074 ≤ e) :
    (UnpackedFloat.normalize .binary64 n e .positive).beq (.zero .positive) ↔ n = 0 := by
  have hnonzero (s : UnpackedFloat.Sign) {m : Nat} (hm : 0 < m) :
      (UnpackedFloat.round .binary64 s m e).beq (.zero .positive) = false := by
    obtain ⟨m', e', h, hround⟩ := round_finite s hm he
    rw [hround]
    exact finite_beq_zero s m' e' h
  unfold UnpackedFloat.normalize
  rcases Int.lt_trichotomy n 0 with hn | rfl | hn
  · rw [Int.compare_eq_lt.mpr hn]
    exact iff_of_false (Bool.eq_false_iff.mp (hnonzero .negative (by omega))) hn.ne
  · exact iff_of_true rfl rfl
  · rw [Int.compare_eq_gt.mpr hn]
    exact iff_of_false (Bool.eq_false_iff.mp (hnonzero .positive (by omega))) hn.ne'

/-! ### Parts of a number -/

/-- The whole part of a number: the places of the significand below one are cleared. -/
def wholeOf : UnpackedFloat → UnpackedFloat
  | .finite s m e _ =>
    let kept := m / 2 ^ (-e).toNat * 2 ^ (-e).toNat
    if h : kept = 0 then .zero s else .finite s kept e (Nat.pos_of_ne_zero h)
  | v => v

/-- The fractional part of a number: what is left when the whole part is taken away. -/
def fractionOf (v : UnpackedFloat) : UnpackedFloat := v.sub .binary64 (wholeOf v)

theorem sub_finite (s : UnpackedFloat.Sign) {m m' : Nat} (e : Int) (h : 0 < m) (h' : 0 < m') :
    (UnpackedFloat.finite s m e h).sub .binary64 (.finite s m' e h') =
      .normalize .binary64 (s.apply m - s.apply m') e .positive := by
  have hshift : (e - min e e).toNat = 0 := by rw [min_self, Int.sub_self, Int.toNat_zero]
  change UnpackedFloat.normalize .binary64 (s.apply (m <<< (e - min e e).toNat) -
    s.apply (m' <<< (e - min e e).toNat)) (min e e) .positive = _
  rw [hshift, min_self, Nat.shiftLeft_zero, Nat.shiftLeft_zero]

/-- **A number is whole** if and only if its fractional part is zero. -/
theorem fractionOf_beq_zero (s : UnpackedFloat.Sign) {m : Nat} (hm : 0 < m) {e : Int}
    (he : -1074 ≤ e) : (fractionOf (.finite s m e hm)).beq (.zero .positive) ↔
      m % 2 ^ (-e).toNat = 0 := by
  have hparts : m / 2 ^ (-e).toNat * 2 ^ (-e).toNat + m % 2 ^ (-e).toNat = m :=
    Nat.div_add_mod' m _
  by_cases hkept : m / 2 ^ (-e).toNat * 2 ^ (-e).toNat = 0
  · have hwhole : wholeOf (.finite s m e hm) = .zero s := dif_pos hkept
    rw [fractionOf, hwhole]
    exact iff_of_false (Bool.eq_false_iff.mp (finite_beq_zero s m e hm)) (by omega)
  · have hwhole : wholeOf (.finite s m e hm) = .finite s (m / 2 ^ (-e).toNat * 2 ^ (-e).toNat) e
        (Nat.pos_of_ne_zero hkept) := dif_neg hkept
    rw [fractionOf, hwhole, sub_finite, normalize_beq_zero he]
    cases s with
    | negative =>
      change -(m : Int) - -(_ : Nat) = 0 ↔ _
      omega
    | positive =>
      change (m : Int) - (_ : Nat) = 0 ↔ _
      omega

/-! ### The conversion to a whole number -/

/-- **Rounding towards zero** is what the conversion does to a number. -/
theorem roundToInt_eq (x : Binary64) :
    UnpackedFloat.roundToInt x.sign x.significand ((x.scale : Int) - 1075) = x.toInt := by
  unfold UnpackedFloat.roundToInt
  have hup : ((x.scale : Int) - 1075 - 0).toNat = x.scale - 1075 := by omega
  have hdown : (0 - ((x.scale : Int) - 1075 - (x.scale - 1075 : Nat))).toNat = 1075 - x.scale := by
    omega
  simp only [UnpackedFloat.decreaseExponent, UnpackedFloat.shiftToExponent, mantissa_shiftRight,
    mantissa_ofMantissaAndAccuracy, hup, hdown, Nat.shiftLeft_eq]
  have hwhole : x.wholePart = x.significand * 2 ^ (x.scale - 1075) / 2 ^ (1075 - x.scale) := rfl
  rw [← hwhole]
  unfold sign toInt
  split_ifs <;> rfl

theorem natAbs_toInt (x : Binary64) : x.toInt.natAbs = x.wholePart := by
  unfold toInt
  split_ifs
  · rw [Int.natAbs_neg, Int.natAbs_natCast]
  · exact Int.natAbs_natCast _

theorem toInt_toInt64 {v : UnpackedFloat} {n : Int} (hn : n.natAbs < 2 ^ 53)
    (h : v.toInt Int64.minValue.toInt Int64.maxValue.toInt = n) : v.toInt64.toInt = n := by
  have hmin : Int64.minValue.toInt = -2 ^ 63 := rfl
  have hmax : Int64.maxValue.toInt = 2 ^ 63 - 1 := rfl
  unfold UnpackedFloat.toInt64
  rw [h]
  exact Int64.toInt_ofIntClamp (by omega) (by omega)

/-! ### The comparison with the limit -/

/-- The limit from which on not all whole numbers are numbers: 2^53. -/
def limit : Binary64 := ⟨0x4340000000000000⟩

theorem unpacked_limit : limit.unpacked = .finite .positive (2 ^ 52) 1 (Nat.two_pow_pos 52) := rfl

theorem lt_positive_iff {m m' : Nat} {e e' : Int} (h : 0 < m) (h' : 0 < m') :
    (UnpackedFloat.finite .positive m e h).lt (.finite .positive m' e' h') ↔
      e < e' ∨ e = e' ∧ m < m' := by
  change (some ((compare e e').then (compare m m')) == some Ordering.lt) ↔ _
  rw [beq_iff_eq, Option.some_inj, Ordering.then_eq_lt, Int.compare_eq_lt, Int.compare_eq_eq,
    Nat.compare_eq_lt]

theorem lt_limit_iff (x : Binary64) (h : 0 < x.significand) :
    (UnpackedFloat.finite .positive x.significand ((x.scale : Int) - 1075) h).lt limit.unpacked ↔
      x.wholePart < 2 ^ 53 := by
  rw [unpacked_limit, lt_positive_iff]
  rcases Nat.lt_or_ge x.scale 1076 with hsmall | hlarge
  · have hnumerator : x.numerator = x.significand := by
      have hnone : x.scale - 1075 = 0 := by omega
      rw [numerator, hnone]
      exact mul_one _
    have hwhole : x.wholePart ≤ x.significand := by
      rw [← hnumerator]
      exact Nat.div_le_self _ _
    have hlt : x.significand < 2 ^ 53 := x.significand_lt
    exact iff_of_true (.inl (by omega)) (by omega)
  · have hfield : x.exponentField ≠ 0 := by
      rw [scale] at hlarge
      omega
    have hsignificand : 2 ^ 52 ≤ x.significand := le_significand hfield
    have hdenominator : x.denominator = 1 := by
      have hnone : 1075 - x.scale = 0 := by omega
      rw [denominator, hnone]
    have hpowers : 2 ^ 1 ≤ 2 ^ (x.scale - 1075) := Nat.pow_le_pow_right two_pos (by omega)
    have hwhole : 2 ^ 52 * 2 ^ 1 ≤ x.wholePart := by
      rw [wholePart, hdenominator, Nat.div_one]
      exact Nat.mul_le_mul hsignificand hpowers
    exact iff_of_false (by omega) (by omega)

/-! ### The steps for a pattern -/

theorem isIntegral_iff (x : Binary64) :
    x.isIntegral ↔ x.isFinite ∧ x.numerator % x.denominator = 0 := by
  rw [isIntegral, Bool.and_eq_true, decide_eq_true_iff]

theorem isIntegral_eq_false (hx : ¬ x.isFinite) : x.isIntegral = false :=
  Bool.eq_false_iff.mpr fun h => hx (x.isIntegral_iff.mp h).1

theorem wholePart_eq_zero (hzero : x.significand = 0) : x.wholePart = 0 := by
  rw [wholePart, numerator, hzero, zero_mul, Nat.zero_div]

theorem fractionOf_unpacked (hx : x.isFinite) :
    (fractionOf x.unpacked).beq (.zero .positive) = x.isIntegral := by
  have hscale : 1 ≤ x.scale := x.scale_pos
  rw [Bool.eq_iff_iff, isIntegral_iff, unpacked_of_isFinite hx]
  by_cases hzero : x.significand = 0
  · rw [dif_pos hzero]
    refine iff_of_true ?_ ⟨hx, ?_⟩
    · cases x.sign <;> rfl
    · rw [numerator, hzero, zero_mul, Nat.zero_mod]
  · have hplaces : (-((x.scale : Int) - 1075)).toNat = 1075 - x.scale := by omega
    rw [dif_neg hzero, fractionOf_beq_zero _ _ (by omega), hplaces, and_iff_right hx]
    change _ ↔ x.significand * 2 ^ (x.scale - 1075) % 2 ^ (1075 - x.scale) = 0
    rcases Nat.le_total x.scale 1075 with hle | hle
    · rw [Nat.sub_eq_zero_of_le hle, pow_zero, mul_one]
    · rw [Nat.sub_eq_zero_of_le hle, pow_zero, Nat.mod_one, Nat.mod_one]

theorem fractionOf_unpacked_of_not_isFinite (hx : ¬ x.isFinite) :
    fractionOf x.unpacked = .notANumber := by
  rw [unpacked_of_not_isFinite hx]
  split_ifs
  · cases x.sign <;> rfl
  · rfl

theorem abs_unpacked_lt (hx : x.isFinite) :
    x.unpacked.abs.lt limit.unpacked = decide (x.wholePart < 2 ^ 53) := by
  rw [Bool.eq_iff_iff, decide_eq_true_iff, unpacked_of_isFinite hx]
  by_cases hzero : x.significand = 0
  · rw [dif_pos hzero]
    refine iff_of_true rfl ?_
    rw [wholePart_eq_zero hzero]
    exact Nat.two_pow_pos 53
  · rw [dif_neg hzero]
    exact x.lt_limit_iff (Nat.pos_of_ne_zero hzero)

theorem toInt_unpacked (hx : x.isFinite) (hlimit : x.wholePart < 2 ^ 53) :
    x.unpacked.toInt64.toInt = x.toInt := by
  refine toInt_toInt64 (x.natAbs_toInt.trans_lt hlimit) ?_
  rw [unpacked_of_isFinite hx]
  by_cases hzero : x.significand = 0
  · rw [dif_pos hzero, toInt, wholePart_eq_zero hzero]
    exact (ite_self _).symm
  · rw [dif_neg hzero]
    exact x.roundToInt_eq

end Binary64

namespace Json

open Binary64

variable {x y : Binary64}

/-- What is written for a number, as the arithmetic of its format decides it. -/
def ofArithmetic (x : Binary64) : Json :=
  let v := x.unpacked
  if (fractionOf v).beq (.zero .positive) && v.abs.lt limit.unpacked then .int v.toInt64.toInt
  else if v.isFinite then .float x
  else .null

/-- **The arithmetic is exact** where it decides what is written. -/
theorem ofBinary64_eq_ofArithmetic (x : Binary64) : ofBinary64 x = ofArithmetic x := by
  unfold ofBinary64 ofArithmetic
  simp only [isFinite_unpacked]
  by_cases hx : x.isFinite
  · rw [fractionOf_unpacked hx, abs_unpacked_lt hx]
    by_cases hwhole : x.isIntegral && x.wholePart < 2 ^ 53
    · have hlimit : x.wholePart < 2 ^ 53 := of_decide_eq_true (Bool.and_eq_true_iff.mp hwhole).2
      rw [if_pos hwhole, toInt_unpacked hx hlimit]
      exact if_pos hwhole
    · rw [if_neg hwhole]
      exact if_neg hwhole
  · have hfraction : (fractionOf x.unpacked).beq (.zero .positive) = false := by
      rw [fractionOf_unpacked_of_not_isFinite hx]
      rfl
    rw [hfraction, isIntegral_eq_false hx]
    rfl

/-! ### What is written -/

theorem isIntegral_of_value_eq (hx : x.isFinite) {n : Int} (h : x.value = n) :
    x.isIntegral ∧ x.toInt = n := by
  have hdenominator : (x.denominator : ℚ) ≠ 0 := Nat.cast_ne_zero.mpr x.denominator_pos.ne'
  have hnumerator : x.numerator = n.natAbs * x.denominator := by
    have habs := x.abs_value
    rw [h, eq_div_iff hdenominator, ← Int.cast_abs, ← Nat.cast_natAbs] at habs
    exact_mod_cast habs.symm
  have hintegral : x.isIntegral := by
    rw [isIntegral_iff, hnumerator]
    exact ⟨hx, Nat.mul_mod_left _ _⟩
  refine ⟨hintegral, ?_⟩
  rw [value_eq_toInt hintegral] at h
  exact_mod_cast h

/-- **What is written**: nothing for what has no value, a whole number for one below the limit, and
all else as it is. -/
theorem ofBinary64_by_reading (x : Binary64) :
    (x.reading? = none ∧ ofBinary64 x = .null) ∨
    (∃ n : Int, x.reading? = some (n : ℚ) ∧ |n| < 2 ^ 53 ∧ ofBinary64 x = .int n) ∨
    (∃ q, x.reading? = some q ∧ (∀ n : Int, q = n → 2 ^ 53 ≤ |n|) ∧ ofBinary64 x = .float x) := by
  rw [reading?_eq]
  by_cases hx : x.isFinite
  · rw [if_pos hx]
    by_cases hwhole : x.isIntegral && x.wholePart < exactLimit
    · have hsmall := Bool.and_eq_true_iff.mp hwhole
      have hlimit : x.wholePart < 2 ^ 53 := of_decide_eq_true hsmall.2
      refine .inr (.inl ⟨x.toInt, congrArg some (value_eq_toInt hsmall.1), ?_, if_pos hwhole⟩)
      rw [Int.abs_eq_natAbs, natAbs_toInt]
      exact_mod_cast hlimit
    · refine .inr (.inr ⟨x.value, rfl, fun n hn => ?_, (if_neg hwhole).trans (if_pos hx)⟩)
      obtain ⟨hintegral, htoInt⟩ := isIntegral_of_value_eq hx hn
      have hlimit : ¬ x.wholePart < 2 ^ 53 := fun hlt =>
        hwhole (Bool.and_eq_true_iff.mpr ⟨hintegral, decide_eq_true hlt⟩)
      rw [← htoInt, Int.abs_eq_natAbs, natAbs_toInt]
      exact_mod_cast Nat.le_of_not_lt hlimit
  · rw [if_neg hx]
    refine .inl ⟨rfl, ?_⟩
    rw [ofBinary64, isIntegral_eq_false hx]
    exact if_neg hx

theorem ofBinary64_eq_null_iff : ofBinary64 x = .null ↔ x.reading? = none := by
  rcases ofBinary64_by_reading x with ⟨hr, hw⟩ | ⟨n, hr, hn, hw⟩ | ⟨q, hr, hq, hw⟩ <;> rw [hw, hr]
  · exact iff_of_true rfl rfl
  · exact iff_of_false nofun nofun
  · exact iff_of_false nofun nofun

theorem ofBinary64_eq_int_iff {m : Int} :
    ofBinary64 x = .int m ↔ x.reading? = some (m : ℚ) ∧ |m| < 2 ^ 53 := by
  rcases ofBinary64_by_reading x with ⟨hr, hw⟩ | ⟨n, hr, hn, hw⟩ | ⟨q, hr, hq, hw⟩ <;> rw [hw, hr]
  · exact iff_of_false nofun fun h => nomatch h.1
  · rw [Json.int.injEq, Option.some_inj, Int.cast_inj]
    exact ⟨fun h => ⟨h, h ▸ hn⟩, fun h => h.1⟩
  · refine iff_of_false nofun fun h => ?_
    exact absurd h.2 (not_lt_of_ge (hq m (Option.some.inj h.1)))

theorem ofBinary64_eq_float_iff : ofBinary64 x = .float y ↔
    y = x ∧ ∃ q, x.reading? = some q ∧ ∀ n : Int, q = n → 2 ^ 53 ≤ |n| := by
  rcases ofBinary64_by_reading x with ⟨hr, hw⟩ | ⟨n, hr, hn, hw⟩ | ⟨q, hr, hq, hw⟩ <;> rw [hw, hr]
  · exact iff_of_false nofun fun ⟨_, _, h, _⟩ => nomatch h
  · refine iff_of_false nofun fun ⟨_, q, h, hq⟩ => ?_
    exact absurd hn (not_lt_of_ge (hq n (Option.some.inj h).symm))
  · rw [Json.float.injEq]
    exact ⟨fun h => ⟨h.symm, q, rfl, hq⟩, fun h => h.1.symm⟩

/-- **The same is written** for what has the same value. -/
theorem ofBinary64_eq_iff : ofBinary64 x = ofBinary64 y ↔ x.reading? = y.reading? := by
  rcases ofBinary64_by_reading y with ⟨hr, hw⟩ | ⟨n, hr, hn, hw⟩ | ⟨q, hr, hq, hw⟩ <;> rw [hw, hr]
  · exact ofBinary64_eq_null_iff
  · rw [ofBinary64_eq_int_iff, and_iff_left hn]
  · rw [ofBinary64_eq_float_iff]
    refine ⟨fun h => h.1 ▸ hr, fun h => ?_⟩
    rcases eq_of_reading?_eq h hr with rfl | rfl
    · exact ⟨rfl, q, h, hq⟩
    · -- zero is a whole number below the limit
      exact absurd (hq 0 Int.cast_zero.symm) (by decide)

/-- **Numbers keep their value** when they are written, for every pattern. What is written is what
the arithmetic of the format decides on. Nothing is written for an infinity or what is not a number;
a whole number is written exactly for a pattern that stands for it and is below 2^53, and each
other number stays the pattern that it is. So the same is written for two patterns if and only if
the same value is read from them, or none: then they are one pattern or the two zeros. -/
theorem numbers_keep_their_value (x y : Binary64) :
    ofBinary64 x = ofArithmetic x ∧
    (ofBinary64 x = .null ↔ x.unpacked = .notANumber ∨ ∃ s, x.unpacked = .infinity s) ∧
    (∀ n : Int, ofBinary64 x = .int n ↔ x.reading? = some (n : ℚ) ∧ |n| < 2 ^ 53) ∧
    (∀ z, ofBinary64 x = .float z ↔
      z = x ∧ ∃ q, x.reading? = some q ∧ ∀ n : Int, q = n → 2 ^ 53 ≤ |n|) ∧
    (ofBinary64 x = ofBinary64 y ↔ x.reading? = y.reading?) ∧
    (x.reading? = y.reading? ↔ x = y ∨ (x.reading? = none ∧ y.reading? = none) ∨
      ∃ s s', x.unpacked = .zero s ∧ y.unpacked = .zero s') := by
  refine ⟨ofBinary64_eq_ofArithmetic x, ?_, fun n => ofBinary64_eq_int_iff,
    fun z => ofBinary64_eq_float_iff, ofBinary64_eq_iff, reading?_eq_reading?_iff⟩
  rw [ofBinary64_eq_null_iff, reading?_eq_none_iff]

/-- The limit itself is a whole number, and is written as it is. -/
example : ofBinary64 limit = .float limit := rfl

end Json

end MaxPatch
