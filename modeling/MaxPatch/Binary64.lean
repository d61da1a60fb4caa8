/-! # Binary64: numbers in the 64-bit binary format

A number is its 64-bit pattern: a sign bit, 11 bits of exponent field and 52 bits of fraction. A
finite pattern stands for the rational `± numerator / denominator`, where the numerator is the
significand scaled by a power of two and the denominator is a power of two; everything else about a
pattern is computed from these natural numbers, so no statement about a number needs floating-point
arithmetic.

`ofRatio` rounds a ratio to the nearest pattern, a tie going to the even one; decimal literals are
read through it. -/

namespace MaxPatch

/-- Two to the power of `n`. -/
abbrev twoTo (n : Nat) : Nat := Nat.pow 2 n

/-- Ten to the power of `n`. -/
abbrev tenTo (n : Nat) : Nat := Nat.pow 10 n

/-- A number of the 64-bit binary format, given by its bits. -/
structure Binary64 where
  bits : UInt64
  deriving DecidableEq, Repr, Inhabited

namespace Binary64

/-! ## Fields -/

/-- The bits read as a natural number. -/
def word (x : Binary64) : Nat := x.bits.toNat

/-- The sign bit. -/
def isNegative (x : Binary64) : Bool := twoTo 63 ≤ x.word

/-- The 11 bits of the exponent field. -/
def exponentField (x : Binary64) : Nat := x.word / twoTo 52 % twoTo 11

/-- The 52 bits of the fraction. -/
def fraction (x : Binary64) : Nat := x.word % twoTo 52

/-- An exponent field of all ones marks the infinities and what is not a number. -/
def isFinite (x : Binary64) : Bool := x.exponentField ≠ 2047

/-- The significand: the fraction, behind a hidden bit unless the exponent field is zero. -/
def significand (x : Binary64) : Nat :=
  if x.exponentField = 0 then x.fraction else twoTo 52 + x.fraction

/-- The exponent field as it counts: a field of zero has the scale of one. -/
def scale (x : Binary64) : Nat := max x.exponentField 1

/-! ## Value -/

/-- The numerator of the absolute value of a finite pattern. -/
def numerator (x : Binary64) : Nat := x.significand * twoTo (x.scale - 1075)

/-- The denominator of the absolute value of a finite pattern, a power of two. -/
def denominator (x : Binary64) : Nat := twoTo (1075 - x.scale)

/-- Whether a pattern stands for a whole number. -/
def isIntegral (x : Binary64) : Bool := x.isFinite && x.numerator % x.denominator = 0

/-- The absolute value without its fractional part. -/
def wholePart (x : Binary64) : Nat := x.numerator / x.denominator

/-- The value rounded towards zero. -/
def toInt (x : Binary64) : Int := if x.isNegative then -(x.wholePart : Int) else x.wholePart

theorem word_lt_twoTo (x : Binary64) : x.word < twoTo 64 := x.bits.toNat_lt

theorem denominator_pos (x : Binary64) : 0 < x.denominator := Nat.two_pow_pos _

/-! ## Rounding a ratio -/

/-- The whole number nearest to `n / d`, a tie going to the even one. -/
def nearest (n d : Nat) : Nat :=
  let q := n / d
  let r := n % d
  if 2 * r < d ∨ (2 * r = d ∧ q % 2 = 0) then q else q + 1

/-- The pattern nearest to `n / d`, for positive `d`; a ratio beyond the largest finite pattern
gives infinity. The unit of the last place is chosen so that the quotient has 53 bits, and no finer
than the unit of the smallest patterns. -/
def ofRatio (n d : Nat) : Binary64 :=
  if n = 0 then ⟨0⟩ else
    let guess : Int := (n.log2 : Int) - d.log2 - 52
    let fits : Bool := twoTo 52 * twoTo guess.toNat * d ≤ n * twoTo (-guess).toNat
    let unit : Int := max (if fits then guess else guess - 1) (-1074)
    let m := nearest (n * twoTo (-unit).toNat) (d * twoTo unit.toNat)
    let word := (unit + 1074).toNat * twoTo 52 + m
    ⟨UInt64.ofNat (min word (2047 * twoTo 52))⟩

/-- The pattern with the opposite sign. -/
def neg (x : Binary64) : Binary64 := ⟨x.bits ^^^ 0x8000000000000000⟩

/-- The pattern nearest to `mantissa * 10 ^ exponent`, or to `mantissa / 10 ^ exponent`. -/
def ofDecimal (mantissa : Nat) (divide : Bool) (exponent : Nat) : Binary64 :=
  if divide then ofRatio mantissa (tenTo exponent) else ofRatio (mantissa * tenTo exponent) 1

instance : OfScientific Binary64 where
  ofScientific := ofDecimal

instance (n : Nat) : OfNat Binary64 n where
  ofNat := ofRatio n 1

instance : Neg Binary64 where
  neg := neg

end Binary64

end MaxPatch
