/-! # Pixels: positions and sizes

Positions and sizes are unsigned 32-bit numbers. The layouts add and multiply them without ever
wrapping around: a result that does not fit is the largest position, `Pixels.top`. The laws
`toNat_plus` and `toNat_times` say so in natural numbers.

A rectangle is its left upper corner and its size. -/

namespace MaxPatch

/-- A position or a size. -/
abbrev Pixels := UInt32

namespace Pixels

/-- The largest position. -/
def top : Nat := 0xFFFFFFFF

/-- A natural number as a position, at most the largest. -/
def clamp (n : Nat) : Pixels := UInt32.ofNat (min n top)

/-- The sum, at most the largest position. -/
def plus (a b : Pixels) : Pixels := clamp (a.toNat + b.toNat)

/-- The product, at most the largest position. -/
def times (a b : Pixels) : Pixels := clamp (a.toNat * b.toNat)

@[simp] theorem toNat_clamp (n : Nat) : (clamp n).toNat = min n top := by
  have h : min n top < 2 ^ 32 := Nat.lt_of_le_of_lt (Nat.min_le_right n top) (by decide)
  simp only [clamp, UInt32.toNat_ofNat']
  exact Nat.mod_eq_of_lt h

theorem toNat_plus (a b : Pixels) : (plus a b).toNat = min (a.toNat + b.toNat) top := by simp [plus]

theorem toNat_times (a b : Pixels) : (times a b).toNat = min (a.toNat * b.toNat) top := by
  simp [times]

end Pixels

/-- A rectangle: its left upper corner and its size. -/
structure Rect where
  x : Pixels
  y : Pixels
  width : Pixels
  height : Pixels
  deriving DecidableEq, Repr

namespace Rect

/-- The rectangle of the same size at another corner. -/
def movedTo (r : Rect) (x y : Pixels) : Rect := { r with x, y }

end Rect

end MaxPatch
