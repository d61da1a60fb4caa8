import MaxPatch.Binary64

/-! # Shortest decimals: the fewest digits that read back

The numbers that round to a given pattern fill an interval around its value, half a unit of the last
place to each side, and a quarter below a power of two; its ends belong to it when the significand
is even. Of the decimals in that interval `shortest` picks one with the fewest digits, and of those
the one nearest to the value; when two are equally near it picks the even one.

Everything is computed with natural numbers. The interval is measured in quarters of the unit of the
last place, and a decimal `d * 10 ^ k` is compared with it after both are brought to one
denominator.

`Binary64.text` writes the decimal: positional where the exponent of the first digit lies in
`positionalFrom .. positionalTo`, and scientific elsewhere. -/

namespace MaxPatch.Binary64

/-! ## The interval -/

/-- The value of a finite pattern in quarters of its last place. -/
def quarters (x : Binary64) : Nat := 4 * x.significand

/-- The upper end of the interval, in quarters of the last place. -/
def upperEnd (x : Binary64) : Nat := x.quarters + 2

/-- The lower end of the interval: below a power of two the patterns lie twice as dense. -/
def lowerEnd (x : Binary64) : Nat :=
  if x.fraction = 0 ∧ 1 < x.exponentField then x.quarters - 1 else x.quarters - 2

/-- The size of `n` quarters of the last place, as a multiple of `10 ^ k` over `gridDenominator`. -/
def gridNumerator (x : Binary64) (k : Int) (n : Nat) : Nat :=
  n * twoTo (x.scale - 1075) * tenTo (-k).toNat

/-- The denominator that goes with `gridNumerator`. -/
def gridDenominator (x : Binary64) (k : Int) : Nat :=
  4 * x.denominator * tenTo k.toNat

/-- Whether `d * 10 ^ k` reads back as `x`. -/
def readsBack (x : Binary64) (k : Int) (d : Nat) : Bool :=
  let low := x.gridNumerator k x.lowerEnd
  let high := x.gridNumerator k x.upperEnd
  let here := d * x.gridDenominator k
  if x.significand % 2 = 0 then low ≤ here && here ≤ high else low < here && here < high

/-! ## The search -/

/-- The decimal on the grid of multiples of `10 ^ k` that reads back as `x` and is nearest to it:
one of the two neighbours of the value, if any. -/
def onGrid (x : Binary64) (k : Int) : Option Nat :=
  let n := x.gridNumerator k x.quarters
  let d := x.gridDenominator k
  let below := n / d
  match x.readsBack k below, x.readsBack k (below + 1) with
  | true, true => some (nearest n d)
  | true, false => some below
  | false, true => some (below + 1)
  | false, false => none

/-- How many decimal digits `n` has; zero has none. -/
def digitCount (n : Nat) : Nat := if n = 0 then 0 else (Nat.toDigits 10 n).length

/-- The exponent of the first decimal digit of the value of a finite pattern other than zero. -/
def leadingExponent (x : Binary64) : Int :=
  if x.denominator ≤ x.numerator then digitCount (x.numerator / x.denominator) - 1
  else -(digitCount ((x.denominator - 1) / x.numerator) : Int)

/-- The first grid, from one digit to seventeen, that holds a decimal which reads back. -/
def shortest (x : Binary64) : Nat × Int :=
  let e := x.leadingExponent
  let found := (List.range 17).findSome? fun (n : Nat) =>
    let k := e - n
    (x.onGrid k).map fun d => (d, k)
  found.getD (0, 0)

/-! ## Writing -/

/-- The least exponent of the first digit that is written positionally. -/
def positionalFrom : Int := -5

/-- The greatest exponent of the first digit that is written positionally. -/
def positionalTo : Int := 15

/-- The digits `ds`, the first of weight `10 ^ e`, with at least one digit after the point. -/
def positional (ds : List Char) (e : Int) : List Char :=
  if e < 0 then '0' :: '.' :: (List.replicate (-e - 1).toNat '0' ++ ds)
  else
    let whole := e.toNat + 1
    let after := ds.drop whole
    (ds.take whole).rightpad whole '0' ++ '.' :: (if after = [] then ['0'] else after)

/-- The digits `ds`, the first of them of weight `10 ^ e`, with the point after the first digit and
the exponent with its sign behind. -/
def scientific (ds : List Char) (e : Int) : List Char :=
  let head := match ds with
    | [] => []
    | [d] => [d]
    | d :: rest => d :: '.' :: rest
  let sign := if e < 0 then '-' else '+'
  head ++ 'e' :: sign :: Nat.toDigits 10 e.natAbs

/-- The text of the absolute value of a finite pattern. -/
def magnitudeText (x : Binary64) : List Char :=
  if x.significand = 0 then ['0', '.', '0'] else
    let (d, k) := x.shortest
    let all := Nat.toDigits 10 d
    let e := k + all.length - 1
    let ds := (all.reverse.dropWhile (· = '0')).reverse
    if positionalFrom ≤ e ∧ e ≤ positionalTo then positional ds e else scientific ds e

/-- The text of a finite pattern. -/
def text (x : Binary64) : String :=
  String.ofList (if x.isNegative then '-' :: x.magnitudeText else x.magnitudeText)

end MaxPatch.Binary64
