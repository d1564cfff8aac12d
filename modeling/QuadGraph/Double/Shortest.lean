import QuadGraph.Double.Basic

/-!
# Shortest digits

The decimal with the fewest digits that reads back as a given double, and of
those the nearest one. The reals that round to the double form an interval
around it, with its ends if the significand is even; for one digit, two digits and
so on, the two neighbours of the value on the grid of that many digits are
tried.
-/

namespace QuadGraph

/-- The number digits · 10^exponent. -/
structure Decimal where
  digits : Nat
  exponent : Int
deriving DecidableEq, Repr, Inhabited

namespace Double

/-- Whether the neighbour below is half as far away as the one above. -/
def narrowBelow (d : Double) : Bool :=
  d.significand == exponentUnit && decide (leastExponent < d.exponent)

/-- Whether n · 10^p lies in the interval of the reals that round to the double. -/
def readsBack (d : Double) (n : Nat) (p : Int) : Bool :=
  let m := d.significand
  -- four times the ends of the interval, in units of 2^q
  let low := 4 * m - (if d.narrowBelow then 1 else 2)
  let high := 4 * m + 2
  let (lowNum, lowDen) := scaled low 2 d.exponent
  let (highNum, highDen) := scaled high 2 d.exponent
  let (num, den) := scaled (4 * n) 10 p
  let fromLow := compare (lowNum * den) (num * lowDen)
  let toHigh := compare (num * highDen) (highNum * den)
  if m % 2 = 0 then fromLow.isLE && toHigh.isLE else fromLow.isLT && toHigh.isLT

/-- The integer part of the decimal logarithm of a positive quotient. -/
def log10 (num den : Nat) : Int :=
  if den ≤ num then (Nat.toDigits 10 (num / den)).length - 1
  else
    let t := (Nat.toDigits 10 (den / num)).length
    if den ≤ num * Nat.pow 10 (t - 1) then -((t : Int) - 1) else -(t : Int)

/-- The nearer of the two neighbours of the value on the grid of the multiples of 10^p,
among those that read back; a tie goes up. -/
def onGrid (d : Double) (p : Int) : Option Nat :=
  let (num, den) := divideBy d.quotient.1 d.quotient.2 10 p
  let below := num / den
  let rest := num % den
  let up := d.readsBack (below + 1) p
  if d.readsBack below p then some (if up && decide (den ≤ 2 * rest) then below + 1 else below)
  else if up then some (below + 1)
  else none

/-- Trailing zeros go into the exponent. -/
def stripZeros : Nat → Nat → Int → Decimal
  | 0, n, p => ⟨n, p⟩
  | fuel + 1, n, p => if n % 10 = 0 then stripZeros fuel (n / 10) (p + 1) else ⟨n, p⟩

/-- The absolute value of a finite double other than zero. Seventeen digits always
read back. -/
def shortest (d : Double) : Decimal :=
  let top := log10 d.quotient.1 d.quotient.2
  let found := (List.range 17).findSome? fun (i : Nat) =>
    (d.onGrid (top - i)).map fun n => stripZeros 17 n (top - i)
  found.getD ⟨0, 0⟩

end Double

namespace Decimal

def digitList (d : Decimal) : List Char := Nat.toDigits 10 d.digits

def leading (d : Decimal) : Int := d.digitList.length - 1 + d.exponent

/-- The digits in their places, with a point before the tenths. -/
def positional (d : Decimal) : List Char :=
  let ds := d.digitList
  if 0 ≤ d.exponent then ds ++ List.replicate d.exponent.toNat '0'
  else if 0 ≤ d.leading then
    ds.take (d.leading.toNat + 1) ++ '.' :: ds.drop (d.leading.toNat + 1)
  else '0' :: '.' :: (List.replicate (-d.leading - 1).toNat '0' ++ ds)

/-- One digit, the others after a point, and the power of ten of the first. -/
def exponential (d : Decimal) : List Char :=
  let fraction :=
    match d.digitList.tail with
    | [] => []
    | ds => '.' :: ds
  d.digitList.take 1 ++ fraction ++ 'e' :: (toString d.leading).toList

end Decimal

end QuadGraph
