/-!
# Double-precision numbers

A double is a 64-bit word of IEEE 754. Its finite values are m · 2^q with
integers m and q, and all that is done with them here is exact arithmetic on m
and q: the order, and rounding a quotient to the nearest double.
-/

namespace QuadGraph

structure Double where
  bits : UInt64
deriving DecidableEq, Repr, Inhabited

namespace Double

/-- The place of the sign in the word. -/
def signUnit : Nat := 0x8000000000000000

/-- The place of the exponent in the word: 2^52. It is also the least significand of a normal
number. -/
def exponentUnit : Nat := 0x10000000000000

def negative (d : Double) : Bool := decide (signUnit ≤ d.bits.toNat)

/-- The word without its sign. It grows with the absolute value of the number. -/
def magnitude (d : Double) : Nat := d.bits.toNat % signUnit

/-- The magnitude of an infinity; every greater one is a NaN. -/
def infinite : Nat := 0x7ff * exponentUnit

def ofMagnitude (negative : Bool) (magnitude : Nat) : Double :=
  ⟨UInt64.ofNat (if negative then signUnit + magnitude else magnitude)⟩

def infinity (negative : Bool) : Double := ofMagnitude negative infinite

def nan : Double := ⟨0xfff8000000000000⟩

def isNaN (d : Double) : Bool := decide (infinite < d.magnitude)

def isInfinite (d : Double) : Bool := d.magnitude == infinite

def isZero (d : Double) : Bool := d.magnitude == 0

/-- The least power of two that a double is a multiple of is 2^-1074. -/
def leastExponent : Int := -1074

/-- The m of the absolute value m · 2^q of a finite double. -/
def significand (d : Double) : Nat :=
  if d.magnitude < exponentUnit then d.magnitude
  else exponentUnit + d.magnitude % exponentUnit

/-- The q of the absolute value m · 2^q of a finite double. -/
def exponent (d : Double) : Int :=
  if d.magnitude < exponentUnit then leastExponent
  else leastExponent + Int.ofNat (d.magnitude / exponentUnit) - 1

/-- A product n · b^e with an integer e, as a quotient of naturals. -/
def scaled (n b : Nat) (e : Int) : Nat × Nat :=
  if e < 0 then (n, b.pow e.natAbs) else (n * b.pow e.natAbs, 1)

/-- A quotient divided by b^e with an integer e. -/
def divideBy (num den b : Nat) (e : Int) : Nat × Nat :=
  if e < 0 then (num * b.pow e.natAbs, den) else (num, den * b.pow e.natAbs)

def quotient (d : Double) : Nat × Nat := scaled d.significand 2 d.exponent

def isWhole (d : Double) : Bool := d.quotient.1 % d.quotient.2 == 0

/-! ## Order -/

/-- The place of a number on the line; both zeros are at 0. -/
def place (d : Double) : Int := if d.negative then -d.magnitude else d.magnitude

/-- A NaN is not ordered. -/
def compare? (a b : Double) : Option Ordering :=
  if a.isNaN || b.isNaN then none else some (compare a.place b.place)

/-! ## Rounding -/

/-- The integer nearest to a quotient; a half goes to the even neighbour. -/
def roundHalfEven (num den : Nat) : Nat :=
  let n := num / den
  let r := num % den
  if 2 * r < den then n
  else if den < 2 * r then n + 1
  else if n % 2 = 0 then n else n + 1

/-- The exponent q at which a positive quotient is rounded: the one that leaves 53
binary digits, or the least one. -/
def roundingExponent (num den : Nat) : Int :=
  let e : Int := (num.log2 : Int) - den.log2 - 52
  -- the quotient divided by 2^e lies between 2^51 and 2^53
  let (n, d) := divideBy num den 2 e
  let q := if n < d * exponentUnit then e - 1 else e
  if q < leastExponent then leastExponent else q

/-- The magnitude of the double nearest to a quotient. -/
def roundQuotient (num den : Nat) : Nat :=
  if num = 0 then 0
  else
    let q := roundingExponent num den
    let (n, d) := divideBy num den 2 q
    -- the leading digit of a normal number counts the exponent up by one
    let magnitude := (q - leastExponent).toNat * exponentUnit + roundHalfEven n d
    if magnitude < infinite then magnitude else infinite

/-- The double nearest to n · 10^e. Far beyond the greatest and the least double the
power of ten is not computed. -/
def ofDecimal (negative : Bool) (n : Nat) (e : Int) : Double :=
  let top := ((Nat.toDigits 10 n).length : Int) + e
  if n = 0 || top < -330 then ofMagnitude negative 0
  else if 310 < top then infinity negative
  else
    let (num, den) := scaled n 10 e
    ofMagnitude negative (roundQuotient num den)

end Double

end QuadGraph
