import QuadGraph.Double.Basic

/-!
# Reading doubles

A number is written with an optional sign, digits with at most one point among
or beside them, and an optional power of ten; or as one of the words inf,
infinity and nan in any case. It denotes the nearest double.
-/

namespace QuadGraph

namespace Double

def digitsValue (ds : List Char) : Nat :=
  ds.foldl (fun n c => 10 * n + (c.toNat - 48)) 0

def isDigit (c : Char) : Bool := decide ('0' ≤ c) && decide (c ≤ '9')

/-- An optional sign: whether it is a minus, and what follows. -/
def readSign : List Char → Bool × List Char
  | '-' :: rest => (true, rest)
  | '+' :: rest => (false, rest)
  | cs => (false, cs)

/-- The power of ten after a number: nothing, or an e with an integer. -/
def readPower : List Char → Option Int
  | [] => some 0
  | e :: rest =>
    let (minus, ds) := readSign rest
    if (e = 'e' || e = 'E') && !ds.isEmpty && ds.all isDigit then
      some (if minus then -(digitsValue ds : Int) else digitsValue ds)
    else none

def readUnsigned (minus : Bool) (cs : List Char) : Option Double :=
  let whole := cs.takeWhile isDigit
  let afterWhole := cs.dropWhile isDigit
  let (fraction, afterFraction) :=
    match afterWhole with
    | '.' :: rest => (rest.takeWhile isDigit, rest.dropWhile isDigit)
    | rest => ([], rest)
  if whole.isEmpty && fraction.isEmpty then none
  else (readPower afterFraction).map fun power =>
    ofDecimal minus (digitsValue (whole ++ fraction)) (power - fraction.length)

def ofText? (text : List Char) : Option Double :=
  let (minus, cs) := readSign text
  let word := String.ofList (cs.map Char.toLower)
  if word = "inf" || word = "infinity" then some (infinity minus)
  else if word = "nan" then some nan
  else readUnsigned minus cs

end Double

end QuadGraph
