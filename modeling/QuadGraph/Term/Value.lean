import QuadGraph.Double.Reading
import QuadGraph.Double.Shortest
import QuadGraph.Moment
import QuadGraph.Term.Order
import QuadGraph.Unicode.CharSet

/-!
# Raw values

Wherever a term is expected a plain value may be given: text, numbers,
booleans, moments, lists. Each becomes a literal of its datatype, and a list
becomes a collection.
-/

namespace QuadGraph

inductive Value where
  | term (term : Term)
  | text (text : String)
  | integer (n : Int)
  | float (d : Double)
  | lexical (text : String)
  | boolean (b : Bool)
  | moment (m : Moment)
  | list (values : List Value)
deriving Inhabited

/-- The datatype of a number that is given as text: a power of ten makes it a float,
a point a decimal. -/
def numericDatatype (text : String) : String :=
  if text.toList.any fun c => c = 'e' || c = 'E' then Xsd.float
  else if text.toList.contains '.' then Xsd.decimal
  else Xsd.integer

def numericLiteral (text : String) : Term := .typed text (numericDatatype text)

/-- The text of a finite double other than zero: whole numbers below 10^21 and numbers
from 10^-4 up to 10^16 have their digits in place, all others a power of ten. -/
def Double.text (d : Double) : String :=
  let shortest := d.shortest
  let inPlace :=
    if d.isWhole then decide (shortest.leading < 21)
    else decide (-4 ≤ shortest.leading ∧ shortest.leading < 16)
  let digits := if inPlace then shortest.positional else shortest.exponential
  String.ofList (if d.negative then '-' :: digits else digits)

def Double.toTerm (d : Double) : Term :=
  if d.isNaN then .typed "NaN" Xsd.float
  else if d.isInfinite then .typed (if d.negative then "-INF" else "INF") Xsd.float
  else if d.isZero then numericLiteral "0"
  else numericLiteral d.text

def Moment.toTerm (m : Moment) : Term := .typed m.text Xsd.dateTime

namespace Value

mutual

def toTerm : Value → Term
  | .term t => t
  | .text s => .plain s
  | .integer n => .typed (toString n) Xsd.integer
  | .float d => d.toTerm
  | .lexical s => numericLiteral s
  | .boolean b => .typed (if b then "true" else "false") Xsd.boolean
  | .moment m => m.toTerm
  | .list values => .collection (termsOf values)

def termsOf : List Value → List Term
  | [] => []
  | v :: vs => v.toTerm :: termsOf vs

end

end Value

/-! ## Numbers that terms denote -/

/-- The number that a value reads as, blanks at its ends aside. -/
def readNumber (value : String) : Option Double := Double.ofText? (trimBlanks value.toList)

/-- The number that a literal denotes, if its value reads as one. -/
def Literal.number? (l : Literal) : Option Double :=
  if l.value = "INF" then some (.infinity false)
  else if l.value = "-INF" then some (.infinity true)
  else readNumber l.value

/-- What two terms are compared by when they are not both numbers. -/
def Term.lexical : Term → String
  | .literal l => l.value
  | .named iri => iri
  | .blank label => label
  | t => t.key

/-- The order of two terms by value: as numbers if both read as numbers, otherwise as
text. Only a NaN has none. -/
def Term.compareValues? (a b : Term) : Option Ordering :=
  match a.literal?.bind fun l => readNumber l.value, b.literal?.bind fun l => readNumber l.value with
  | some x, some y => x.compare? y
  | _, _ => some (compare a.lexical b.lexical)

end QuadGraph
