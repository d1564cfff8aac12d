/-!
# Sets of characters

A set is a list of intervals of code points, in order and with a gap between
neighbours. The operations go through the intervals side by side. An interval may
span the surrogates, which are no characters; the successor and the predecessor
of a code point skip them. Tables that give every code point a code are read
from lines of words.
-/

namespace QuadGraph

structure Interval where
  first : Nat
  last : Nat
deriving DecidableEq, Repr, Inhabited

namespace Interval

/-- The interval between two code points, whichever is the smaller one. -/
def between (a b : Nat) : Interval := if a ≤ b then ⟨a, b⟩ else ⟨b, a⟩

def before (a b : Interval) : Bool :=
  decide (a.first < b.first) || (a.first == b.first && decide (a.last ≤ b.last))

end Interval

structure CharSet where
  intervals : List Interval
deriving DecidableEq, Repr, Inhabited

namespace CharSet

def lastCode : Nat := 0x10ffff

def nextCode (n : Nat) : Nat := if n = 0xd7ff then 0xe000 else n + 1

def prevCode (n : Nat) : Nat := if n = 0xe000 then 0xd7ff else n - 1

/-- Joins intervals that overlap or follow one another to the one at hand. They are in
order. -/
def joinFrom : Interval → List Interval → List Interval
  | a, [] => [a]
  | a, b :: rest =>
    if b.first ≤ a.last + 1 then
      joinFrom ⟨a.first, if a.last < b.last then b.last else a.last⟩ rest
    else a :: joinFrom b rest

def join : List Interval → List Interval
  | [] => []
  | a :: rest => joinFrom a rest

def ofIntervals (is : List Interval) : CharSet := ⟨join (is.mergeSort Interval.before)⟩

def ofRanges (rs : List (Nat × Nat)) : CharSet := ofIntervals (rs.map fun r => ⟨r.1, r.2⟩)

def empty : CharSet := ⟨[]⟩

def all : CharSet := ⟨[⟨0, lastCode⟩]⟩

def ascii : CharSet := ⟨[⟨0, 0x7f⟩]⟩

def single (c : Char) : CharSet := ⟨[⟨c.toNat, c.toNat⟩]⟩

def ofChars (cs : List Char) : CharSet := ofIntervals (cs.map fun c => ⟨c.toNat, c.toNat⟩)

/-- Whether a code point lies in one of the intervals, which are in order. -/
def covers (code : Nat) : List Interval → Bool
  | [] => false
  | a :: rest => if code < a.first then false else decide (code ≤ a.last) || covers code rest

def contains (s : CharSet) (c : Char) : Bool := covers c.toNat s.intervals

def isEmpty (s : CharSet) : Bool := s.intervals.isEmpty

/-- The only character of a set that has one alone. -/
def single? (s : CharSet) : Option Char :=
  match s.intervals with
  | [a] => if a.first = a.last then some (Char.ofNat a.first) else none
  | _ => none

def isAscii (s : CharSet) : Bool := s.intervals.all fun a => decide (a.last < 0x80)

def union (a b : CharSet) : CharSet := ofIntervals (a.intervals ++ b.intervals)

def unionAll (ss : List CharSet) : CharSet := ofIntervals (ss.flatMap intervals)

def interIntervals : List Interval → List Interval → List Interval
  | a :: as, b :: bs =>
    let first := if a.first < b.first then b.first else a.first
    let last := if a.last < b.last then a.last else b.last
    let rest :=
      if a.last < b.last then interIntervals as (b :: bs) else interIntervals (a :: as) bs
    if first ≤ last then ⟨first, last⟩ :: rest else rest
  | _, _ => []
termination_by as bs => as.length + bs.length

def inter (a b : CharSet) : CharSet := ⟨interIntervals a.intervals b.intervals⟩

def diffIntervals : List Interval → List Interval → List Interval
  | [], _ => []
  | as, [] => as
  | a :: as, b :: bs =>
    if b.last < a.first then diffIntervals (a :: as) bs
    else if a.last < b.first then a :: diffIntervals as (b :: bs)
    else
      let rest :=
        if b.last < a.last then diffIntervals (.between (nextCode b.last) a.last :: as) bs
        else diffIntervals as (b :: bs)
      if a.first < b.first then .between a.first (prevCode b.first) :: rest else rest
termination_by as bs => as.length + bs.length

def diff (a b : CharSet) : CharSet := ⟨diffIntervals a.intervals b.intervals⟩

/-- The gaps after an interval. -/
def gapsFrom : Interval → List Interval → List Interval
  | a, [] => if a.last < lastCode then [.between (nextCode a.last) lastCode] else []
  | a, b :: rest => .between (nextCode a.last) (prevCode b.first) :: gapsFrom b rest

/-- The gaps between the intervals. Next to the surrogates a gap can turn over: it then
has the characters on both sides of them. -/
def gaps : List Interval → List Interval
  | [] => [⟨0, lastCode⟩]
  | a :: rest =>
    if 0 < a.first then .between 0 (prevCode a.first) :: gapsFrom a rest else gapsFrom a rest

def compl (s : CharSet) : CharSet := ⟨gaps s.intervals⟩

def symmDiff (a b : CharSet) : CharSet := diff (union a b) (inter a b)

/-! ## Words -/

def hexDigitValue (c : Char) : Nat := if c.isDigit then c.toNat - 48 else c.toNat - 87

def hexValue (cs : List Char) : Nat := cs.foldl (fun n c => 16 * n + hexDigitValue c) 0

def decimalValue (cs : List Char) : Nat := cs.foldl (fun n c => 10 * n + (c.toNat - 48)) 0

/-- A word of a table: a code point, or two with a hyphen between them for all from one to
the other, or with a stroke and a number after them for those at that distance. -/
def readWord (word : List Char) : List Interval :=
  let first := hexValue (word.takeWhile (· != '-'))
  match word.dropWhile (· != '-') with
  | _ :: rest =>
    let last := hexValue (rest.takeWhile (· != '/'))
    match rest.dropWhile (· != '/') with
    | _ :: digits =>
      let step := decimalValue digits
      (List.range ((last - first) / step + 1)).map fun i => ⟨first + i * step, first + i * step⟩
    | [] => [⟨first, last⟩]
  | [] => [⟨first, first⟩]

def ofLines (lines : List String) : CharSet :=
  ofIntervals (lines.flatMap fun line => (line.splitOn " ").flatMap fun w => readWord w.toList)

end CharSet

/-! ## Blank characters -/

/-- The ranges of the Unicode property White_Space. -/
def blankRanges : List (Nat × Nat) :=
  [(0x09, 0x0d), (0x20, 0x20), (0x85, 0x85), (0xa0, 0xa0), (0x1680, 0x1680), (0x2000, 0x200a),
   (0x2028, 0x2029), (0x202f, 0x202f), (0x205f, 0x205f), (0x3000, 0x3000)]

def isBlankChar (c : Char) : Bool :=
  blankRanges.any fun r => decide (r.1 ≤ c.toNat) && decide (c.toNat ≤ r.2)

/-- The characters between the blanks at the two ends. -/
def trimBlanks (cs : List Char) : List Char :=
  ((cs.dropWhile isBlankChar).reverse.dropWhile isBlankChar).reverse

/-! ## Runs of code points

Lines that give every code point a code of letters, written as runs: words of
the letters and the number of code points that follow one another with them.
-/

/-- The code points from one place on that have the same code. -/
structure Run where
  code : String
  interval : Interval
deriving Repr, Inhabited

namespace Run

/-- The runs of the words, the first of which begins at a code point. -/
def ofWords : List String → Nat → List Run
  | [], _ => []
  | word :: words, start =>
    let code := String.ofList (word.toList.takeWhile Char.isAlpha)
    let length := CharSet.decimalValue (word.toList.dropWhile Char.isAlpha)
    ⟨code, ⟨start, start + length - 1⟩⟩ :: ofWords words (start + length)

def ofLines (lines : List String) : List Run :=
  ofWords (lines.flatMap fun line => line.splitOn " ") 0

/-- The code points whose code is one of those given. -/
def setOf (runs : List Run) (codes : List String) : CharSet :=
  .ofIntervals (runs.filterMap fun r => if codes.contains r.code then some r.interval else none)

end Run

end QuadGraph
