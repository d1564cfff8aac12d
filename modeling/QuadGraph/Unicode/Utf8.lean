import QuadGraph.Unicode.CharSet

/-!
# Characters as bytes

The bytes that encode a character, and the encodings of an interval of
characters as sequences of ranges of bytes.
-/

namespace QuadGraph

namespace Utf8

def bytes (code : Nat) : List Nat :=
  if code < 0x80 then [code]
  else if code < 0x800 then [0xc0 + code / 0x40, 0x80 + code % 0x40]
  else if code < 0x10000 then
    [0xe0 + code / 0x1000, 0x80 + code / 0x40 % 0x40, 0x80 + code % 0x40]
  else
    [0xf0 + code / 0x40000, 0x80 + code / 0x1000 % 0x40, 0x80 + code / 0x40 % 0x40,
      0x80 + code % 0x40]

abbrev ByteRange := Nat × Nat

/-- Where code points begin that have one byte more than those before. -/
def lengthBounds : List Nat := [0x80, 0x800, 0x10000]

/-- Where to cut an interval whose code points have encodings of equal length, so that the
parts below and above have ends that agree with a block of the given size. -/
def blockCut? (a : Interval) (size : Nat) : Option Nat :=
  if a.first / size = a.last / size then none
  else if a.first % size != 0 then some ((a.first / size + 1) * size)
  else if a.last % size != size - 1 then some (a.last / size * size)
  else none

/-- Where to cut an interval that is not encoded by one sequence of ranges. -/
def cut? (a : Interval) : Option Nat :=
  match lengthBounds.find? fun bound => a.first < bound && decide (bound ≤ a.last) with
  | some bound => some bound
  | none =>
    if a.last < 0x80 then none
    else [0x40, 0x1000, 0x40000].findSome? (blockCut? a)

/-- The sequences of an interval without surrogates, cut at most so many times along the
way to each. -/
def sequencesWithin : Nat → Interval → List (List ByteRange)
  | 0, a => [(bytes a.first).zip (bytes a.last)]
  | cuts + 1, a =>
    match cut? a with
    | none => [(bytes a.first).zip (bytes a.last)]
    | some bound =>
      sequencesWithin cuts ⟨a.first, bound - 1⟩ ++ sequencesWithin cuts ⟨bound, a.last⟩

/-- Three cuts by length and two for each size of blocks are enough. -/
def cutLimit : Nat := 9

/-- The sequences that together encode the characters of an interval, in order. -/
def sequences (a : Interval) : List (List ByteRange) :=
  if a.first < 0xe000 && decide (0xd7ff < a.last) then
    sequencesWithin cutLimit ⟨a.first, 0xd7ff⟩ ++ sequencesWithin cutLimit ⟨0xe000, a.last⟩
  else sequencesWithin cutLimit a

end Utf8

end QuadGraph
