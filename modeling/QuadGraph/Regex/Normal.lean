import QuadGraph.Regex.Basic

/-!
# Normal forms

Expressions are put together through functions that simplify at the joints:
neighbouring literals become one, nested sequences and alternatives are flat,
alternatives of single characters are a set, and what all alternatives begin
with is written once.
-/

namespace QuadGraph

namespace Regex

def never : Regex := .set .empty true

def ofSet (s : CharSet) (ofBytes : Bool) : Regex :=
  if s.isEmpty then never
  else
    match s.single? with
    | some c => .literal [c]
    | none => .set s ofBytes

/-! ## Lengths -/

def byteLength (cs : List Char) : Nat := cs.foldl (fun n c => n + (Utf8.bytes c.toNat).length) 0

def sum? : Option Nat → Option Nat → Option Nat
  | some a, some b => some (a + b)
  | _, _ => none

/-- The lesser of the lengths of two alternatives, if both have one. -/
def lesser? : Option Nat → Option Nat → Option Nat
  | some a, some b => some (if a < b then a else b)
  | _, _ => none

def greater? : Option Nat → Option Nat → Option Nat
  | some a, some b => some (if a < b then b else a)
  | _, _ => none

mutual

/-- The fewest bytes of a match. What never matches has no such number. -/
def shortest? : Regex → Option Nat
  | .empty => some 0
  | .literal cs => some (byteLength cs)
  | .set s _ => s.intervals.head?.map fun a => (Utf8.bytes a.first).length
  | .look _ => some 0
  | .repeated a least _ _ => a.shortest?.map (· * least)
  | .group a => a.shortest?
  | .seq items => shortestOfAll? items (some 0)
  | .alt items => shortestOfAny? items none

def shortestOfAll? : List Regex → Option Nat → Option Nat
  | [], n => n
  | a :: items, n => shortestOfAll? items (sum? n a.shortest?)

def shortestOfAny? : List Regex → Option (Option Nat) → Option Nat
  | [], n => n.getD none
  | a :: items, none => shortestOfAny? items (some a.shortest?)
  | a :: items, some n => shortestOfAny? items (some (lesser? n a.shortest?))

end

mutual

/-- The most bytes of a match, if there is a limit. -/
def longest? : Regex → Option Nat
  | .empty => some 0
  | .literal cs => some (byteLength cs)
  | .set s _ => s.intervals.getLast?.map fun a => (Utf8.bytes a.last).length
  | .look _ => some 0
  | .repeated a _ most _ => do return (← a.longest?) * (← most)
  | .group a => a.longest?
  | .seq items => longestOfAll? items (some 0)
  | .alt items => longestOfAny? items none

def longestOfAll? : List Regex → Option Nat → Option Nat
  | [], n => n
  | a :: items, n => longestOfAll? items (sum? n a.longest?)

def longestOfAny? : List Regex → Option (Option Nat) → Option Nat
  | [], n => n.getD none
  | a :: items, none => longestOfAny? items (some a.longest?)
  | a :: items, some n => longestOfAny? items (some (greater? n a.longest?))

end

/-! ## Equality -/

mutual

/-- Whether two expressions are written alike. A group is like no other. -/
def alike : Regex → Regex → Bool
  | .empty, .empty => true
  | .literal a, .literal b => a == b
  | .set s inBytes, .set t inBytes' => s == t && inBytes == inBytes'
  | .look l, .look l' => l == l'
  | .repeated a least most greedy, .repeated b least' most' greedy' =>
    least == least' && most == most' && greedy == greedy' && a.alike b
  | .seq as, .seq bs => allAlike as bs
  | .alt as, .alt bs => allAlike as bs
  | _, _ => false

def allAlike : List Regex → List Regex → Bool
  | [], [] => true
  | a :: as, b :: bs => a.alike b && allAlike as bs
  | _, _ => false

end

/-! ## Repetitions -/

/-- What matches only the empty text needs no second round. -/
def ofRepetition (a : Regex) (least : Nat) (most : Option Nat) (greedy : Bool) : Regex :=
  let once := a.longest? == some 0
  let least := if once && decide (1 < least) then 1 else least
  let most := if once && most != some 0 then some 1 else most
  if most == some 0 then .empty
  else if least == 1 && most == some 1 then a
  else .repeated a least most greedy

/-! ## Sequences -/

/-- Puts an item before others and joins literals. -/
def before (a : Regex) (items : List Regex) : List Regex :=
  match a, items with
  | .empty, items => items
  | .literal cs, .literal ds :: items => .literal (cs ++ ds) :: items
  | a, items => a :: items

def ofSeq (items : List Regex) : Regex :=
  let flat := items.flatMap fun a =>
    match a with
    | .seq as => as
    | a => [a]
  match flat.foldr before [] with
  | [] => .empty
  | [a] => a
  | items => .seq items

/-! ## Alternatives -/

def singleChars? (items : List Regex) : Option (List Char) :=
  items.mapM fun a =>
    match a with
    | .literal [c] => some c
    | _ => none

def sets? (items : List Regex) : Option (List CharSet) :=
  items.mapM fun a =>
    match a with
    | .set s _ => some s
    | _ => none

def commonLength : List Regex → List Regex → Nat
  | a :: as, b :: bs => if a.alike b then commonLength as bs + 1 else 0
  | _, _ => 0

/-- The sequences that alternatives are, if all are sequences and begin alike, and how many
items they have in common. -/
def commonBeginning? (items : List Regex) : Option (Nat × List (List Regex)) := do
  let seqs ← items.mapM fun a =>
    match a with
    | .seq as => some as
    | _ => none
  match seqs with
  | [] => none
  | [_] => none
  | a :: rest =>
    let n := rest.foldl (fun n b => commonLength (a.take n) b) a.length
    if n = 0 then none else some (n, a :: rest)

/-- Alternatives of which what they all begin with is taken out at most so many times. -/
def ofAlternativesWithin : Nat → List Regex → Regex
  | fuel, items =>
    let flat := items.flatMap fun a =>
      match a with
      | .alt as => as
      | a => [a]
    match flat with
    | [] => never
    | [a] => a
    | items =>
      match singleChars? items with
      | some cs => ofSet (.ofChars cs) false
      | none =>
        match sets? items with
        | some ss => ofSet (.unionAll ss) false
        | none =>
          match fuel, commonBeginning? items with
          | fuel + 1, some (n, seqs) =>
            let beginning := (seqs.head?.getD []).take n
            let rest := ofAlternativesWithin fuel (seqs.map fun as => ofSeq (as.drop n))
            ofSeq (beginning ++ [rest])
          | _, _ => .alt items

mutual

/-- How deep sequences and alternatives are nested, counting what stands side by side. -/
def extent : Regex → Nat
  | .repeated a _ _ _ => a.extent
  | .group a => a.extent
  | .seq items => extents items 0
  | .alt items => extents items 0
  | _ => 1

def extents : List Regex → Nat → Nat
  | [], n => n
  | a :: items, n => extents items (n + a.extent + 1)

end

/-- Alternatives. Each time a beginning is taken out, less is left. -/
def ofAlternatives (items : List Regex) : Regex :=
  ofAlternativesWithin (extents items 0 + 1) items

end Regex

end QuadGraph
