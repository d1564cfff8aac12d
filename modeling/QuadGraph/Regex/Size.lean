import QuadGraph.Regex.Literals
import Std.Data.HashMap

/-!
# The size of an expression

An expression is refused if an automaton over bytes that looks for it takes too
much memory, be it the one that reads a text forwards or the one that reads it
backwards. Here the states of these automata are counted, without building them.
Counted repetitions are written out. Sets share the ends of their encodings as
far as a table of bounded size recalls them, so a set's size depends a little on
the number of its first state.
-/

namespace QuadGraph

namespace Regex

/-- How many states there are and how many bytes they take. -/
structure Extent where
  states : Nat := 0
  memory : Nat := 0
deriving Repr, Inhabited

namespace Extent

def memoryLimit : Nat := 10485760

def stateSize : Nat := 32

/-- The bytes of one transition of a state that has several on bytes. -/
def transitionSize : Nat := 8

/-- The bytes of one way out of a state at which ways part. -/
def branchSize : Nat := 4

end Extent

open Extent

/-- A part of an automaton; there is none if the memory does not suffice. -/
abbrev Build := StateT Extent Option

namespace Build

/-- Adds a state that takes some bytes more than others and gives its number. -/
def state (more : Nat) : Build Nat := fun e =>
  let memory := e.memory + stateSize + more
  if memory ≤ memoryLimit then some (e.states, ⟨e.states + 1, memory⟩) else none

def states (count memory : Nat) : Build Unit := fun e =>
  let memory := e.memory + memory
  if memory ≤ memoryLimit then some ((), ⟨e.states + count, memory⟩) else none

def branches (n : Nat) : Build Unit := states 0 (branchSize * n)

/-- Leads from the last state of a part to what follows. If ways part at that state it takes
one more. -/
def leadOn (parting : Bool) : Build Unit := if parting then branches 1 else pure ()

/-! ## Sets -/

/-- One number more in a hash: it is mixed in bit by bit, and a prime spreads the bits. -/
def hashStep (hash : UInt64) (n : Nat) : UInt64 := (hash ^^^ n.toUInt64) * 1099511628211

def hashOf (ns : List Nat) : UInt64 := ns.foldl hashStep 14695981039346656037

/-- How many hashes are told apart where equal ends of encodings are shared. -/
def endSlots : Nat := 10000

/-- How many hashes are told apart where equal beginnings of encodings are shared. -/
def beginningSlots : Nat := 1000

/-- States by what leads on from them. A later state takes the place of one with the same
hash. -/
abbrev Recall := Std.HashMap Nat (List Nat × Nat)

/-- The state that is recalled for a key, or a new one. -/
def recalled (slots more : Nat) (key : List Nat) (seen : Recall) : Build (Nat × Recall) := do
  let slot := (hashOf key).toNat % slots
  let new := do
    let id ← state more
    return (id, seen.insert slot (key, id))
  match seen[slot]? with
  | some (key', id) => if key' = key then return (id, seen) else new
  | none => new

/-- A state under way: the transitions that it has, the last one first, each as two bytes and
a state, and the bytes of the transition that it is about to have. -/
structure Open where
  transitions : List (List Nat)
  last : Option Utf8.ByteRange

/-- The transitions when the last one leads to a state. -/
def Open.close (o : Open) (next : Nat) : List (List Nat) :=
  match o.last with
  | some (first, last) => [first, last, next] :: o.transitions
  | none => o.transitions

/-- Finishes states under way, the first of which leads to the second and so on; the last one
leads to the given state. -/
def finish (target : Nat) : List Open → Recall → Build (Nat × Recall)
  | [], seen => return (target, seen)
  | o :: os, seen => do
    let (next, seen) ← finish target os seen
    let transitions := o.close next
    recalled endSlots (transitionSize * transitions.length) transitions.reverse.flatten seen

/-- Adds a sequence of byte ranges to states under way. As far as it begins like the one
before, the states are the same. -/
def addSequence (target : Nat) :
    List Utf8.ByteRange → List Open → Recall → Build (List Open × Recall)
  | r :: rs, o :: os, seen =>
    if o.last == some r then do
      let (os, seen) ← addSequence target rs os seen
      return (o :: os, seen)
    else do
      let (next, seen) ← finish target os seen
      return (⟨o.close next, some r⟩ :: rs.map fun r => ⟨[], some r⟩, seen)
  | _, os, seen => return (os, seen)

/-- A set read forwards, with equal ends of the encodings shared. -/
def setForwards (sequences : List (List Utf8.ByteRange)) : Build Unit := do
  let target ← state 0
  let (os, seen) ← sequences.foldlM
    (fun (os, seen) rs => addSequence target rs os seen) ([⟨[], none⟩], ∅)
  let _ ← finish target os seen

/-- A sequence of byte ranges read backwards up to a state. -/
def sequenceBackwards (target : Nat) (rs : List Utf8.ByteRange) (seen : Recall) :
    Build Recall := do
  let (_, seen) ← rs.foldlM
    (fun (next, seen) r => recalled beginningSlots 0 [next, r.1, r.2] seen) (target, seen)
  branches 1
  return seen

/-- A set read backwards, with equal beginnings of the encodings shared. -/
def setBackwards (sequences : List (List Utf8.ByteRange)) : Build Unit := do
  let _ ← state 0
  let target ← state 0
  let _ ← sequences.foldlM (fun seen rs => sequenceBackwards target rs seen) ∅

def set (backwards : Bool) (s : CharSet) : Build Unit := do
  if s.isAscii then do
    let _ ← state 0
    let _ ← state (transitionSize * s.intervals.length)
  else
    let sequences := s.intervals.flatMap Utf8.sequences
    if backwards then setBackwards sequences else setForwards sequences

/-! ## Alternatives of literals -/

/-- A place in the tree of literals: how many bytes lead on from it, told apart by the
literals that end at it, the latest first. -/
structure Fork where
  counts : List Nat := [0]

namespace Fork

def isLeaf (f : Fork) : Bool := f.counts.all (· == 0)

def addEnd (f : Fork) : Fork :=
  if f.isLeaf && decide (1 < f.counts.length) then f else ⟨0 :: f.counts⟩

def addByte (f : Fork) : Fork :=
  match f.counts with
  | n :: ns => ⟨(n + 1) :: ns⟩
  | [] => ⟨[1]⟩

/-- How many states the place takes, and how many bytes. -/
def extent (f : Fork) : Extent :=
  if f.isLeaf then {}
  else
    let chunks := f.counts.filter (· != 0)
    let ways := chunks.length + f.counts.length - 1
    { states := chunks.length + 1
      memory := chunks.foldl (fun m n => m + stateSize + if n = 1 then 0 else transitionSize * n)
        (stateSize + branchSize * ways) }

end Fork

/-- The tree of literals: its places, and where a byte leads from a place, by the number of
the literals that had ended there before. -/
structure LiteralTree where
  forks : Array Fork := #[{}]
  ways : Std.HashMap (Nat × Nat × Nat) Nat := ∅

namespace LiteralTree

def addByte (t : LiteralTree) (place byte : Nat) : LiteralTree × Nat :=
  let fork := t.forks.getD place {}
  let key := (place, fork.counts.length, byte)
  match t.ways[key]? with
  | some next => (t, next)
  | none =>
    let next := t.forks.size
    ({ forks := (t.forks.setIfInBounds place fork.addByte).push {}
       ways := t.ways.insert key next }, next)

def addLiteral (t : LiteralTree) (bytes : List Nat) : LiteralTree :=
  let (t, place) := bytes.foldl (fun (t, place) byte => t.addByte place byte) (t, 0)
  { t with forks := t.forks.setIfInBounds place (t.forks.getD place {}).addEnd }

/-- All places, and one state at which the literals end. -/
def extent (t : LiteralTree) : Extent :=
  t.forks.foldl
    (fun e f => ⟨e.states + f.extent.states, e.memory + f.extent.memory⟩) ⟨1, stateSize⟩

end LiteralTree

def literalBytes (backwards : Bool) (cs : List Char) : List Nat :=
  let bytes := cs.flatMap fun c => Utf8.bytes c.toNat
  if backwards then bytes.reverse else bytes

def literals (backwards : Bool) (items : List (List Char)) : Build Unit :=
  let tree := items.foldl (fun t cs => t.addLiteral (literalBytes backwards cs))
    ({} : LiteralTree)
  states tree.extent.states tree.extent.memory

/-! ## Sequences and repetitions

A part is given as what adds it. It says whether ways part at its last state. -/

/-- Parts that follow one at whose last state ways part or not. -/
def inTurn : List (Build Bool) → Bool → Build Bool
  | [], parting => return parting
  | part :: parts, parting => do
    let parting' ← part
    leadOn parting
    inTurn parts parting'

def optional (part : Build Bool) : Build Bool := do
  let _ ← state 0
  branches 2
  leadOn (← part)
  let _ ← state 0
  return false

/-- Any number of matches, none of which is empty. -/
def loop (part : Build Bool) : Build Bool := do
  let _ ← state 0
  branches 1
  leadOn (← part)
  return true

/-- Any number of matches of what may be empty. -/
def looseLoop (part : Build Bool) : Build Bool := do
  leadOn (← part)
  states 3 (3 * stateSize)
  branches 4
  return false

def copies (part : Build Bool) : Nat → Bool → Build Bool
  | 0, parting => return parting
  | n + 1, parting => do
    let parting' ← part
    leadOn parting
    copies part n parting'

def exactly (part : Build Bool) : Nat → Build Bool
  | 0 => do
    let _ ← state 0
    return false
  | n + 1 => copies part (n + 1) false

def atLeastOne (part : Build Bool) : Build Bool := do
  leadOn (← part)
  let _ ← state 0
  branches 1
  return true

/-- At most so many more matches, after a part at whose last state ways part or not. -/
def options (part : Build Bool) : Nat → Bool → Build Unit
  | 0, parting => leadOn parting
  | n + 1, parting => do
    let _ ← state 0
    let parting' ← part
    leadOn parting
    branches 2
    options part n parting'

def between (part : Build Bool) (least most : Nat) : Build Bool := do
  let parting ← exactly part least
  let _ ← state 0
  options part (most - least) parting
  return false

def repeated (part : Build Bool) (mayBeEmpty : Bool) : Nat → Option Nat → Build Bool
  | 0, some 1 => optional part
  | 0, none => if mayBeEmpty then looseLoop part else loop part
  | 1, none => atLeastOne part
  | least, none => do
    let parting ← exactly part (least - 1)
    leadOn parting
    atLeastOne part
  | least, some most => if least = most then exactly part least else between part least most

end Build

/-! ## Expressions -/

mutual

/-- Adds an expression. Says whether ways part at its last state. -/
def build (backwards : Bool) : Regex → Build Bool
  | .empty => do
    let _ ← Build.state 0
    return false
  | .literal cs => do
    let n := byteLength cs
    Build.states n (n * stateSize)
    return false
  | .set s _ => do
    Build.set backwards s
    return false
  | .look _ => do
    let _ ← Build.state 0
    return false
  | .repeated a least most _ =>
    Build.repeated (build backwards a) (!a.shortest?.any (0 < ·)) least most
  | .group a =>
    if backwards then build backwards a
    else do
      let _ ← Build.state 0
      Build.leadOn (← build backwards a)
      let _ ← Build.state 0
      return false
  | .seq items =>
    let parts := buildEach backwards items []
    Build.inTurn (if backwards then parts else parts.reverse) false
  | .alt items =>
    match literals? items with
    | some texts => do
      Build.literals backwards texts
      return false
    | none => do
      buildAny backwards items 0
      return false

/-- What adds each of the items, the last one first, before what is given. -/
def buildEach (backwards : Bool) : List Regex → List (Build Bool) → List (Build Bool)
  | [], parts => parts
  | a :: items, parts => buildEach backwards items (build backwards a :: parts)

/-- Adds alternatives after so many others. The states at which they part and meet follow
the second one. -/
def buildAny (backwards : Bool) : List Regex → Nat → Build Unit
  | [], _ => return ()
  | a :: items, before => do
    Build.branches 1
    Build.leadOn (← build backwards a)
    if before = 1 then Build.states 2 (2 * stateSize)
    buildAny backwards items (before + 1)

end

mutual

def startsText : Regex → Bool
  | .look l => l == .textStart
  | .repeated a least _ _ => least != 0 && a.startsText
  | .group a => a.startsText
  | .seq items => oneStartsText items
  | .alt items => allStartText items
  | _ => false

/-- Whether one of the items does so before an item that may match more than the empty
text, or that item itself. -/
def oneStartsText : List Regex → Bool
  | [] => false
  | a :: items => a.startsText || (a.longest? == some 0 && oneStartsText items)

def allStartText : List Regex → Bool
  | [] => true
  | a :: items => a.startsText && allStartText items

end

mutual

def endsText : Regex → Bool
  | .look l => l == .textEnd
  | .repeated a least _ _ => least != 0 && a.endsText
  | .group a => a.endsText
  | .seq items => lastEndsText items false
  | .alt items => allEndText items
  | _ => false

/-- Whether one of the items does so after an item that may match more than the empty text,
or that item itself; whether one does so before them is given. -/
def lastEndsText : List Regex → Bool → Bool
  | [], found => found
  | a :: items, found => lastEndsText items (a.endsText || (found && a.longest? == some 0))

def allEndText : List Regex → Bool
  | [] => true
  | a :: items => a.endsText && allEndText items

end

/-- What the automaton has before the expression: a loop over all bytes, unless a match can
begin in one place alone. -/
def buildEntry (anchored : Bool) : Build Unit := do
  let _ ← Build.state 0
  if !anchored then do
    let _ ← Build.state 0
    let _ ← Build.state transitionSize
    Build.branches 2

def buildForwards (r : Regex) : Build Unit := do
  buildEntry r.startsText
  let _ ← build false (.group r)
  let _ ← Build.state 0

/-- The automaton that reads backwards, which does not tell groups apart. -/
def buildReversed (r : Regex) : Build Unit := do
  buildEntry r.endsText
  Build.leadOn (← build true r)
  let _ ← Build.state 0

/-- Whether an expression is small enough, or needs no automaton. -/
def fits (r : Regex) : Bool :=
  r.isManyLiterals || ((r.buildForwards {}).isSome && (r.buildReversed {}).isSome)
    || r.isFewLiterals

end Regex

end QuadGraph
