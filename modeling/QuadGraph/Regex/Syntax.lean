import QuadGraph.Regex.Basic

/-!
# The written form of regular expressions

What a reader of the text of an expression finds, before flags are applied.
-/

namespace QuadGraph

namespace Regex

inductive Flag where
  | ignoreCase
  | multiLine
  | dotAll
  | swapGreed
  | unicode
  | anyLineEnd
  | verbose
deriving DecidableEq, Repr, Inhabited

/-- Flags in the order written, each with whether it is switched on. -/
abbrev FlagChanges := List (Flag × Bool)

def FlagChanges.state? (fs : FlagChanges) (f : Flag) : Option Bool := fs.lookup f

inductive Shorthand where
  | digit
  | blank
  | word
deriving DecidableEq, Repr, Inhabited

/-- The property in a class after a backslash and a p: a name alone, or a name with a value. -/
inductive PropertyText where
  | name (name : String)
  | value (name value : String)
deriving Repr, Inhabited

/-- A class of characters: what stands between square brackets, or a class that is
named. -/
inductive Class where
  | nothing
  | range (first last : Char)
  | posix (ranges : List (Nat × Nat)) (negated : Bool)
  | property (name : PropertyText) (negated : Bool)
  | shorthand (s : Shorthand) (negated : Bool)
  | bracketed (inner : Class) (negated : Bool)
  | union (items : List Class)
  | inter (a b : Class)
  | diff (a b : Class)
  | symmDiff (a b : Class)
deriving Repr, Inhabited

inductive Anchor where
  | start
  | stop
  | textStart
  | textStop
  | wordBoundary
  | noWordBoundary
  | wordStart
  | wordStop
  | wordStartHalf
  | wordStopHalf
deriving DecidableEq, Repr, Inhabited

inductive Syntax where
  | empty
  /-- A switch of flags for what follows in the same group. -/
  | flags (changes : FlagChanges)
  /-- A character; it may be given as the number of a byte. -/
  | literal (c : Char) (asByte : Bool)
  | dot
  | anchor (a : Anchor)
  | charClass (c : Class)
  | repeated (a : Syntax) (least : Nat) (most : Option Nat) (greedy : Bool)
  /-- A group; its match may be told apart. -/
  | group (captures : Bool) (changes : FlagChanges) (a : Syntax)
  | concat (items : List Syntax)
  | alternatives (items : List Syntax)
deriving Inhabited

def deeper (a b : Nat) : Nat := if a < b then b else a

namespace Class

mutual

def depth : Class → Nat
  | .bracketed inner _ => inner.depth + 1
  | .union items => depths items 0 + 1
  | .inter a b | .diff a b | .symmDiff a b => deeper a.depth b.depth + 1
  | _ => 0

def depths : List Class → Nat → Nat
  | [], n => n
  | c :: cs, n => depths cs (deeper c.depth n)

end

end Class

namespace Syntax

mutual

def depth : Syntax → Nat
  | .charClass c => c.depth
  | .repeated a _ _ _ => a.depth + 1
  | .group _ _ a => a.depth + 1
  | .concat items => depths items 0 + 1
  | .alternatives items => depths items 0 + 1
  | _ => 0

def depths : List Syntax → Nat → Nat
  | [], n => n
  | a :: as, n => depths as (deeper a.depth n)

end

/-- An expression that is nested deeper is refused. -/
def depthLimit : Nat := 250

def ofConcat : List Syntax → Syntax
  | [] => .empty
  | [a] => a
  | items => .concat items

def ofAlternatives : List Syntax → Syntax
  | [a] => a
  | items => .alternatives items

end Syntax

end Regex

end QuadGraph
