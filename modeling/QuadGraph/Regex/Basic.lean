import QuadGraph.Unicode.Folding
import QuadGraph.Unicode.Property
import QuadGraph.Unicode.Utf8
import Std.Data.HashSet

/-!
# Regular expressions

A regular expression relates places of a text: from a place where a match
begins to the places where it may end. Matching works on sets of places, so
repetition is a closure that is reached after as many rounds as the text has
places, and a match is found whatever the order of the alternatives.
-/

namespace QuadGraph

/-- Conditions on a place in a text. -/
inductive Look where
  | textStart
  | textEnd
  | lineStart
  | lineEnd
  /-- Line starts and ends where a carriage return, alone or before a line feed, ends a
  line too. -/
  | anyLineStart
  | anyLineEnd
  | wordBoundary (unicode : Bool)
  | noWordBoundary (unicode : Bool)
  | wordStart (unicode : Bool)
  | wordEnd (unicode : Bool)
  | noWordBefore (unicode : Bool)
  | noWordAfter (unicode : Bool)
deriving Repr, DecidableEq, Inhabited

namespace Look

def isAsciiWordChar (c : Char) : Bool := c.isAlphanum || c == '_'

def isWord (unicode : Bool) : Option Char → Bool
  | none => false
  | some c => if unicode then Property.word.contains c else isAsciiWordChar c

def holds : Look → Option Char → Option Char → Bool
  | textStart, before, _ => before.isNone
  | textEnd, _, after => after.isNone
  | lineStart, before, _ => before.isNone || before == some '\n'
  | lineEnd, _, after => after.isNone || after == some '\n'
  | anyLineStart, before, after =>
    before.isNone || before == some '\n' || (before == some '\r' && after != some '\n')
  | anyLineEnd, before, after =>
    after.isNone || after == some '\r' || (after == some '\n' && before != some '\r')
  | wordBoundary u, before, after => isWord u before != isWord u after
  | noWordBoundary u, before, after => isWord u before == isWord u after
  | wordStart u, before, after => !isWord u before && isWord u after
  | wordEnd u, before, after => isWord u before && !isWord u after
  | noWordBefore u, before, _ => !isWord u before
  | noWordAfter u, _, after => !isWord u after

/-- Whether the condition is about the words of Unicode. -/
def isUnicodeWord : Look → Bool
  | wordBoundary u | noWordBoundary u | wordStart u | wordEnd u | noWordBefore u
  | noWordAfter u => u
  | _ => false

/-- Whether the condition holds between the bytes of one character, none of which is a byte
of a word of ASCII. -/
def holdsInside : Look → Bool
  | noWordBoundary u | noWordBefore u | noWordAfter u => !u
  | _ => false

end Look

inductive Regex where
  | empty
  /-- Characters that follow one another. -/
  | literal (text : List Char)
  /-- One character of a set. With Unicode switched off it is a set of bytes. -/
  | set (s : CharSet) (ofBytes : Bool)
  | look (l : Look)
  /-- At least and, if there is a limit, at most so many matches in a row. -/
  | repeated (a : Regex) (least : Nat) (most : Option Nat) (greedy : Bool)
  /-- A group whose match is told apart. -/
  | group (a : Regex)
  | seq (items : List Regex)
  | alt (items : List Regex)
deriving Repr, Inhabited

/-- Places of a text, in order: 0 is before the first character. -/
abbrev Places := List Nat

namespace Places

/-- All places that are in one set or the other, after those found so far, the last one
first. -/
def unionOnto (found : Places) : Places → Places → Places
  | [], qs => found.reverseAux qs
  | ps, [] => found.reverseAux ps
  | p :: ps, q :: qs =>
    if p < q then unionOnto (p :: found) ps (q :: qs)
    else if q < p then unionOnto (q :: found) (p :: ps) qs
    else unionOnto (p :: found) ps qs
termination_by ps qs => ps.length + qs.length

def union (ps qs : Places) : Places := unionOnto [] ps qs

/-- Takes a step so many times, or until it changes nothing. -/
def iterate (step : Places → Places) : Nat → Places → Places
  | 0, ps => ps
  | n + 1, ps =>
    let qs := step ps
    if qs = ps then ps else iterate step n qs

/-- All that is reached in at most so many more steps. Of the places reached so far those of
the last step come first; they alone can lead to new ones. -/
def closureFrom (step : Places → Places) : Nat → Std.HashSet Nat → List Places → Places
  | n + 1, seen, fresh :: found =>
    match (step fresh).filter fun p => !seen.contains p with
    | [] => (fresh :: found).flatten.mergeSort Nat.ble
    | new => closureFrom step n (seen.insertMany new) (new :: fresh :: found)
  | _, _, found => found.flatten.mergeSort Nat.ble

/-- All that is reached in at most so many steps. -/
def closure (step : Places → Places) (n : Nat) (ps : Places) : Places :=
  closureFrom step n (.ofList ps) [ps]

end Places

namespace Regex

def before? (text : Array Char) (p : Nat) : Option Char := if p = 0 then none else text[p - 1]?

def hasAt (text : Array Char) : List Char → Nat → Bool
  | [], _ => true
  | c :: cs, p => text[p]? == some c && hasAt text cs (p + 1)

mutual

/-- The places where a match may end that begins at one of the given places. -/
def ends (text : Array Char) : Regex → Places → Places
  | .empty, ps => ps
  | .literal cs, ps => (ps.filter (hasAt text cs)).map (· + cs.length)
  | .set s _, ps => (ps.filter fun p => text[p]?.any s.contains).map (· + 1)
  | .look l, ps => ps.filter fun p => l.holds (before? text p) text[p]?
  | .repeated a least most _, ps =>
    -- a chain of matches longer than the text has a round in it
    let rounds := (most.map (· - least)).getD (text.size + 1)
    Places.closure (a.ends text) rounds (Places.iterate (a.ends text) least ps)
  | .group a, ps => a.ends text ps
  | .seq items, ps => endsOfAll text items ps
  | .alt items, ps => endsOfAny text items ps []

/-- The places where matches of all items in a row may end. -/
def endsOfAll (text : Array Char) : List Regex → Places → Places
  | [], ps => ps
  | a :: items, ps => endsOfAll text items (a.ends text ps)

/-- The places where a match of one of the items may end, together with places found
before. -/
def endsOfAny (text : Array Char) : List Regex → Places → Places → Places
  | [], _, found => found
  | a :: items, ps, found => endsOfAny text items ps (found.union (a.ends text ps))

end

def occursIn (r : Regex) (text : Array Char) : Bool :=
  !(r.ends text (List.range (text.size + 1))).isEmpty

mutual

/-- Whether the expression matches nothing at a place between the bytes of one character. -/
def matchesInside : Regex → Bool
  | .empty => true
  | .literal _ => false
  | .set _ _ => false
  | .look l => l.holdsInside
  | .repeated a least _ _ => least == 0 || a.matchesInside
  | .group a => a.matchesInside
  | .seq items => allMatchInside items
  | .alt items => anyMatchesInside items

def allMatchInside : List Regex → Bool
  | [] => true
  | a :: items => a.matchesInside && allMatchInside items

def anyMatchesInside : List Regex → Bool
  | [] => false
  | a :: items => a.matchesInside || anyMatchesInside items

end

mutual

/-- Whether the expression asks for the words of Unicode. -/
def looksAtWords : Regex → Bool
  | .look l => l.isUnicodeWord
  | .repeated a _ _ _ => a.looksAtWords
  | .group a => a.looksAtWords
  | .seq items => anyLooksAtWords items
  | .alt items => anyLooksAtWords items
  | _ => false

def anyLooksAtWords : List Regex → Bool
  | [] => false
  | a :: items => a.looksAtWords || anyLooksAtWords items

end

mutual

/-- The expression without the matches that have a character beyond ASCII in them. -/
def withinAscii : Regex → Regex
  | .literal cs => if cs.all fun c => c.toNat < 0x80 then .literal cs else .set .empty true
  | .set s ofBytes => .set (s.inter .ascii) ofBytes
  | .repeated a least most greedy => .repeated a.withinAscii least most greedy
  | .group a => .group a.withinAscii
  | .seq items => .seq (allWithinAscii items [])
  | .alt items => .alt (allWithinAscii items [])
  | r => r

def allWithinAscii : List Regex → List Regex → List Regex
  | [], done => done.reverse
  | a :: items, done => allWithinAscii items (a.withinAscii :: done)

end

/-- The longest text, in bytes, in which a match that asks for the words of Unicode is
followed place by place. -/
def shortText : Nat := 128

/-- Whether the expression matches anywhere in the text. A search stops at the first match
that it meets. One that matches nothing between the bytes of a character meets such a match
before it is past that character, so that only ASCII is left to its matches, unless it asks
for the words of Unicode in a short text. -/
def isMatch (r : Regex) (text : String) : Bool :=
  let chars := text.toList.toArray
  if r.matchesInside && !(r.looksAtWords && decide (text.utf8ByteSize ≤ shortText)) then
    r.withinAscii.occursIn chars
  else r.occursIn chars

end Regex

end QuadGraph
