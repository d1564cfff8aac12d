import QuadGraph.Regex.Normal

/-!
# Expressions that are literals

Some expressions match a few literals and nothing else. They are looked for as
literals, without an automaton, so their size is of no account. The literals are
read off an expression in order of preference. There may not be too many of them
nor may they be too long; one that is cut short, or that something else can
follow, is only the beginning of a match.
-/

namespace QuadGraph

namespace Regex

/-- The bytes of a match, or its first bytes. -/
structure Beginning where
  bytes : List Nat
  whole : Bool
deriving DecidableEq, Repr, Inhabited

namespace Beginning

def nothing : Beginning := ⟨[], true⟩

def ofChars (cs : List Char) : Beginning := ⟨cs.flatMap fun c => Utf8.bytes c.toNat, true⟩

def cut (b : Beginning) : Beginning := { b with whole := false }

def take (n : Nat) (b : Beginning) : Beginning :=
  if b.bytes.length ≤ n then b else ⟨b.bytes.take n, false⟩

/-- What follows a whole match is part of the beginning. -/
def followedBy (a b : Beginning) : Beginning := ⟨a.bytes ++ b.bytes, b.whole⟩

end Beginning

/-- The beginnings of all matches, the preferred ones first, or none if they are too many. -/
abbrev Beginnings := Option (List Beginning)

namespace Beginnings

def countLimit : Nat := 250

def lengthLimit : Nat := 100

/-- Sets with more characters have too many beginnings. -/
def setLimit : Nat := 10

/-- Repetitions are followed up to so many rounds. -/
def roundLimit : Nat := 10

/-- When there are too many alternatives, that many bytes of each are kept. -/
def shortLength : Nat := 4

/-- Whether nothing that follows can change them. -/
def areCut (bs : Beginnings) : Bool :=
  match bs with
  | none => true
  | some bs => bs.all fun b => !b.whole

/-- One beginning for neighbours with equal bytes. It is whole if both are. -/
def mergeNeighbours : List Beginning → List Beginning
  | a :: b :: rest =>
    if a.bytes = b.bytes then
      mergeNeighbours (⟨a.bytes, a.whole && b.whole⟩ :: rest)
    else a :: mergeNeighbours (b :: rest)
  | bs => bs
termination_by bs => bs.length

def take (n : Nat) (bs : Beginnings) : Beginnings := bs.map fun bs => bs.map (Beginning.take n)

def haveEmpty (bs : List Beginning) : Bool := bs.any fun b => b.bytes.isEmpty

def isTooMany (n : Nat) : Bool := decide (countLimit < n)

/-- The beginnings of a match of one thing and then another. -/
def followedBy : Beginnings → Beginnings → Beginnings
  | none, _ => none
  | some as, bs =>
    let tooMany : Bool := match bs with
      | none => true
      | some bs => isTooMany (as.length * bs.length)
    if tooMany then
      if haveEmpty as then none else take lengthLimit (some (as.map Beginning.cut))
    else
      let following := bs.getD []
      let joined := as.flatMap fun a => if a.whole then following.map a.followedBy else [a]
      take lengthLimit (some (mergeNeighbours joined))

def or : Beginnings → Beginnings → Beginnings
  | some as, some bs =>
    if !isTooMany (as.length + bs.length) then some (mergeNeighbours (as ++ bs))
    else
      let as := mergeNeighbours (as.map (Beginning.take shortLength))
      let bs := mergeNeighbours (bs.map (Beginning.take shortLength))
      if isTooMany (as.length + bs.length) then none else some (mergeNeighbours (as ++ bs))
  | _, _ => none

def rounds (bs : Beginnings) : Nat → Beginnings → Beginnings
  | 0, done => done
  | n + 1, done => if done.areCut then done else rounds bs n (followedBy done bs)

def cut (bs : Beginnings) : Beginnings := bs.map fun bs => bs.map Beginning.cut

def ofRepetition (bs : Beginnings) (least : Nat) (most : Option Nat) (greedy : Bool) :
    Beginnings :=
  let nothing : Beginnings := some [.nothing]
  if least = 0 then
    let some' := if most = some 1 then bs else bs.cut
    if greedy then some'.or nothing else nothing.or some'
  else
    let done := rounds bs (if least < roundLimit then least else roundLimit) nothing
    if most = some least && decide (least ≤ roundLimit) then done else done.cut

def ofSet (s : CharSet) : Beginnings :=
  let count := s.intervals.foldl (fun n a => n + (a.last + 1 - a.first)) 0
  if setLimit < count then none
  else
    some (s.intervals.flatMap fun a =>
      (List.range (a.last + 1 - a.first)).filterMap fun i =>
        if (a.first + i).isValidChar then some ⟨Utf8.bytes (a.first + i), true⟩ else none)

end Beginnings

mutual

def beginnings : Regex → Beginnings
  | .empty => some [.nothing]
  | .literal cs => Beginnings.take Beginnings.lengthLimit (some [.ofChars cs])
  | .set s _ => .ofSet s
  | .look _ => some [.nothing]
  | .repeated a least most greedy => a.beginnings.ofRepetition least most greedy
  | .group a => a.beginnings
  | .seq items => beginningsOfAll items (some [.nothing])
  | .alt items => beginningsOfAny items (some [])

/-- The beginnings of matches of what comes before and then of the items. -/
def beginningsOfAll : List Regex → Beginnings → Beginnings
  | [], done => done
  | a :: items, done =>
    if done.areCut then done else beginningsOfAll items (done.followedBy a.beginnings)

/-- The beginnings of matches of what comes before or of one of the items. -/
def beginningsOfAny : List Regex → Beginnings → Beginnings
  | [], done => done
  | a :: items, done =>
    if done.isNone then done else beginningsOfAny items (done.or a.beginnings)

end

/-! ## Literals that are looked for -/

/-- Leaves out what begins with a literal that is preferred to it. -/
def preferred : List Beginning → List Beginning → List Beginning
  | [], kept => kept.reverse
  | b :: bs, kept =>
    if kept.any fun a => a.bytes.isPrefixOf b.bytes then preferred bs kept
    else preferred bs (b :: kept)

def commonBytes : List Nat → List Nat → List Nat
  | a :: as, b :: bs => if a = b then a :: commonBytes as bs else []
  | _, _ => []

/-- The bytes that all have at the beginning. -/
def sharedBytes : List Beginning → List Nat
  | [] => []
  | b :: bs => bs.foldl (fun shared b => commonBytes shared b.bytes) b.bytes

/-- Characters of ASCII that texts hold often, beside which other bytes of ASCII are rare. -/
def frequentAscii : List Char :=
  "\n\r (),-./0129:_abcdefghilmnoprstuvxy|".toList

/-- Whether a byte that begins a character is rare in texts. -/
def isRare (byte : Nat) : Bool :=
  decide (byte < 0x80) && !frequentAscii.any fun c => c.toNat == byte

/-- A list of literals is shortened by keeping so many bytes if it has more literals than a
limit. -/
def shortenings : List (Nat × Nat) := [(5, 10), (4, 10), (3, 64), (2, 64), (1, 10)]

def shorten : List (Nat × Nat) → List Beginning → List Beginning
  | [], bs => bs
  | (keep, limit) :: more, bs =>
    if bs.length ≤ limit then bs
    else shorten more (preferred (bs.map (Beginning.take keep)) [])

/-- Whether short forms of literals are good enough to be looked for in their place. -/
def isGoodShort (bs : List Beginning) : Bool :=
  bs.all (fun b => decide (2 < b.bytes.length)) && decide (bs.length ≤ 64)

/-- Whether the literals themselves are looked for, and not bytes that they share nor short
forms of them. -/
def areSoughtWhole (bs : List Beginning) : Bool :=
  let kept := preferred bs []
  let shared := sharedBytes kept
  let isSingle := kept.length == 1
  if decide (1 < bs.length) && !shared.isEmpty && decide (shared.length ≤ 3)
      && shared.head?.any isRare then
    kept.all fun b => b.bytes.length == 1
  else if decide (4 < shared.length) || (decide (1 < shared.length) && decide (16 < kept.length))
  then isSingle
  else
    let short := shorten shortenings kept
    !isGoodShort short || short.all Beginning.whole

mutual

/-- Whether groups are told apart or places looked at. -/
def needsAutomaton : Regex → Bool
  | .look _ => true
  | .group _ => true
  | .repeated a _ _ _ => a.needsAutomaton
  | .seq items => anyNeedsAutomaton items
  | .alt items => anyNeedsAutomaton items
  | _ => false

def anyNeedsAutomaton : List Regex → Bool
  | [] => false
  | a :: items => a.needsAutomaton || anyNeedsAutomaton items

end

def isFewLiterals (r : Regex) : Bool :=
  match r.beginnings with
  | none => false
  | some bs =>
    !bs.isEmpty && !Beginnings.haveEmpty bs && bs.all Beginning.whole && areSoughtWhole bs
      && !r.needsAutomaton

def literals? (items : List Regex) : Option (List (List Char)) :=
  items.mapM fun a =>
    match a with
    | .literal cs => some cs
    | _ => none

/-- So many literals or more are looked for without an automaton. -/
def manyLiterals : Nat := 3000

def isManyLiterals : Regex → Bool
  | .alt items => decide (manyLiterals ≤ items.length) && (literals? items).isSome
  | _ => false

end Regex

end QuadGraph
