import QuadGraph.Regex.Normal
import QuadGraph.Regex.Reader
import QuadGraph.Regex.Size
import QuadGraph.Unicode.PropertyName

/-!
# From the written form to the expression

Applies flags. A switch of flags inside a group holds to the end of the group,
across its alternatives. With Unicode switched off an expression speaks of
bytes, and what would match a byte that is no character of ASCII is refused,
for a match never ends inside a character.
-/

namespace QuadGraph

namespace Regex

structure Flags where
  ignoreCase : Bool := false
  multiLine : Bool := false
  dotAll : Bool := false
  swapGreed : Bool := false
  unicode : Bool := true
  anyLineEnd : Bool := false
deriving Repr, Inhabited

namespace Flags

def change (fs : Flags) : Flag × Bool → Flags
  | (.ignoreCase, on) => { fs with ignoreCase := on }
  | (.multiLine, on) => { fs with multiLine := on }
  | (.dotAll, on) => { fs with dotAll := on }
  | (.swapGreed, on) => { fs with swapGreed := on }
  | (.unicode, on) => { fs with unicode := on }
  | (.anyLineEnd, on) => { fs with anyLineEnd := on }
  | (.verbose, _) => fs

def apply (fs : Flags) (changes : FlagChanges) : Flags := changes.foldl change fs

/-- Closes a set under case if case is ignored. -/
def anyCase (fs : Flags) (s : CharSet) : CharSet :=
  if !fs.ignoreCase then s else if fs.unicode then s.anyCase else s.anyAsciiCase

/-- Closes a set under case and takes its complement as asked. A complement of bytes has
bytes that are no characters. -/
def finish (fs : Flags) (s : CharSet) (negated : Bool) : Option CharSet :=
  if !negated then some (fs.anyCase s)
  else if fs.unicode then some (fs.anyCase s).compl
  else none

/-- A character, or the set of those that differ in case alone. -/
def literal (fs : Flags) (c : Char) : Regex :=
  if !fs.ignoreCase then .literal [c]
  else if fs.unicode then ofSet (.anyCaseOf c) false
  else if c.isAlpha then ofSet (CharSet.single c).anyAsciiCase true
  else .literal [c]

def look (fs : Flags) : Anchor → Look
  | .start =>
    if !fs.multiLine then .textStart else if fs.anyLineEnd then .anyLineStart else .lineStart
  | .stop =>
    if !fs.multiLine then .textEnd else if fs.anyLineEnd then .anyLineEnd else .lineEnd
  | .textStart => .textStart
  | .textStop => .textEnd
  | .wordBoundary => .wordBoundary fs.unicode
  | .noWordBoundary => .noWordBoundary fs.unicode
  | .wordStart => .wordStart fs.unicode
  | .wordStop => .wordEnd fs.unicode
  | .wordStartHalf => .noWordBefore fs.unicode
  | .wordStopHalf => .noWordAfter fs.unicode

/-- Any character but, unless that is switched off, those that end a line. -/
def dot (fs : Flags) : CharSet :=
  if fs.dotAll then .all
  else if fs.anyLineEnd then CharSet.compl (.ofChars ['\n', '\r'])
  else CharSet.compl (.ofChars ['\n'])

end Flags

/-! ## Classes -/

def shorthandSet (unicode : Bool) : Shorthand → CharSet
  | .digit => if unicode then Category.set ["Nd"] else .ofRanges [(0x30, 0x39)]
  | .blank => if unicode then Property.blank else .ofRanges [(0x09, 0x0d), (0x20, 0x20)]
  | .word =>
    if unicode then Property.word
    else .ofRanges [(0x30, 0x39), (0x41, 0x5a), (0x5f, 0x5f), (0x61, 0x7a)]

def propertySet? : PropertyText → Option CharSet
  | .name name => PropertyName.set? (PropertyName.loose name)
  | .value name value =>
    PropertyName.valueSet? (PropertyName.loose name) (PropertyName.loose value)

mutual

def classSet? (fs : Flags) : Class → Option CharSet
  | .nothing => some .empty
  | .range first last =>
    if fs.unicode || decide (last.toNat < 0x80) then
      some (.ofRanges [(first.toNat, last.toNat)])
    else none
  | .posix ranges negated => fs.finish (.ofRanges ranges) negated
  | .property name negated => do
    if !fs.unicode then none
    let s ← propertySet? name
    fs.finish s negated
  | .shorthand s negated =>
    if !negated then some (shorthandSet fs.unicode s)
    else if fs.unicode then some (shorthandSet true s).compl
    else none
  | .bracketed inner negated => do
    let s ← classSet? fs inner
    fs.finish s negated
  | .union items => do
    let ss ← classSets? fs items []
    return .unionAll ss
  | .inter a b => do
    return (fs.anyCase (← classSet? fs a)).inter (fs.anyCase (← classSet? fs b))
  | .diff a b => do
    return (fs.anyCase (← classSet? fs a)).diff (fs.anyCase (← classSet? fs b))
  | .symmDiff a b => do
    return (fs.anyCase (← classSet? fs a)).symmDiff (fs.anyCase (← classSet? fs b))

/-- The sets of all classes, put before those found so far. -/
def classSets? (fs : Flags) : List Class → List CharSet → Option (List CharSet)
  | [], ss => some ss
  | c :: cs, ss =>
    match classSet? fs c with
    | none => none
    | some s => classSets? fs cs (s :: ss)

end

/-! ## Expressions -/

mutual

/-- The expression, and the flags that hold after it in the same group. -/
def ofSyntax? (fs : Flags) : Syntax → Option (Regex × Flags)
  | .empty => some (.empty, fs)
  | .flags changes => some (.empty, fs.apply changes)
  | .literal c asByte =>
    if !fs.unicode && asByte && decide (0x80 ≤ c.toNat) then none else some (fs.literal c, fs)
  | .dot => if fs.unicode then some (ofSet fs.dot false, fs) else none
  | .anchor a => some (.look (fs.look a), fs)
  | .charClass c => do return (ofSet (← classSet? fs c) (!fs.unicode), fs)
  | .repeated a least most greedy => do
    let (r, fs) ← ofSyntax? fs a
    return (ofRepetition r least most (greedy != fs.swapGreed), fs)
  | .group captures changes a => do
    let (r, _) ← ofSyntax? (fs.apply changes) a
    return (if captures then .group r else r, fs)
  | .concat items => do
    let (rs, fs) ← ofSyntaxes? fs items []
    return (ofSeq rs.reverse, fs)
  | .alternatives items => do
    let (rs, fs) ← ofSyntaxes? fs items []
    return (ofAlternatives rs.reverse, fs)

/-- The expressions of all parts, the last one first, put before those found so far. -/
def ofSyntaxes? (fs : Flags) : List Syntax → List Regex → Option (List Regex × Flags)
  | [], rs => some (rs, fs)
  | a :: as, rs =>
    match ofSyntax? fs a with
    | none => none
    | some (r, fs) => ofSyntaxes? fs as (r :: rs)

end

/-- The expression that a text denotes, if it is one and not too large. -/
def ofText? (text : String) : Option Regex := do
  let a ← Syntax.ofText? text
  let (r, _) ← ofSyntax? {} a
  if r.fits then some r else none

end Regex

end QuadGraph
