import QuadGraph.Regex.Syntax
import QuadGraph.Unicode.Current

/-!
# Reading regular expressions

The grammar of the text of an expression. Reading fails where the text is not an
expression: on what is left open, on what repeats nothing, on unknown escapes
and flags, and on look-around and back-references, which there are none of.
-/

namespace QuadGraph

namespace Regex

structure ReaderState where
  rest : List Char
  /-- Whether blanks and comments between the parts are skipped. -/
  verbose : Bool := false
  /-- The group names used so far. -/
  names : List String := []

/-- A reader of a part of the text; it may fail. -/
abbrev Reader := StateT ReaderState Option

namespace Reader

def failure {α : Type} : Reader α := fun _ => none

def peek? : Reader (Option Char) := return (← get).rest.head?

def bump : Reader Unit := modify fun s => { s with rest := s.rest.tail }

/-- The text without blanks and comments at its beginning. A comment goes up to the end
of its line. -/
def skipBlanks : List Char → Bool → List Char
  | [], _ => []
  | c :: cs, inComment =>
    if inComment then skipBlanks cs (c != '\n')
    else if isBlankChar c then skipBlanks cs false
    else if c = '#' then skipBlanks cs true
    else c :: cs

/-- Skips blanks and comments if that is switched on. -/
def space : Reader Unit :=
  modify fun s => if s.verbose then { s with rest := skipBlanks s.rest false } else s

def bumpSpace : Reader Unit := do bump; space

/-- The next character; it must be there. -/
def next : Reader Char := do
  match ← peek? with
  | some c => return c
  | none => failure

/-- Goes past one character and gives the next one; it must be there. -/
def bumpNext : Reader Char := do bumpSpace; next

def startsWith (text : String) : Reader Bool :=
  return text.toList.isPrefixOf (← get).rest

def take (text : String) : Reader Bool := do
  if ← startsWith text then
    modify fun s => { s with rest := s.rest.drop text.length }
    return true
  else return false

def expect (c : Char) : Reader Unit := do
  if (← next) = c then bump else failure

/-! ## Numbers -/

def isHexDigit (c : Char) : Bool :=
  c.isDigit || (decide ('a' ≤ c) && decide (c ≤ 'f')) || (decide ('A' ≤ c) && decide (c ≤ 'F'))

def hexValue (ds : List Char) : Nat :=
  ds.foldl (fun n c =>
    16 * n + (if c.isDigit then c.toNat - 48 else c.toLower.toNat - 87)) 0

def charOfCode (n : Nat) : Reader Char :=
  if n.isValidChar then return Char.ofNat n else failure

/-- Skips blanks, whether or not that is switched on. -/
def anyBlanks : Reader Unit :=
  modify fun s => { s with rest := s.rest.dropWhile isBlankChar }

/-- Characters of a kind, with blanks between them skipped if that is switched on. -/
def charsWhile (p : Char → Bool) : Nat → List Char → Reader (List Char)
  | 0, _ => failure
  | fuel + 1, read => do
    match ← peek? with
    | some c =>
      if p c then do bumpSpace; charsWhile p fuel (c :: read) else return read.reverse
    | none => return read.reverse

/-- A number that counts repetitions; it fits in 32 bits. -/
def decimal (fuel : Nat) : Reader Nat := do
  anyBlanks
  let ds ← charsWhile Char.isDigit fuel []
  anyBlanks
  let n := ds.foldl (fun n c => 10 * n + (c.toNat - 48)) 0
  if ds.isEmpty || 0x100000000 ≤ n then failure else return n

/-- Exactly so many hexadecimal digits. The reader is at the first one. -/
def hexDigits : Nat → List Char → Reader (List Char)
  | 0, read => return read.reverse
  | n + 1, read => do
    let c ← next
    if !isHexDigit c then failure
    bumpSpace
    hexDigits n (c :: read)

/-- The character whose number follows the letter of an escape, and whether the number was
without braces. -/
def hexEscape (fuel digits : Nat) : Reader (Char × Bool) := do
  if (← bumpNext) = '\x7b' then do
    bumpSpace
    let ds ← charsWhile (· != '\x7d') fuel []
    if (← next) != '\x7d' then failure
    bumpSpace
    if ds.isEmpty || !ds.all isHexDigit then failure
    return (← charOfCode (hexValue ds), false)
  else do
    let ds ← hexDigits digits []
    return (← charOfCode (hexValue ds), true)

/-! ## Escapes -/

/-- The first place of the value in the text where the separator stands, cut there. -/
def cutAt (separator : List Char) : List Char → List Char → Option (List Char × List Char)
  | _, [] => none
  | before, c :: cs =>
    if separator.isPrefixOf (c :: cs) then
      some (before.reverse, (c :: cs).drop separator.length)
    else cutAt separator (c :: before) cs

/-- What stands in a named class: a name, or a name and a value. The second part says
whether it is an inequality. -/
def propertyName (text : List Char) : PropertyText × Bool :=
  let named := fun (r : List Char × List Char) =>
    PropertyText.value (String.ofList r.1) (String.ofList r.2)
  match cutAt ['!', '='] [] text with
  | some r => (named r, true)
  | none =>
    match (cutAt [':'] [] text).or (cutAt ['='] [] text) with
    | some r => (named r, false)
    | none => (.name (String.ofList text), false)

/-- A class by property, after the letter of its escape. -/
def propertyClass (fuel : Nat) (negated : Bool) : Reader Class := do
  let c ← bumpNext
  if c = '\x7b' then do
    bumpSpace
    let text ← charsWhile (· != '\x7d') fuel []
    expect '\x7d'
    let (name, unequal) := propertyName text
    return .property name (negated != unequal)
  else if c = '\\' then failure
  else do
    bumpSpace
    return .property (.name (String.singleton c)) negated

/-- The special word boundaries, by what stands between braces. -/
def specialBoundary : List Char → Option Anchor
  | ['s', 't', 'a', 'r', 't'] => some .wordStart
  | ['e', 'n', 'd'] => some .wordStop
  | ['s', 't', 'a', 'r', 't', '-', 'h', 'a', 'l', 'f'] => some .wordStartHalf
  | ['e', 'n', 'd', '-', 'h', 'a', 'l', 'f'] => some .wordStopHalf
  | _ => none

def isBoundaryChar (c : Char) : Bool := c.isAlpha || c == '-'

/-- A word boundary, which may be a special one. A brace that no letter follows belongs to a
repetition. -/
def boundary (fuel : Nat) : Reader Anchor := do
  if (← peek?) != some '\x7b' then return .wordBoundary
  let atBrace ← get
  let c ← bumpNext
  if !isBoundaryChar c then
    modify fun _ => atBrace
    return .wordBoundary
  let text ← charsWhile isBoundaryChar fuel []
  expect '\x7d'
  match specialBoundary text with
  | some a => return a
  | none => failure

def metaChars : List Char := "\\.+*?()|[]\x7b\x7d^$#&-~".toList

/-- Whether a character may be escaped although that changes nothing. -/
def isEscapable (c : Char) : Bool :=
  metaChars.contains c || (decide (c.toNat < 0x80) && !c.isAlphanum && c != '<' && c != '>')

/-- What an escape or a single character stands for. -/
inductive Primitive where
  | literal (c : Char) (asByte : Bool)
  | anchor (a : Anchor)
  | charClass (c : Class)

/-- An escape. The reader is at the backslash. -/
def escape (fuel : Nat) : Reader Primitive := do
  bump
  let c ← next
  let anchor := fun (a : Anchor) => (do bump; return Primitive.anchor a : Reader Primitive)
  let literal := fun (c : Char) => (do bump; return Primitive.literal c false : Reader Primitive)
  let shorthand := fun (s : Shorthand) (negated : Bool) =>
    (do bump; return Primitive.charClass (.shorthand s negated) : Reader Primitive)
  match c with
  | 'x' => do
    let (c, unbraced) ← hexEscape fuel 2
    return .literal c unbraced
  | 'u' => return .literal (← hexEscape fuel 4).1 false
  | 'U' => return .literal (← hexEscape fuel 8).1 false
  | 'p' => return .charClass (← propertyClass fuel false)
  | 'P' => return .charClass (← propertyClass fuel true)
  | 'd' => shorthand .digit false
  | 'D' => shorthand .digit true
  | 's' => shorthand .blank false
  | 'S' => shorthand .blank true
  | 'w' => shorthand .word false
  | 'W' => shorthand .word true
  | 'a' => literal '\x07'
  | 'f' => literal '\x0c'
  | 't' => literal '\t'
  | 'n' => literal '\n'
  | 'r' => literal '\r'
  | 'v' => literal '\x0b'
  | 'A' => anchor .textStart
  | 'z' => anchor .textStop
  | 'B' => anchor .noWordBoundary
  | '<' => anchor .wordStart
  | '>' => anchor .wordStop
  | 'b' => do
    bump
    return .anchor (← boundary fuel)
  | c => if isEscapable c then literal c else failure

/-! ## Classes -/

def posixClasses : List (String × List (Nat × Nat)) :=
  [("alnum", [(0x30, 0x39), (0x41, 0x5a), (0x61, 0x7a)]),
   ("alpha", [(0x41, 0x5a), (0x61, 0x7a)]),
   ("ascii", [(0x00, 0x7f)]),
   ("blank", [(0x09, 0x09), (0x20, 0x20)]),
   ("cntrl", [(0x00, 0x1f), (0x7f, 0x7f)]),
   ("digit", [(0x30, 0x39)]),
   ("graph", [(0x21, 0x7e)]),
   ("lower", [(0x61, 0x7a)]),
   ("print", [(0x20, 0x7e)]),
   ("punct", [(0x21, 0x2f), (0x3a, 0x40), (0x5b, 0x60), (0x7b, 0x7e)]),
   ("space", [(0x09, 0x0d), (0x20, 0x20)]),
   ("upper", [(0x41, 0x5a)]),
   ("word", [(0x30, 0x39), (0x41, 0x5a), (0x5f, 0x5f), (0x61, 0x7a)]),
   ("xdigit", [(0x30, 0x39), (0x41, 0x46), (0x61, 0x66)])]

/-- A class such as [:alpha:], if that is what the text begins with, and what follows. -/
def posixClass? (text : List Char) : Option (Class × List Char) := do
  let rest ← match text with
    | '[' :: ':' :: rest => some rest
    | _ => none
  let (negated, rest) := match rest with
    | '^' :: rest => (true, rest)
    | rest => (false, rest)
  let name := rest.takeWhile (· != ':')
  match rest.dropWhile (· != ':') with
  | ':' :: ']' :: after => do
    let ranges ← posixClasses.lookup (String.ofList name)
    return (.posix ranges negated, after)
  | _ => none

/-- One item of a class: an escape or a character. -/
def classItem (fuel : Nat) : Reader Primitive := do
  let c ← next
  if c = '\\' then escape fuel
  else do
    bump
    return .literal c false

def Primitive.toClass : Primitive → Reader Class
  | .literal c _ => return .range c c
  | .charClass c => return c
  | .anchor _ => failure

def Primitive.toChar : Primitive → Reader Char
  | .literal c _ => return c
  | _ => failure

/-- The character after the next one, behind blanks if they are skipped. -/
def peekSpace? : Reader (Option Char) := do
  let s ← get
  let rest := s.rest.tail
  if !s.verbose then return rest.head?
  match rest.dropWhile isBlankChar with
  | '#' :: rest => return (rest.dropWhile isBlankChar).head?
  | rest => return rest.head?

/-- A character, a class by name, or a range. A minus before a bracket or another minus is
no range. -/
def classRange (fuel : Nat) : Reader Class := do
  let first ← classItem fuel
  space
  let c ← next
  let second ← peekSpace?
  if c != '-' || second == some ']' || second == some '-' then first.toClass
  else do
    let _ ← bumpNext
    let last ← classItem fuel
    let a ← first.toChar
    let b ← last.toChar
    if b < a then failure else return .range a b

/-- A set operation whose left side has been read. -/
abbrev Pending := Option (Class → Class)

def ofUnion : List Class → Class
  | [] => .nothing
  | [c] => c
  | cs => .union cs

def settle (pending : Pending) (items : List Class) : Class :=
  match pending with
  | none => ofUnion items.reverse
  | some f => f (ofUnion items.reverse)

/-- Minuses at the beginning of a class stand for themselves. -/
def leadingMinuses : Nat → List Class → Reader (List Class)
  | 0, _ => failure
  | fuel + 1, items => do
    if (← next) = '-' then do
      let _ ← bumpNext
      leadingMinuses fuel (.range '-' '-' :: items)
    else return items

/-- Whether the class begins with a circumflex, and the characters at its beginning that
stand for themselves. The reader is at the opening bracket. -/
def classOpening (fuel : Nat) : Reader (Bool × List Class) := do
  let c ← bumpNext
  let negated := c = '^'
  if negated then let _ ← bumpNext
  let items ← leadingMinuses fuel []
  if items.isEmpty && (← next) = ']' then do
    let _ ← bumpNext
    return (negated, [.range ']' ']'])
  else return (negated, items)

mutual

def bracketed : Nat → Reader Class
  | 0 => failure
  | fuel + 1 => do
    let (negated, items) ← classOpening fuel
    let inner ← classItems fuel none items
    return .bracketed inner negated

/-- The items of a class up to its closing bracket. Operations on sets are read from left
to right and all bind alike. -/
def classItems : Nat → Pending → List Class → Reader Class
  | 0, _, _ => failure
  | fuel + 1, pending, items => do
    space
    let c ← next
    let operation := fun (f : Class → Class → Class) =>
      classItems fuel (some (f (settle pending items))) []
    if c = '[' then
      match posixClass? (← get).rest with
      | some (cls, rest) => do
        modify fun s => { s with rest }
        classItems fuel pending (cls :: items)
      | none => do
        let inner ← bracketed fuel
        classItems fuel pending (inner :: items)
    else if c = ']' then do
      bump
      return settle pending items
    else if ← take "&&" then operation .inter
    else if ← take "--" then operation .diff
    else if ← take "~~" then operation .symmDiff
    else do
      let item ← classRange fuel
      classItems fuel pending (item :: items)

end

/-! ## Groups -/

def flag? : Char → Option Flag
  | 'i' => some .ignoreCase
  | 'm' => some .multiLine
  | 's' => some .dotAll
  | 'U' => some .swapGreed
  | 'u' => some .unicode
  | 'R' => some .anyLineEnd
  | 'x' => some .verbose
  | _ => none

/-- Flags up to a colon or a closing bracket. No flag and no minus may come twice, and a
minus must switch something off. -/
def flagChanges : Nat → Bool → Bool → FlagChanges → Reader FlagChanges
  | 0, _, _, _ => failure
  | fuel + 1, negated, dangling, changes => do
    let c ← next
    if c = ':' || c = ')' then
      if dangling then failure else return changes
    else if c = '-' then do
      if negated then failure
      bump
      flagChanges fuel true true changes
    else
      match flag? c with
      | none => failure
      | some f => do
        if (changes.state? f).isSome then failure
        bump
        flagChanges fuel negated false (changes ++ [(f, !negated)])

def isNameChar (first : Bool) (c : Char) : Bool :=
  c == '_' || isLetterChar c ||
    (!first && (['.', '[', ']'].contains c || isNumberChar c))

/-- The name of a group, up to a closing angle bracket. It must be new. -/
def groupName : Reader Unit := do
  let s ← get
  let name := s.rest.takeWhile (· != '>')
  let good := match name with
    | [] => false
    | c :: cs => isNameChar true c && cs.all (isNameChar false)
  if !good || s.names.contains (String.ofList name) then failure
  modify fun s =>
    { s with rest := s.rest.drop name.length, names := String.ofList name :: s.names }
  expect '>'

/-- How a group begins: with a match to be told apart, with flags for the group, or with
flags for what follows, in which case it has no body. -/
inductive Opening where
  | capture
  | flagged (changes : FlagChanges)
  | switch (changes : FlagChanges)

namespace Opening

def changes : Opening → FlagChanges
  | capture => []
  | flagged changes | switch changes => changes

def captures : Opening → Bool
  | capture => true
  | _ => false

def isSwitch : Opening → Bool
  | switch _ => true
  | _ => false

end Opening

/-- The beginning of a group. The reader is at the opening bracket. -/
def groupOpening (fuel : Nat) : Reader Opening := do
  bump
  space
  for text in ["?=", "?!", "?<=", "?<!"] do
    if ← startsWith text then failure
  if ← take "?P<" then
    groupName
    return .capture
  if ← take "?<" then
    groupName
    return .capture
  if ← take "?" then
    let changes ← flagChanges fuel false false []
    let c ← next
    bump
    if c = ')' then
      if changes.isEmpty then failure
      return .switch changes
    return .flagged changes
  return .capture

/-! ## Repetition -/

/-- What a repetition repeats: the last part read. -/
def repeatable : List Syntax → Reader (Syntax × List Syntax)
  | [] => failure
  | .flags _ :: _ => failure
  | .empty :: _ => failure
  | a :: items => return (a, items)

/-- Goes past a question mark after the sign of a repetition, which asks for the shortest
match, and says whether the longest one is wanted. -/
def greedily : Reader Bool := do
  if (← peek?) = some '?' then do
    bump
    return false
  else return true

/-- Numbers between braces. The reader is at the opening one. -/
def counts (fuel : Nat) : Reader (Nat × Option Nat × Bool) := do
  let _ ← bumpNext
  let least ← decimal fuel
  let most ←
    if (← next) = ',' then do
      let c ← bumpNext
      if c = '\x7d' then pure none else some <$> decimal fuel
    else pure (some least)
  if (← next) != '\x7d' then failure
  bumpSpace
  let greedy ← greedily
  if most.any (· < least) then failure
  return (least, most, greedy)

/-- Goes past the sign of a repetition. -/
def bumpSign : Reader Bool := do
  bump
  greedily

/-! ## Expressions -/

def primitive (fuel : Nat) (c : Char) : Reader Syntax := do
  if c = '\\' then
    match ← escape fuel with
    | .literal c asByte => return .literal c asByte
    | .anchor a => return .anchor a
    | .charClass c => return .charClass c
  else do
    bump
    if c = '.' then return .dot
    else if c = '^' then return .anchor .start
    else if c = '$' then return .anchor .stop
    else return .literal c false

mutual

def alternatives : Nat → List Syntax → List Syntax → Reader Syntax
  | 0, _, _ => failure
  | fuel + 1, done, items => do
    space
    match ← peek? with
    | none => return .ofAlternatives (.ofConcat items.reverse :: done).reverse
    | some ')' => return .ofAlternatives (.ofConcat items.reverse :: done).reverse
    | some '|' => do
      bump
      alternatives fuel (.ofConcat items.reverse :: done) []
    | some '(' => do
      let a ← group fuel
      alternatives fuel done (a :: items)
    | some '[' => do
      let c ← bracketed fuel
      alternatives fuel done (.charClass c :: items)
    | some '?' => do
      let (a, items) ← repeatable items
      let greedy ← bumpSign
      alternatives fuel done (.repeated a 0 (some 1) greedy :: items)
    | some '*' => do
      let (a, items) ← repeatable items
      let greedy ← bumpSign
      alternatives fuel done (.repeated a 0 none greedy :: items)
    | some '+' => do
      let (a, items) ← repeatable items
      let greedy ← bumpSign
      alternatives fuel done (.repeated a 1 none greedy :: items)
    | some '\x7b' => do
      let (a, items) ← repeatable items
      let (least, most, greedy) ← counts fuel
      alternatives fuel done (.repeated a least most greedy :: items)
    | some c => do
      let a ← primitive fuel c
      alternatives fuel done (a :: items)

def group : Nat → Reader Syntax
  | 0 => failure
  | fuel + 1 => do
    let opening ← groupOpening fuel
    let verbose := (← get).verbose
    modify fun s => { s with verbose := (opening.changes.state? .verbose).getD verbose }
    if opening.isSwitch then return .flags opening.changes
    let body ← alternatives fuel [] []
    expect ')'
    modify fun s => { s with verbose }
    return .group opening.captures opening.changes body

end

end Reader

/-- The written form that a text has, if it is an expression. -/
def Syntax.ofText? (text : String) : Option Syntax := do
  let chars := text.toList
  let (a, s) ← (Reader.alternatives (2 * chars.length + 2) [] []).run { rest := chars }
  if s.rest.isEmpty && a.depth ≤ Syntax.depthLimit then some a else none

end Regex

end QuadGraph
