import QuadGraph.Unicode.Property
import QuadGraph.Unicode.Segments
import QuadGraph.Unicode.AgeRanges

/-!
# Names of properties

The sets that properties and their values are known by. Names are compared
loosely: case, blanks, hyphens, underscores and the word "is" in front do not
count.
-/

namespace QuadGraph

namespace PropertyName

def isUnread (c : Char) : Bool := c == ' ' || c == '-' || c == '_' || decide (0x80 ≤ c.toNat)

/-- The characters of a name that count. -/
def readChars (cs : List Char) : List Char := (cs.filter fun c => !isUnread c).map Char.toLower

/-- A name without what does not count. The name of what is left of "isc" would be that of a
category, so that one stays. -/
def loose (name : String) : String :=
  match name.toList with
  | a :: b :: rest =>
    if a.toLower = 'i' && b.toLower = 's' then
      let read := readChars rest
      if read = ['c'] then "isc" else String.ofList read
    else String.ofList (readChars (a :: b :: rest))
  | cs => String.ofList (readChars cs)

/-- Further names of categories. -/
def categoryAliases : List (String × List Category) :=
  [("digit", ["Nd"]), ("cntrl", ["Cc"]), ("punct", ["Pc", "Pd", "Ps", "Pe", "Pi", "Pf", "Po"]),
   ("combiningmark", ["Mn", "Mc", "Me"])]

def categories? (name : String) : Option (List Category) :=
  let single := Category.all.findSome? fun c =>
    if loose c.1 = name || loose c.2 = name then some [c.1] else none
  let group := Category.groups.findSome? fun g =>
    if loose g.1 = name || loose g.2.1 = name then some g.2.2 else none
  (single.or group).or (categoryAliases.lookup name)

/-- The set of a general category or of a group of categories. -/
def categorySet? (name : String) : Option CharSet :=
  if name = "any" then some .all
  else if name = "ascii" then some .ascii
  else if name = "assigned" then some (Category.set ["Cn"]).compl
  else (categories? name).map Category.set

def scriptCode? (name : String) : Option String :=
  scriptNames.findSome? fun s => if loose s.1 = name || loose s.2 = name then some s.1 else none

/-- Whether a name of an age stands for a version, which may be written with a point or with
a letter in front and an underscore. -/
def isAge (version name : String) : Bool :=
  name = version || name = String.ofList ('v' :: version.toList.filter (· != '.'))

def agesUpTo (name : String) : List (String × List String) → Option (List CharSet)
  | [] => none
  | (version, lines) :: ages =>
    if isAge version name then some [.ofLines lines]
    else (agesUpTo name ages).map (.ofLines lines :: ·)

/-- The characters assigned in a version or an earlier one. -/
def ageSet? (name : String) : Option CharSet :=
  (agesUpTo name ageRanges).map .unionAll

def binarySet? (name : String) : Option CharSet :=
  Property.named.findSome? fun p => if p.1.any (loose · = name) then some p.2 else none

/-- A loose name alone is that of a property, a category or a script, in this order. -/
def set? (name : String) : Option CharSet :=
  ((binarySet? name).or (categorySet? name)).or ((scriptCode? name).map Script.set)

/-- The set of a property with a value, both by their loose names. -/
def valueSet? (property value : String) : Option CharSet :=
  if property = "gc" || property = "generalcategory" then categorySet? value
  else if property = "sc" || property = "script" then (scriptCode? value).map Script.set
  else if property = "scx" || property = "scriptextensions" then
    (scriptCode? value).map Script.extendedSet
  else if property = "age" then ageSet? value
  else
    let parts? :=
      if property = "gcb" || property = "graphemeclusterbreak" then some Segments.graphemeParts
      else if property = "wb" || property = "wordbreak" then some Segments.wordParts
      else if property = "sb" || property = "sentencebreak" then some Segments.sentenceParts
      else none
    parts?.bind fun parts => Segments.played parts (loose · = value)

end PropertyName

end QuadGraph
