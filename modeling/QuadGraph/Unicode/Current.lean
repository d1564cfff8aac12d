import QuadGraph.Unicode.Property

/-!
# Letters, numbers and visible characters

The classes of characters that names and quoted text go by. They know what
version 17 of the Unicode standard added to version 16; expressions do not know
these characters yet. In quoted text quotes, backslashes and line ends are
escaped by a letter, other characters without a visible form by their code
point.
-/

namespace QuadGraph

/-! ## Characters added of late -/

def addedLetters : List String :=
  ["88f c5c cdc a7ce-a7cf a7d2 a7d4 a7f1 10940-10959 10ec5-10ec7 10efa-10efb 11b60-11b67",
   "11db0-11ddb 16ea0-16eb8 16ebb-16ed3 16ff2-16ff6 187f8-187ff 18d09-18d1e 18d80-18df2",
   "1e6c0-1e6de 1e6e0-1e6f5 1e6fe-1e6ff 2b73a-2b73f 2cea2-2cead 323b0-33479"]

def addedNumbers : List String :=
  ["11de0-11de9 16ff4-16ff6"]

/-- Added characters that have a form of their own. -/
def addedVisible : List String :=
  ["88f c5c cdc 20c1 2b96 a7ce-a7cf a7d2 a7d4 a7f1 fbc3-fbd2 fd90-fd91 fdc8-fdce 10940-10959",
   "10ec5-10ec7 10ed0-10ed8 11b61 11b65 11b67 11db0-11ddb 11de0-11de9 16ea0-16eb8 16ebb-16ed3",
   "16ff2-16ff6 187f8-187ff 18d09-18d1e 18d80-18df2 1ccfa-1ccfc 1ceba-1ced0 1cee0-1cef0",
   "1e6c0-1e6de 1e6e0-1e6e2 1e6e4-1e6e5 1e6e7-1e6ed 1e6f0-1e6f4 1e6fe-1e6ff 1f6d8 1f777-1f77a",
   "1f8d0-1f8d8 1fa54-1fa57 1fa8a 1fa8e 1fac8 1facd 1faea 1faef 1fbfa 2b73a-2b73f 2cea2-2cead",
   "323b0-33479"]

/-! ## Classes -/

def letterSet : CharSet := Property.alphabetic.union (.ofLines addedLetters)

def numberSet : CharSet := (Category.set ["Nd", "Nl", "No"]).union (.ofLines addedNumbers)

def isLetterChar (c : Char) : Bool := letterSet.contains c

def isNumberChar (c : Char) : Bool := numberSet.contains c

/-- The two marks of half width that have a form of their own although they extend the
character before them. -/
def visibleMarks : CharSet := .ofRanges [(0xff9e, 0xff9f)]

/-- Controls, unassigned code points, blanks, marks that extend the character before them,
and all that may be ignored. -/
def invisibleSet : CharSet :=
  (CharSet.unionAll
    [Category.set ["Cc", "Cf", "Cs", "Co", "Cn", "Zl", "Zp", "Zs"],
     Property.extending.diff visibleMarks, Property.defaultIgnorable]).diff
    (.ofLines addedVisible)

/-- Whether a character other than the space has no visible form of its own. -/
def isInvisible (c : Char) : Bool := c != ' ' && invisibleSet.contains c

/-! ## Quoted text -/

/-- The code point in hexadecimal, between braces. -/
def codePointEscape (c : Char) : List Char :=
  ['\\', 'u', '\x7b'] ++ Nat.toDigits 16 c.toNat ++ ['\x7d']

def visibleChar (c : Char) : List Char :=
  match c with
  | '\x00' => ['\\', '0']
  | '\t' => ['\\', 't']
  | '\r' => ['\\', 'r']
  | '\n' => ['\\', 'n']
  | '"' => ['\\', '"']
  | '\\' => ['\\', '\\']
  | c => if isInvisible c then codePointEscape c else [c]

def quoted (s : String) : String :=
  String.ofList ('"' :: (s.toList.flatMap visibleChar ++ ['"']))

end QuadGraph
