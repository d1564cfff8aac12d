import QuadGraph.Unicode.Property

/-!
# Places where text may be cut

The parts that characters play where text is cut into what a reader takes for
characters, into words and into sentences. Each list of parts is in order of
precedence: a character plays the first part whose set it is in.
-/

namespace QuadGraph

namespace Segments

open CharSet (unionAll ofRanges)

/-- A part with its names and the characters that may play it. -/
abbrev Part := List String × CharSet

/-- The characters that play a part: those that play none before it. -/
def played (parts : List Part) (name : String → Bool) : Option CharSet :=
  go .empty parts
where
  go (taken : CharSet) : List Part → Option CharSet
    | [] => none
    | (names, s) :: parts =>
      if names.any name then some (s.diff taken) else go (taken.union s) parts

def carriageReturn : Part := (["CR"], ofRanges [(0x0d, 0x0d)])

def lineFeed : Part := (["LF"], ofRanges [(0x0a, 0x0a)])

def joiner : CharSet := ofRanges [(0x200d, 0x200d)]

def regionalIndicator : Part := (["Regional_Indicator", "RI"], ofRanges [(0x1f1e6, 0x1f1ff)])

def emojiModifier : CharSet := ofRanges [(0x1f3fb, 0x1f3ff)]

def format : CharSet := Category.set ["Cf"]

/-- Marks before a number, which count as digits. -/
def numberMarks : CharSet := Property.prependedMark.diff (ofRanges [(0x70f, 0x70f)])

def digits : CharSet :=
  unionAll [Category.set ["Nd"], ofRanges [(0x66b, 0x66c)]]

/-! ## Characters -/

/-- Spacing marks that do not belong to the character before them. -/
def looseMarks : CharSet :=
  ofRanges [(0x102b, 0x102c), (0x1038, 0x1038), (0x1062, 0x1064), (0x1067, 0x106d),
    (0x1083, 0x1083), (0x1087, 0x108c), (0x108f, 0x108f), (0x109a, 0x109c), (0x1a61, 0x1a61),
    (0x1a63, 0x1a64), (0xaa7b, 0xaa7b), (0xaa7d, 0xaa7d), (0x11720, 0x11721)]

/-- Korean syllables of two letters; those of three follow them. -/
def openSyllables : CharSet :=
  ofRanges ((List.range 399).map fun i => (0xac00 + 28 * i, 0xac00 + 28 * i))

def graphemeParts : List Part :=
  [carriageReturn, lineFeed, (["ZWJ"], joiner),
   (["Extend", "EX"], Property.extending.union emojiModifier),
   regionalIndicator,
   (["Prepend", "PP"],
    (CharSet.ofLines PropertyWords.prependedLetter).union Property.prependedMark),
   (["Control", "CN"],
    unionAll [Category.set ["Zl", "Zp", "Cc", "Cf"],
      (Category.set ["Cn"]).inter Property.defaultIgnorable]),
   (["SpacingMark", "SM"],
    ((Category.set ["Mc"]).union (ofRanges [(0xe33, 0xe33), (0xeb3, 0xeb3)])).diff looseMarks),
   (["L"], ofRanges [(0x1100, 0x115f), (0xa960, 0xa97c)]),
   (["V"],
    ofRanges [(0x1160, 0x11a7), (0xd7b0, 0xd7c6), (0x16d63, 0x16d63), (0x16d67, 0x16d6a)]),
   (["T"], ofRanges [(0x11a8, 0x11ff), (0xd7cb, 0xd7fb)]),
   (["LV"], openSyllables),
   (["LVT"], ofRanges [(0xac00, 0xd7a3)])]

/-! ## Words -/

/-- Signs that are part of words although they are not alphabetic. -/
def wordSigns : CharSet :=
  ofRanges [(0x2c2, 0x2c5), (0x2d2, 0x2d7), (0x2de, 0x2df), (0x2e5, 0x2eb), (0x2ed, 0x2ed),
    (0x2ef, 0x2ff), (0x55a, 0x55c), (0x55e, 0x55e), (0x58a, 0x58a), (0x5f3, 0x5f3),
    (0xa708, 0xa716), (0xa720, 0xa721), (0xa789, 0xa78a), (0xab5b, 0xab5b)]

def wordParts : List Part :=
  [carriageReturn, lineFeed,
   (["Newline", "NL"], ofRanges [(0x0b, 0x0c), (0x85, 0x85), (0x2028, 0x2029)]),
   (["ZWJ"], joiner),
   (["Extend"], unionAll [Property.extending, emojiModifier, Category.set ["Mc"]]),
   regionalIndicator,
   (["MidNum", "MN"],
    ofRanges [(0x2c, 0x2c), (0x3b, 0x3b), (0x37e, 0x37e), (0x589, 0x589), (0x60c, 0x60d),
      (0x66c, 0x66c), (0x7f8, 0x7f8), (0x2044, 0x2044), (0xfe10, 0xfe10), (0xfe14, 0xfe14),
      (0xfe50, 0xfe50), (0xfe54, 0xfe54), (0xff0c, 0xff0c), (0xff1b, 0xff1b)]),
   (["Numeric", "NU"], numberMarks.union digits),
   (["Format", "FO"], format.diff (ofRanges [(0x70f, 0x70f), (0x200b, 0x200d)])),
   (["Katakana", "KA"],
    (Script.set "Kana").union
      (ofRanges [(0x3031, 0x3035), (0x309b, 0x309c), (0x30a0, 0x30a0), (0x30fc, 0x30fc),
        (0xff70, 0xff70)])),
   (["Hebrew_Letter", "HL"], (Category.set ["Lo"]).inter (Script.set "Hebr")),
   (["Single_Quote", "SQ"], ofRanges [(0x27, 0x27)]),
   (["Double_Quote", "DQ"], ofRanges [(0x22, 0x22)]),
   (["MidNumLet", "MB"],
    ofRanges [(0x2e, 0x2e), (0x2018, 0x2019), (0x2024, 0x2024), (0xfe52, 0xfe52),
      (0xff07, 0xff07), (0xff0e, 0xff0e)]),
   (["MidLetter", "ML"],
    ofRanges [(0x3a, 0x3a), (0xb7, 0xb7), (0x387, 0x387), (0x55f, 0x55f), (0x5f4, 0x5f4),
      (0x2027, 0x2027), (0xfe13, 0xfe13), (0xfe55, 0xfe55), (0xff1a, 0xff1a)]),
   (["ExtendNumLet", "EX"], (Category.set ["Pc"]).union (ofRanges [(0x202f, 0x202f)])),
   (["ALetter", "LE"],
    (unionAll [Property.alphabetic, wordSigns, ofRanges [(0x70f, 0x70f)]]).diff
      (unionAll [.ofLines PropertyWords.ideograph, .ofLines PropertyWords.complexContext,
        Script.set "Hira"])),
   (["WSegSpace"],
    ofRanges [(0x20, 0x20), (0x1680, 0x1680), (0x2000, 0x2006), (0x2008, 0x200a),
      (0x205f, 0x205f), (0x3000, 0x3000)])]

/-! ## Sentences -/

/-- Georgian letters, which have no case at the beginning of a sentence. -/
def georgianLetters : CharSet :=
  ofRanges [(0x10d0, 0x10fa), (0x10fd, 0x10ff), (0x1c90, 0x1cba), (0x1cbd, 0x1cbf)]

def sentenceParts : List Part :=
  [carriageReturn, lineFeed,
   (["Sep", "SE"], ofRanges [(0x85, 0x85), (0x2028, 0x2029)]),
   (["Extend", "EX"], unionAll [Property.extending, Category.set ["Mc"], joiner]),
   (["Numeric", "NU"], numberMarks.union digits),
   (["Format", "FO"], format.diff (ofRanges [(0x200c, 0x200d)])),
   (["Sp", "SP"], Property.blank),
   (["Lower", "LO"], Property.lowercase.diff georgianLetters),
   (["Upper", "UP"], (Property.uppercase.union (Category.set ["Lt"])).diff georgianLetters),
   (["OLetter", "LE"],
    Property.alphabetic.union (ofRanges [(0xa0, 0xa0), (0x5f3, 0x5f3)])),
   (["ATerm", "AT"],
    ofRanges [(0x2e, 0x2e), (0x2024, 0x2024), (0xfe52, 0xfe52), (0xff0e, 0xff0e)]),
   (["STerm", "ST"], .ofLines PropertyWords.sentenceTerminal),
   (["SContinue", "SC"],
    ofRanges [(0x2c, 0x2d), (0x3a, 0x3b), (0x37e, 0x37e), (0x55d, 0x55d), (0x60c, 0x60d),
      (0x7f8, 0x7f8), (0x1802, 0x1802), (0x1808, 0x1808), (0x2013, 0x2014), (0x3001, 0x3001),
      (0xfe10, 0xfe11), (0xfe13, 0xfe14), (0xfe31, 0xfe32), (0xfe50, 0xfe51), (0xfe54, 0xfe55),
      (0xfe58, 0xfe58), (0xfe63, 0xfe63), (0xff0c, 0xff0d), (0xff1a, 0xff1b), (0xff64, 0xff64)]),
   (["Close", "CL"],
    unionAll [Category.set ["Ps", "Pe", "Pi", "Pf"],
      ofRanges [(0x22, 0x22), (0x27, 0x27), (0x275b, 0x2760), (0x2e00, 0x2e01),
        (0x2e06, 0x2e08), (0x2e0b, 0x2e0b), (0x1f676, 0x1f678)]])]

end Segments

end QuadGraph
