import QuadGraph.Unicode.Category
import QuadGraph.Unicode.PropertyWords

/-!
# Properties of characters

The sets of the properties that a character has or has not. Most follow from
categories and short lists by the rules of the Unicode standard.
-/

namespace QuadGraph

namespace Property

open CharSet (ofLines unionAll)

def letterNumbers : CharSet := Category.set ["Lu", "Ll", "Lt", "Lm", "Lo", "Nl"]

def alphabetic : CharSet := letterNumbers.union (ofLines PropertyWords.letterMarks)

def lowercase : CharSet := (Category.set ["Ll"]).union (ofLines PropertyWords.otherLowercase)

def uppercase : CharSet := (Category.set ["Lu"]).union (ofLines PropertyWords.otherUppercase)

def cased : CharSet := unionAll [lowercase, uppercase, Category.set ["Lt"]]

/-- Characters that are skipped where it is asked whether a letter stands at the end of a
word. -/
def caseIgnorable : CharSet :=
  (Category.set ["Mn", "Me", "Cf", "Lm", "Sk"]).union (ofLines PropertyWords.caseless)

def math : CharSet := (Category.set ["Sm"]).union (ofLines PropertyWords.otherMath)

/-- Characters that never begin what a reader takes for one character. -/
def extending : CharSet :=
  (Category.set ["Mn", "Me"]).union (ofLines PropertyWords.otherExtending)

/-- Characters that may begin what a reader takes for one character. -/
def graphemeBase : CharSet :=
  ((Category.set ["Cc", "Cf", "Cs", "Co", "Cn", "Zl", "Zp"]).union extending).compl

def blank : CharSet := .ofRanges blankRanges

def patternSyntax : CharSet := ofLines PropertyWords.patternSyntax

def patternBlank : CharSet := ofLines PropertyWords.patternBlank

def patternChars : CharSet := patternSyntax.union patternBlank

def idStart : CharSet :=
  (letterNumbers.union (ofLines PropertyWords.otherIdStart)).diff patternChars

def idContinue : CharSet :=
  (unionAll [idStart, Category.set ["Mn", "Mc", "Nd", "Pc"],
    ofLines PropertyWords.otherIdContinue]).diff patternChars

def xidStart : CharSet := idStart.diff (ofLines PropertyWords.identifierStartExceptions)

def xidContinue : CharSet := idContinue.diff (ofLines PropertyWords.identifierExceptions)

def variationSelector : CharSet := ofLines PropertyWords.variationSelector

def prependedMark : CharSet := ofLines PropertyWords.prependedMark

/-- Characters without a form of their own where there is no support for them. -/
def defaultIgnorable : CharSet :=
  (unionAll [Category.set ["Cf"], ofLines PropertyWords.otherIgnorable, variationSelector]).diff
    (unionAll [blank, prependedMark, .ofRanges [(0xfff9, 0xfffb), (0x13430, 0x13440)]])

/-- The last two code points of every plane, and some between. -/
def noncharacter : CharSet :=
  .ofRanges ((0xfdd0, 0xfdef) ::
    (List.range 17).map fun plane => (plane * 0x10000 + 0xfffe, plane * 0x10000 + 0xffff))

def changesLowercased : CharSet := ofLines PropertyWords.changesLowercased

def changesUppercased : CharSet := ofLines PropertyWords.changesUppercased

def changesTitlecased : CharSet :=
  (changesUppercased.diff (ofLines PropertyWords.changesUppercasedOnly)).union
    (ofLines PropertyWords.changesTitlecasedOnly)

def changesFolded : CharSet :=
  (changesLowercased.diff (ofLines PropertyWords.unfoldedUppercase)).union
    (ofLines PropertyWords.foldedLowercase)

def changesMapped : CharSet :=
  unionAll [changesLowercased, changesUppercased, changesTitlecased]

def hexDigit : CharSet := ofLines PropertyWords.hexDigit

/-- Letters, marks, digits, connectors and joiners. -/
def word : CharSet :=
  unionAll [alphabetic, Category.set ["Mn", "Mc", "Me", "Nd", "Pc"], .ofRanges [(0x200c, 0x200d)]]

def named : List (List String × CharSet) :=
  [(["ASCII_Hex_Digit", "AHex"], hexDigit.inter .ascii),
   (["Alphabetic", "Alpha"], alphabetic),
   (["Bidi_Control", "Bidi_C"], ofLines PropertyWords.bidiControl),
   (["Case_Ignorable", "CI"], caseIgnorable),
   (["Cased"], cased),
   (["Changes_When_Casefolded", "CWCF"], changesFolded),
   (["Changes_When_Casemapped", "CWCM"], changesMapped),
   (["Changes_When_Lowercased", "CWL"], changesLowercased),
   (["Changes_When_Titlecased", "CWT"], changesTitlecased),
   (["Changes_When_Uppercased", "CWU"], changesUppercased),
   (["Dash"], ofLines PropertyWords.dash),
   (["Default_Ignorable_Code_Point", "DI"], defaultIgnorable),
   (["Deprecated", "Dep"], ofLines PropertyWords.deprecated),
   (["Diacritic", "Dia"], ofLines PropertyWords.diacritic),
   (["Emoji"], ofLines PropertyWords.emoji),
   (["Emoji_Component", "EComp"], ofLines PropertyWords.emojiComponent),
   (["Emoji_Modifier", "EMod"], .ofRanges [(0x1f3fb, 0x1f3ff)]),
   (["Emoji_Modifier_Base", "EBase"], ofLines PropertyWords.emojiModifierBase),
   (["Emoji_Presentation", "EPres"], ofLines PropertyWords.emojiPresentation),
   (["Extended_Pictographic", "ExtPict"], ofLines PropertyWords.pictograph),
   (["Extender", "Ext"], ofLines PropertyWords.extender),
   (["Grapheme_Base", "Gr_Base"], graphemeBase),
   (["Grapheme_Extend", "Gr_Ext"], extending),
   (["Grapheme_Link", "Gr_Link"], ofLines PropertyWords.linker),
   (["Hex_Digit", "Hex"], hexDigit),
   (["Hyphen"], ofLines PropertyWords.hyphen),
   (["IDS_Binary_Operator", "IDSB"], ofLines PropertyWords.binaryDescription),
   (["IDS_Trinary_Operator", "IDST"], .ofRanges [(0x2ff2, 0x2ff3)]),
   (["IDS_Unary_Operator", "IDSU"], .ofRanges [(0x2ffe, 0x2fff)]),
   (["ID_Compat_Math_Continue"], ofLines PropertyWords.compatMathContinue),
   (["ID_Compat_Math_Start"], ofLines PropertyWords.compatMathStart),
   (["ID_Continue", "IDC"], idContinue),
   (["ID_Start", "IDS"], idStart),
   (["Ideographic", "Ideo"], ofLines PropertyWords.ideograph),
   (["Join_Control", "Join_C"], .ofRanges [(0x200c, 0x200d)]),
   (["Logical_Order_Exception", "LOE"], ofLines PropertyWords.leftmostVowel),
   (["Lowercase", "Lower"], lowercase),
   (["Math"], math),
   (["Modifier_Combining_Mark", "MCM"], ofLines PropertyWords.arabicModifier),
   (["Noncharacter_Code_Point", "NChar"], noncharacter),
   (["Other_Alphabetic", "OAlpha"], ofLines PropertyWords.letterMarks),
   (["Other_Default_Ignorable_Code_Point", "ODI"], ofLines PropertyWords.otherIgnorable),
   (["Other_Grapheme_Extend", "OGr_Ext"], ofLines PropertyWords.otherExtending),
   (["Other_ID_Continue", "OIDC"], ofLines PropertyWords.otherIdContinue),
   (["Other_ID_Start", "OIDS"], ofLines PropertyWords.otherIdStart),
   (["Other_Lowercase", "OLower"], ofLines PropertyWords.otherLowercase),
   (["Other_Math", "OMath"], ofLines PropertyWords.otherMath),
   (["Other_Uppercase", "OUpper"], ofLines PropertyWords.otherUppercase),
   (["Pattern_Syntax", "Pat_Syn"], patternSyntax),
   (["Pattern_White_Space", "Pat_WS"], patternBlank),
   (["Prepended_Concatenation_Mark", "PCM"], prependedMark),
   (["Quotation_Mark", "QMark"], ofLines PropertyWords.quotationMark),
   (["Radical"], ofLines PropertyWords.radical),
   (["Regional_Indicator", "RI"], .ofRanges [(0x1f1e6, 0x1f1ff)]),
   (["Sentence_Terminal", "STerm"], ofLines PropertyWords.sentenceTerminal),
   (["Soft_Dotted", "SD"], ofLines PropertyWords.softDotted),
   (["Terminal_Punctuation", "Term"], ofLines PropertyWords.terminalPunctuation),
   (["Unified_Ideograph", "UIdeo"], ofLines PropertyWords.unifiedIdeograph),
   (["Uppercase", "Upper"], uppercase),
   (["Variation_Selector", "VS"], variationSelector),
   (["White_Space", "WSpace", "space"], blank),
   (["XID_Continue", "XIDC"], xidContinue),
   (["XID_Start", "XIDS"], xidStart)]

end Property

end QuadGraph
