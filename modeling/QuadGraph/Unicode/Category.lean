import QuadGraph.Unicode.CategoryRuns
import QuadGraph.Unicode.CharSet
import QuadGraph.Unicode.ScriptRuns
import QuadGraph.Unicode.SharedScripts

/-!
# General categories and scripts

The Unicode general categories and the characters that belong to them; the
characters of a script, known by its four letters, and those that are used with
it.
-/

namespace QuadGraph

/-- General categories are known by their two letters; a category group is known by the
first letter alone. -/
abbrev Category := String

namespace Category

def all : List (Category × String) :=
  [("Lu", "Uppercase_Letter"), ("Ll", "Lowercase_Letter"), ("Lt", "Titlecase_Letter"),
   ("Lm", "Modifier_Letter"), ("Lo", "Other_Letter"), ("Mn", "Nonspacing_Mark"),
   ("Mc", "Spacing_Mark"), ("Me", "Enclosing_Mark"), ("Nd", "Decimal_Number"),
   ("Nl", "Letter_Number"), ("No", "Other_Number"), ("Pc", "Connector_Punctuation"),
   ("Pd", "Dash_Punctuation"), ("Ps", "Open_Punctuation"), ("Pe", "Close_Punctuation"),
   ("Pi", "Initial_Punctuation"), ("Pf", "Final_Punctuation"), ("Po", "Other_Punctuation"),
   ("Sm", "Math_Symbol"), ("Sc", "Currency_Symbol"), ("Sk", "Modifier_Symbol"),
   ("So", "Other_Symbol"), ("Zs", "Space_Separator"), ("Zl", "Line_Separator"),
   ("Zp", "Paragraph_Separator"), ("Cc", "Control"), ("Cf", "Format"),
   ("Co", "Private_Use"), ("Cn", "Unassigned")]

def groups : List (String × String × List Category) :=
  [("L", "Letter", ["Lu", "Ll", "Lt", "Lm", "Lo"]),
   ("LC", "Cased_Letter", ["Lu", "Ll", "Lt"]),
   ("M", "Mark", ["Mn", "Mc", "Me"]),
   ("N", "Number", ["Nd", "Nl", "No"]),
   ("P", "Punctuation", ["Pc", "Pd", "Ps", "Pe", "Pi", "Pf", "Po"]),
   ("S", "Symbol", ["Sm", "Sc", "Sk", "So"]),
   ("Z", "Separator", ["Zs", "Zl", "Zp"]),
   ("C", "Other", ["Cc", "Cf", "Cs", "Co", "Cn"])]

def runs : List Run := Run.ofLines categoryRuns

def set (names : List Category) : CharSet := Run.setOf runs names

end Category

namespace Script

def runs : List Run := Run.ofLines scriptRuns

def set (code : String) : CharSet := Run.setOf runs [code]

/-- The characters that are used with other scripts than their own. -/
def shared : CharSet := .unionAll (sharedScripts.map fun r => .ofLines r.2)

/-- The characters that are used with a script. -/
def extendedSet (code : String) : CharSet :=
  let rows := sharedScripts.filter fun r => r.1.any fun line => (line.splitOn " ").contains code
  .unionAll ((set code).diff shared :: rows.map fun r => .ofLines r.2)

end Script

end QuadGraph
