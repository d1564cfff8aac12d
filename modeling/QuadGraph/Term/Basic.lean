import QuadGraph.Vocabulary

/-!
# Terms, quads and statements

A term is a named node, a blank node, a literal, a collection of terms, a
variable of a query, or a formula: a list of quads quoted as one term. A
statement is a quad of terms.
-/

namespace QuadGraph

/-- What a literal says besides its value: nothing, a datatype, or a language.
It never says both. -/
inductive Annotation where
  | plain
  | typed (datatype : String)
  | tagged (language : String)
deriving DecidableEq, Repr, Inhabited

structure Literal where
  value : String
  annotation : Annotation
deriving DecidableEq, Repr, Inhabited

namespace Literal

def plain (value : String) : Literal := ⟨value, .plain⟩

/-- A string typed as a string is the plain literal. -/
def typed (value datatype : String) : Literal :=
  if datatype = Xsd.string then plain value else ⟨value, .typed datatype⟩

def tagged (value language : String) : Literal := ⟨value, .tagged language⟩

/-- A language tag takes precedence over a datatype. -/
def ofParts (value : String) : Option String → Option String → Literal
  | some language, _ => tagged value language
  | none, some datatype => typed value datatype
  | none, none => plain value

def language? (l : Literal) : Option String :=
  match l.annotation with
  | .tagged language => some language
  | _ => none

def datatype? (l : Literal) : Option String :=
  match l.annotation with
  | .typed datatype => some datatype
  | _ => none

/-- The datatype that the literal has, written or implied. -/
def datatype (l : Literal) : String :=
  match l.annotation with
  | .plain => Xsd.string
  | .typed datatype => datatype
  | .tagged _ => Rdf.langString

def isNumeric (l : Literal) : Bool := l.datatype?.any Xsd.isNumeric

end Literal

/-- Four terms: what is said, and in which context. -/
structure Quad (α : Type) where
  subject : α
  predicate : α
  object : α
  context : α
deriving DecidableEq, Repr, Inhabited

inductive Position where
  | subject
  | predicate
  | object
  | context
deriving DecidableEq, Repr, Inhabited

namespace Position

def all : List Position := [.subject, .predicate, .object, .context]

def name : Position → String
  | .subject => "Subject"
  | .predicate => "Predicate"
  | .object => "Object"
  | .context => "Context"

def index : Position → Nat
  | .subject => 0
  | .predicate => 1
  | .object => 2
  | .context => 3

end Position

namespace Quad

def get {α : Type} (q : Quad α) : Position → α
  | .subject => q.subject
  | .predicate => q.predicate
  | .object => q.object
  | .context => q.context

def map {α β : Type} (f : α → β) (q : Quad α) : Quad β :=
  ⟨f q.subject, f q.predicate, f q.object, f q.context⟩

end Quad

/-- Labels, names and values may be any text. A formula keeps its quads in the
order in which they were added. -/
inductive Term where
  | named (iri : String)
  | blank (label : String)
  | literal (literal : Literal)
  | collection (items : List Term)
  | var (name : String)
  | formula (quads : List (Quad Term))
deriving Inhabited

abbrev Statement := Quad Term

/-- The name without one leading question mark. -/
def bareName (name : String) : String :=
  match name.toList with
  | '?' :: rest => String.ofList rest
  | _ => name

/-- The kinds of term, from the lowest rank to the highest. -/
inductive Kind where
  | literal
  | collection
  | formula
  | named
  | blank
  | var
deriving DecidableEq, Repr

namespace Kind

def rank : Kind → Nat
  | .literal => 0
  | .collection => 1
  | .formula => 2
  | .named => 3
  | .blank => 4
  | .var => 5

def name : Kind → String
  | .literal => "Literal"
  | .collection => "Collection"
  | .formula => "Formula"
  | .named => "NamedNode"
  | .blank => "BlankNode"
  | .var => "Variable"

end Kind

namespace Term

def plain (value : String) : Term := .literal (.plain value)

def typed (value datatype : String) : Term := .literal (.typed value datatype)

def tagged (value language : String) : Term := .literal (.tagged value language)

/-- The variable of that name; the name may be written with a question mark. -/
def ofVariable (name : String) : Term := .var (bareName name)

/-- The context of statements that are added without one. -/
def defaultGraph : Term := .named defaultGraphIri

def kind : Term → Kind
  | .named _ => .named
  | .blank _ => .blank
  | .literal _ => .literal
  | .collection _ => .collection
  | .var _ => .var
  | .formula _ => .formula

def isNamed : Term → Bool
  | .named _ => true
  | _ => false

def isBlank : Term → Bool
  | .blank _ => true
  | _ => false

def isLiteral : Term → Bool
  | .literal _ => true
  | _ => false

def isVariable : Term → Bool
  | .var _ => true
  | _ => false

def iri? : Term → Option String
  | .named iri => some iri
  | _ => none

def literal? : Term → Option Literal
  | .literal l => some l
  | _ => none

def varName? : Term → Option String
  | .var name => some name
  | _ => none

def items? : Term → Option (List Term)
  | .collection items => some items
  | _ => none

def quads? : Term → Option (List Statement)
  | .formula quads => some quads
  | _ => none

mutual

/-- Whether the term is a variable or a collection that holds one. The quads of
a formula are quoted and do not count. -/
def hasVariable : Term → Bool
  | .var _ => true
  | .collection items => anyVariable items
  | _ => false

def anyVariable : List Term → Bool
  | [] => false
  | t :: ts => t.hasVariable || anyVariable ts

end

/-- The document that a named node lives in: its IRI without the fragment. -/
def document? : Term → Option Term
  | .named iri => some (.named (String.ofList (iri.toList.takeWhile (· != '#'))))
  | _ => none

end Term

end QuadGraph
