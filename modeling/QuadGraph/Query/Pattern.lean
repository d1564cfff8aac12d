import QuadGraph.Query.Bindings
import QuadGraph.Regex.Meaning
import QuadGraph.Term.Value
import QuadGraph.Unicode.Current

/-!
# Patterns and queries

A pattern is a list of statements to find, some of whose terms are variables,
with constraints on variables and with optional patterns that extend a solution
where they can. A query is a pattern with bindings to start from and a limit on
the work to be done.
-/

namespace QuadGraph

/-- What may be asked of the term that a variable is bound to. -/
inductive Constraint where
  /-- Above or below a bound in the order of values. -/
  | greaterThan (bound : Term)
  | lessThan (bound : Term)
  /-- Exactly this term. -/
  | equals (term : Term)
  /-- A literal whose value matches the expression. -/
  | matching (r : Regex)
  | satisfies (p : Term → Bool)

namespace Constraint

def test : Constraint → Term → Bool
  | .greaterThan bound, t => t.compareValues? bound == some .gt
  | .lessThan bound, t => t.compareValues? bound == some .lt
  | .equals u, t => t.same u
  | .matching r, t => t.literal?.any fun l => r.isMatch l.value
  | .satisfies p, t => p t

end Constraint

structure Pattern where
  statements : List Statement
  optionals : List Pattern
  /-- The constraint on each variable that has one. -/
  constraints : Std.ExtTreeMap String Constraint

namespace Pattern

def empty : Pattern := ⟨[], [], ∅⟩

instance : Inhabited Pattern := ⟨empty⟩

/-- Adds a statement to find. The context does not matter. -/
def add (p : Pattern) (subject predicate object : Term) : Pattern :=
  { p with statements := p.statements ++ [⟨subject, predicate, object, .defaultGraph⟩] }

def addOptional (p : Pattern) (optional : Pattern) : Pattern :=
  { p with optionals := p.optionals ++ [optional] }

/-- Puts a constraint on a variable, in place of one that it had. -/
def constrain (p : Pattern) (name : String) (c : Constraint) : Pattern :=
  { p with constraints := p.constraints.insert (bareName name) c }

def constraint? (p : Pattern) (name : String) : Option Constraint := p.constraints[name]?

def size (p : Pattern) : Nat := p.statements.length

end Pattern

/-! ## Variables -/

namespace Term

mutual

/-- The names of the variables in a term, also those in collections. -/
def vars : Term → List String
  | .var name => [name]
  | .collection items => varsOf items
  | _ => []

def varsOf : List Term → List String
  | [] => []
  | t :: ts => t.vars ++ varsOf ts

end

end Term

/-- The names of the variables in a statement; the context does not count. -/
def Quad.vars (st : Statement) : List String :=
  st.subject.vars ++ st.predicate.vars ++ st.object.vars

namespace Pattern

mutual

/-- The names of the variables in a pattern and its optional patterns, as they occur. -/
def occurrences : Pattern → List String
  | ⟨statements, optionals, _⟩ => statements.flatMap Quad.vars ++ occurrencesIn optionals

def occurrencesIn : List Pattern → List String
  | [] => []
  | p :: ps => p.occurrences ++ occurrencesIn ps

end

/-- Each variable once, in order. -/
def vars (p : Pattern) : List String := (p.occurrences.mergeSort).eraseDups

/-! ## Summary -/

def statementSummary (st : Statement) : String :=
  "Statement \x7b subject: " ++ st.subject.summary ++ ", predicate: " ++
    st.predicate.summary ++ ", object: " ++ st.object.summary ++ ", context: " ++
    st.context.summary ++ " \x7d"

def listSummary (items : List String) : String := "[" ++ String.intercalate ", " items ++ "]"

mutual

def summary : Pattern → String
  | ⟨statements, optionals, constraints⟩ =>
    "GraphPattern \x7b statements: " ++ listSummary (statements.map statementSummary) ++
      ", optional: " ++ listSummary (summaries optionals) ++ ", constrained: " ++
      listSummary (constraints.keys.map quoted) ++ " \x7d"

def summaries : List Pattern → List String
  | [] => []
  | p :: ps => p.summary :: summaries ps

end

end Pattern

structure Query where
  pattern : Pattern
  name : Option String := none
  /-- What variables stand for from the start. -/
  initial : Bindings := {}
  /-- How many tasks may be worked on; without a number, any. -/
  maxFuel : Option Nat := none

namespace Query

def withBinding (q : Query) (name : String) (t : Term) : Query :=
  { q with initial := q.initial.insert name t }

end Query

end QuadGraph
