import QuadGraph.Graph.Lookup

/-!
# Actions

An action is what a store does when a statement with a certain predicate, or of
a certain class, is added. It answers a statement with a program: a tree of
operations on the store that ends in a verdict, whether the statement is to be
suppressed. The program may look at the graph and decide by what it finds.

The built-in actions give three predicates and classes of OWL their meaning: a
`sameAs` statement merges its two ends; a functional property has one object
for each subject, so a second one is merged with the first; an inverse
functional property has one subject for each object.
-/

namespace QuadGraph

/-- What to remove: this very entry, or one that says the same if it is gone; or the
first entry with this statement. -/
inductive Target where
  | entry (e : Entry)
  | statement (st : Statement)
deriving Inhabited

def Target.said : Target → Statement
  | .entry e => e.statement
  | .statement st => st

inductive Program where
  /-- The end; true asks for the statement to be suppressed. -/
  | done (suppress : Bool)
  | look (next : Graph → Program)
  /-- Adds a statement; the entry is missing if the statement was suppressed. -/
  | add (st : Statement) (next : Option Entry → Program)
  | equate (a b : Term) (next : Program)
  /-- Removes one entry; the answer is whether there was one. -/
  | remove (target : Target) (next : Bool → Program)
  /-- Removes the matches of a pattern, up to a limit; the answer is their number. -/
  | removeMany (mask : Mask) (limit : Option Nat) (next : Nat → Program)
  /-- Registers an action for a predicate. -/
  | onProperty (predicate : Term) (action : Statement → Program) (next : Bool → Program)
  /-- Registers an action for a class. -/
  | onClass (type : Term) (action : Statement → Program) (next : Bool → Program)
  /-- Makes a fresh blank node. -/
  | fresh (next : Term → Program)
  /-- Writes a line into the store's journal. -/
  | note (label : String) (st : Statement) (next : Program)
deriving Inhabited

abbrev Action := Statement → Program

namespace Action

/-- Merges subject and object; the statement itself is never kept. -/
def sameAs : Action := fun st => .equate st.subject st.object (.done true)

/-- Merges the object with the one that the subject already has. The statement is
suppressed then, for the one that is there says the same. -/
def functional : Action := fun st =>
  .look fun g =>
    match g.any? ⟨some st.subject, some st.predicate, none, none⟩ with
    | none => .done false
    | some known =>
      if (g.canon known).same st.object then .done false
      else .equate known st.object (.done true)

/-- Merges the subject with the one that the object already has. -/
def inverseFunctional : Action := fun st =>
  .look fun g =>
    match g.any? ⟨none, some st.predicate, some st.object, none⟩ with
    | none => .done false
    | some known =>
      if (g.canon known).same st.subject then .done false
      else .equate known st.subject (.done true)

/-- Makes the subject a functional property. -/
def functionalClass : Action := fun st =>
  .onProperty st.subject functional fun _ => .done false

/-- Makes the subject an inverse functional property. -/
def inverseFunctionalClass : Action := fun st =>
  .onProperty st.subject inverseFunctional fun _ => .done false

end Action

end QuadGraph
