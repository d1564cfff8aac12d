import QuadGraph.Action
import QuadGraph.Registry
import QuadGraph.Unicode.Current

/-!
# Stores

A store is a graph together with the actions that run when statements are
added. Actions are registered for a predicate or for a class, under the key of
the term that stands for it. Looking something up never fails. What fails is
removing a statement that is not there, and using a term number that a sink has
not issued.
-/

namespace QuadGraph

inductive StoreError where
  | statementNotFound (st : Statement)
  | unknownTermId (id : Nat)

namespace StoreError

def message : StoreError → String
  | statementNotFound st => "Statement not found: " ++ st.key
  | unknownTermId id => "Unknown term id: " ++ toString id

end StoreError

structure StoreOptions where
  /-- Whether the built-in actions are registered from the start. -/
  builtinActions : Bool := true
  /-- What the labels of fresh blank nodes begin with. -/
  blankPrefix : String := "n"
deriving DecidableEq, Repr, Inhabited

/-- A line that an action wrote: its label, the statement that it was run for, and how many
statements the store held. -/
structure Note where
  label : String
  statement : Statement
  size : Nat

structure Store where
  graph : Graph
  propertyActions : Registry Action
  classActions : Registry Action
  options : StoreOptions
  /-- How many fresh blank nodes have been made. -/
  blanks : Nat := 0
  /-- What actions noted, oldest first. -/
  journal : List Note := []

namespace Store

def builtinPropertyActions : Registry Action :=
  Registry.empty.register (Term.named Owl.sameAs).key Action.sameAs

def builtinClassActions : Registry Action :=
  (Registry.empty.register (Term.named Owl.functionalProperty).key Action.functionalClass).register
    (Term.named Owl.inverseFunctionalProperty).key Action.inverseFunctionalClass

def ofOptions (options : StoreOptions) : Store :=
  { graph := {}
    propertyActions := if options.builtinActions then builtinPropertyActions else {}
    classActions := if options.builtinActions then builtinClassActions else {}
    options }

/-- An empty store with the built-in actions. -/
def new : Store := ofOptions {}

/-- An empty store without any action. -/
def bare : Store := ofOptions { builtinActions := false }

instance : Inhabited Store := ⟨bare⟩

def size (s : Store) : Nat := s.graph.size

/-! ## Changes that run no action -/

/-- Records that two terms mean the same. The lower of the two that stand for them stays;
its bucket, its aliases and its actions take in those of the other. -/
def equate (s : Store) (a b : Term) : Store :=
  match Graph.mergeOrder? (s.graph.canon a) (s.graph.canon b) with
  | none => s
  | some (big, small) =>
    { s with
      graph := s.graph.redirect big small
      propertyActions := s.propertyActions.migrate big.key small.key
      classActions := s.classActions.migrate big.key small.key }

/-- A blank node with a label that this store has not made before. -/
def fresh (s : Store) : Term × Store :=
  let n := s.blanks + 1
  (.blank (s.options.blankPrefix ++ toString n), { s with blanks := n })

def find? (s : Store) (target : Target) : Option Entry :=
  let alike := s.graph.entries.find? fun x => x.statement.same target.said
  match target with
  | .entry e => (s.graph.entries.find? (Graph.hasId e)).or alike
  | .statement _ => alike

/-- Removes one entry; nothing if there is none. -/
def remove? (s : Store) (target : Target) : Option Store :=
  (s.find? target).map fun e => { s with graph := s.graph.drop e }

/-- Removes one entry; fails if there is none. -/
def remove (s : Store) (target : Target) : Except StoreError Store :=
  match s.remove? target with
  | some s' => .ok s'
  | none => .error (.statementNotFound target.said)

/-- Removes the matches of a pattern, up to a limit, and counts them. -/
def removeMany (s : Store) (mask : Mask) (limit : Option Nat) : Nat × Store :=
  let found := s.graph.matching mask
  let taken := found.take (limit.getD found.length)
  (taken.length, { s with graph := taken.foldl Graph.drop s.graph })

def removeContext (s : Store) (context : Term) : Nat × Store :=
  s.removeMany ⟨none, none, none, some context⟩ none

def addNote (s : Store) (label : String) (st : Statement) : Store :=
  { s with journal := s.journal ++ [⟨label, st, s.size⟩] }

/-- The actions for a statement in terms that stand for themselves: those of its
predicate, and those of its class if it is a type statement. -/
def actionsFor (s : Store) (st : Statement) : List Action :=
  s.propertyActions.get st.predicate.key ++
    (if st.predicate.iri? = some Rdf.type then s.classActions.get st.object.key else [])

/-- A formula quotes the statements of a store. -/
def toFormula (s : Store) : Term := .formula s.graph.statements

end Store

/-! ## Summaries -/

/-- Texts between an opening and a closing one, with a comma between each two. -/
def enclosed (opening closing : String) (items : List String) : String :=
  opening ++ String.intercalate ", " items ++ closing

namespace Registry

def summary {α : Type} (r : Registry α) : String :=
  enclosed "\x7b" "\x7d" (r.counts.map fun c => quoted c.1 ++ ": " ++ toString c.2)

end Registry

namespace Store

def summary (s : Store) : String :=
  enclosed "Store \x7b " " \x7d"
    ["statements: " ++ toString s.size,
     "merged: " ++ toString s.graph.equivalence.mergedCount,
     "property_actions: " ++ s.propertyActions.summary,
     "class_actions: " ++ s.classActions.summary]

end Store

end QuadGraph
