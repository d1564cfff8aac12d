import QuadGraph.Store.Basic

/-!
# Running actions

Adding a statement runs its actions first, and what they do to the store may
run others in turn. Every operation below therefore takes the number of levels
that actions may be nested in; it has no answer when they nest deeper. With a
greater number an operation that has an answer keeps it.

All actions of an addition are run on the same statement: the one added, in the
terms that stood for its terms when the addition began. The statement is
stored as it was given unless one of them asked for it to be suppressed.
-/

namespace QuadGraph

/-- A change of a store that may fail to end. -/
abbrev StoreM := StateT Store Option

namespace StoreM

def endless {α : Type} : StoreM α := fun _ => none

/-- Runs actions on one statement, one after the other. True if any of them asked for it
to be suppressed. -/
def applyAll (apply : Action → Statement → StoreM Bool) : List Action → Statement → StoreM Bool
  | [], _ => pure false
  | a :: as, st => do
    let first ← apply a st
    let others ← applyAll apply as st
    return first || others

/-- Runs an action on statements that are there already. Each is put in the terms that
stand for its own at that moment. -/
def applyToEach (apply : Action → Statement → StoreM Bool) (a : Action) :
    List Entry → StoreM Bool
  | [] => pure false
  | e :: es => do
    let s ← get
    let first ← apply a (s.graph.canonStatement e.statement)
    let others ← applyToEach apply a es
    return first || others

/-- Adds a statement; the entry is missing if it was suppressed. -/
def addWith (apply : Action → Statement → StoreM Bool) (st : Statement) :
    StoreM (Option Entry) := do
  let s ← get
  let canonical := s.graph.canonStatement st
  let suppressed ← applyAll apply (s.actionsFor canonical) canonical
  if suppressed then return none
  modifyGet fun s =>
    let (e, graph) := s.graph.insert st
    (some e, { s with graph })

/-- Registers an action for a predicate and runs it on the statements that have it. -/
def onPropertyWith (apply : Action → Statement → StoreM Bool) (predicate : Term)
    (a : Action) : StoreM Bool := do
  modify fun s =>
    { s with propertyActions := s.propertyActions.register (s.graph.canonKey predicate) a }
  let s ← get
  applyToEach apply a (s.graph.matching ⟨none, some predicate, none, none⟩)

/-- Registers an action for a class and runs it on the statements that give it as a type. -/
def onClassWith (apply : Action → Statement → StoreM Bool) (type : Term) (a : Action) :
    StoreM Bool := do
  modify fun s =>
    { s with classActions := s.classActions.register (s.graph.canonKey type) a }
  let s ← get
  applyToEach apply a (s.graph.matching ⟨none, some (.named Rdf.type), some type, none⟩)

/-- Runs a program. Actions that its operations set off are run by the given function. -/
def runWith (apply : Action → Statement → StoreM Bool) : Program → StoreM Bool
  | .done suppress => pure suppress
  | .look next => do
    let s ← get
    runWith apply (next s.graph)
  | .add st next => do
    let e ← addWith apply st
    runWith apply (next e)
  | .equate a b next => do
    modify fun s => s.equate a b
    runWith apply next
  | .remove target next => do
    let found ← modifyGet fun s =>
      match s.remove? target with
      | some s' => (true, s')
      | none => (false, s)
    runWith apply (next found)
  | .removeMany mask limit next => do
    let n ← modifyGet fun s => s.removeMany mask limit
    runWith apply (next n)
  | .onProperty predicate action next => do
    let suppressed ← onPropertyWith apply predicate action
    runWith apply (next suppressed)
  | .onClass type action next => do
    let suppressed ← onClassWith apply type action
    runWith apply (next suppressed)
  | .fresh next => do
    let t ← modifyGet Store.fresh
    runWith apply (next t)
  | .note label st next => do
    modify fun s => s.addNote label st
    runWith apply next

/-- Runs an action on a statement, with actions nested in at most that many levels. -/
def apply : Nat → Action → Statement → StoreM Bool
  | 0, _, _ => endless
  | levels + 1, a, st => runWith (apply levels) (a st)

def add (levels : Nat) (st : Statement) : StoreM (Option Entry) := addWith (apply levels) st

def onProperty (levels : Nat) (predicate : Term) (a : Action) : StoreM Bool :=
  onPropertyWith (apply levels) predicate a

def onClass (levels : Nat) (type : Term) (a : Action) : StoreM Bool :=
  onClassWith (apply levels) type a

/-- Adds statements one after the other and counts those that were not suppressed. -/
def addAll (levels : Nat) : List Statement → StoreM Nat
  | [] => pure 0
  | st :: sts => do
    let e ← add levels st
    let n ← addAll levels sts
    return if e.isSome then n + 1 else n

end StoreM

end QuadGraph
