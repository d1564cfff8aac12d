import QuadGraph.Store.Run

/-!
# Sinks

A sink takes the events of a reader and turns them into statements of a store.
Terms are issued by number and named by their numbers afterwards. A blank label
means the same node for as long as the sink is open, and never a node that the
store made otherwise, so two documents may use the same label.
-/

namespace QuadGraph

structure Sink where
  store : Store
  /-- The context of the statements that are given without one. -/
  context : Term
  /-- The terms issued so far; the number of a term is its place here. -/
  terms : List Term := []
  labels : Std.ExtTreeMap String Nat := ∅
  base : Option String := none
  prefixes : Std.ExtTreeMap String String := ∅
  /-- How many statements were handed to the store, with those it suppressed. -/
  emitted : Nat := 0

/-- An event that a reader reports. Terms are given by their numbers. -/
inductive SinkEvent where
  | base (iri : String)
  | namespaceName (name iri : String)
  | iri (iri : String)
  | blank (label : Option String)
  | literal (value : String) (datatype language : Option String)
  | collection (items : List Nat)
  | triple (subject predicate object : Nat)
  | quad (subject predicate object context : Nat)
deriving Repr

namespace Sink

def ofStore (store : Store) (context : Term) : Sink := { store, context }

def term? (s : Sink) (id : Nat) : Except StoreError Term :=
  match s.terms[id]? with
  | some t => .ok t
  | none => .error (.unknownTermId id)

def issue (s : Sink) (t : Term) : Nat × Sink :=
  (s.terms.length, { s with terms := s.terms ++ [t] })

/-- Issues a blank node that the store has not made before. -/
def issueFresh (s : Sink) : Nat × Sink :=
  let (t, store) := s.store.fresh
  { s with store }.issue t

/-- The blank node of a label; without one, a node of its own. -/
def blank (s : Sink) : Option String → Nat × Sink
  | none => s.issueFresh
  | some label =>
    match s.labels[label]? with
    | some id => (id, s)
    | none =>
      let (id, s) := s.issueFresh
      (id, { s with labels := s.labels.insert label id })

/-- The statement in the terms of these numbers; the first unknown one is the error. -/
def statement? (s : Sink) (subject predicate object : Nat) (context : Except StoreError Term) :
    Except StoreError Statement := do
  return ⟨← s.term? subject, ← s.term? predicate, ← s.term? object, ← context⟩

def emit (levels : Nat) (s : Sink) (st : Statement) : Option Sink :=
  (StoreM.add levels st s.store).map fun (_, store) =>
    { s with store, emitted := s.emitted + 1 }

/-- Hands the statement to the store, or leaves all as it was if there is none. -/
def emit? (levels : Nat) (s : Sink) :
    Except StoreError Statement → Option (Except StoreError (Option Nat) × Sink)
  | .error e => some (.error e, s)
  | .ok st => (s.emit levels st).map fun s => (.ok none, s)

/-- Takes one event. The answer is the number of the term that it issued, if any. There is
none at all if the actions of the store nest deeper than the levels given. -/
def handle (levels : Nat) (s : Sink) :
    SinkEvent → Option (Except StoreError (Option Nat) × Sink)
  | .base iri => some (.ok none, { s with base := some iri })
  | .namespaceName name iri => some (.ok none, { s with prefixes := s.prefixes.insert name iri })
  | .iri iri => some (issued (s.issue (.named iri)))
  | .blank label => some (issued (s.blank label))
  | .literal value datatype language =>
    some (issued (s.issue (.literal (.ofParts value language datatype))))
  | .collection items =>
    match items.mapM s.term? with
    | .error e => some (.error e, s)
    | .ok ts => some (issued (s.issue (.collection ts)))
  | .triple subject predicate object =>
    s.emit? levels (s.statement? subject predicate object (.ok s.context))
  | .quad subject predicate object context =>
    s.emit? levels (s.statement? subject predicate object (s.term? context))
where
  issued (r : Nat × Sink) : Except StoreError (Option Nat) × Sink := (.ok (some r.1), r.2)

end Sink

end QuadGraph
