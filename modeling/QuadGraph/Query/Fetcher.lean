import QuadGraph.Store.Run

/-!
# Fetchers

A fetcher loads documents into a store when a query first comes across a term
that lives in them. It may load a document at once, or note the request and load
it later.
-/

namespace QuadGraph

inductive DocumentState where
  | unrequested
  | requested
  | fetched
  | failed
deriving DecidableEq, Repr, Inhabited

namespace DocumentState

/-- Whether matching can go ahead, with what was loaded or without. -/
def isSettled : DocumentState → Bool
  | .fetched => true
  | .failed => true
  | _ => false

def name : DocumentState → String
  | .unrequested => "Unrequested"
  | .requested => "Requested"
  | .fetched => "Fetched"
  | .failed => "Failed"

end DocumentState

/-- What a query asks of a fetcher. -/
class Fetcher (φ : Type) where
  /-- The document of a term, if it can be fetched at all. -/
  documentOf : φ → Term → Option Term
  state : φ → Term → DocumentState
  /-- Begins to load a document, which was reached through a term. The actions that this
  sets off may be nested in so many levels. -/
  fetch : (levels : Nat) → φ → (document requestedBy : Term) → StoreM (DocumentState × φ)

/-- The fetcher for which no term has a document. -/
structure NoDocuments where

instance : Fetcher NoDocuments where
  documentOf _ _ := none
  state _ _ := .unrequested
  fetch _ f _ _ := pure (.failed, f)

/-! ## Documents in memory -/

/-- A triple of terms, to be added with its document as context. -/
abbrev Triple := Term × Term × Term

/-- A fetcher that has its documents in memory. A document that it does not have fails. -/
structure MemoryFetcher where
  documents : Std.ExtTreeMap String (List Triple) := ∅
  states : Std.ExtTreeMap String DocumentState := ∅
  /-- The documents requested, in the order of the requests. -/
  requests : List Term := []
  /-- Whether a request is only noted, to be completed later. -/
  deferred : Bool := false

namespace MemoryFetcher

instance : Inhabited MemoryFetcher := ⟨{}⟩

def withDocument (f : MemoryFetcher) (document : Term) (triples : List Triple) :
    MemoryFetcher :=
  { f with documents := f.documents.insert document.key triples }

def state (f : MemoryFetcher) (document : Term) : DocumentState :=
  f.states.getD document.key .unrequested

def setState (f : MemoryFetcher) (document : Term) (state : DocumentState) : MemoryFetcher :=
  { f with states := f.states.insert document.key state }

def statementsOf (document : Term) (triples : List Triple) : List Statement :=
  triples.map fun (s, p, o) => ⟨s, p, o, document⟩

/-- Loads a document and settles it. -/
def complete (levels : Nat) (f : MemoryFetcher) (document : Term) :
    StoreM (DocumentState × MemoryFetcher) :=
  match f.documents[document.key]? with
  | none => pure (.failed, f.setState document .failed)
  | some triples => do
    let _ ← StoreM.addAll levels (statementsOf document triples)
    return (.fetched, f.setState document .fetched)

/-- Notes the request and, unless that is for later, completes it. -/
def fetch (levels : Nat) (f : MemoryFetcher) (document : Term) :
    StoreM (DocumentState × MemoryFetcher) :=
  let f := { f with requests := f.requests ++ [document] }
  if f.deferred then pure (.requested, f.setState document .requested)
  else f.complete levels document

end MemoryFetcher

instance : Fetcher MemoryFetcher where
  documentOf _ t := t.document?
  state f document := f.state document
  fetch levels f document _ := f.fetch levels document

/-! ## Restricted fetchers -/

structure FetchCall where
  document : Term
  requestedBy : Term
  state : DocumentState

/-- A fetcher in memory that serves only documents whose IRIs begin in a certain way, may
have no memory of what it has loaded, and keeps a record of the calls. -/
structure RestrictedFetcher where
  inner : MemoryFetcher := {}
  /-- What the IRIs of the documents begin with; without it, all are served. -/
  scope : Option String := none
  forgetful : Bool := false
  calls : List FetchCall := []

namespace RestrictedFetcher

instance : Inhabited RestrictedFetcher := ⟨{}⟩

def documentOf (f : RestrictedFetcher) (t : Term) : Option Term :=
  t.document?.filter fun document =>
    f.scope.all fun start => document.iri?.any fun iri => iri.startsWith start

def state (f : RestrictedFetcher) (document : Term) : DocumentState :=
  if f.forgetful then .unrequested else f.inner.state document

end RestrictedFetcher

instance : Fetcher RestrictedFetcher where
  documentOf f t := f.documentOf t
  state f document := f.state document
  fetch levels f document requestedBy := do
    let (state, inner) ← f.inner.fetch levels document
    return (state, { f with inner, calls := f.calls ++ [⟨document, requestedBy, state⟩] })

end QuadGraph
