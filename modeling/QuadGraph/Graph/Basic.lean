import QuadGraph.Equivalence
import QuadGraph.Graph.Index

/-!
# Graphs

A graph holds entries in the order in which they were added, and four indexes
of them, one for each position of a statement. The key of an entry in an index
is the key of the term that now stands for its component there. Merging two
terms therefore moves buckets and leaves every statement as it was added.
-/

namespace QuadGraph

structure Graph where
  entries : List Entry := []
  indexes : Quad Index := ⟨∅, ∅, ∅, ∅⟩
  equivalence : Equivalence := {}
  /-- The number of the next entry. -/
  nextId : Nat := 0

namespace Graph

def size (g : Graph) : Nat := g.entries.length

def statements (g : Graph) : List Statement := g.entries.map Entry.statement

/-! ## Terms up to merging -/

def canon (g : Graph) (t : Term) : Term := g.equivalence.find t

def canonKey (g : Graph) (t : Term) : String := (g.canon t).key

def canonStatement (g : Graph) (st : Statement) : Statement := st.map g.canon

def aliases (g : Graph) (t : Term) : List Term := g.equivalence.aliases (g.canonKey t)

/-- The IRIs of the term that stands for this one and of all that were merged into it. -/
def iris (g : Graph) (t : Term) : List String :=
  (g.canon t :: g.aliases t).filterMap Term.iri?

def redirect (g : Graph) (big small : Term) : Graph :=
  { g with
    indexes := g.indexes.map fun i => i.move big.key small.key
    equivalence := g.equivalence.union big small }

/-- Of two terms that both stand for themselves, the one that will be merged away and the
one that will stay: the lower stays. -/
def mergeOrder? (a b : Term) : Option (Term × Term) :=
  match a.cmp b with
  | .eq => none
  | .lt => some (b, a)
  | .gt => some (a, b)

/-! ## Adding and removing -/

/-- Adds an entry for the statement, under the keys of its terms as they are now. -/
def insert (g : Graph) (st : Statement) : Entry × Graph :=
  let e : Entry := ⟨g.nextId, st⟩
  (e, { g with
        entries := g.entries ++ [e]
        indexes := g.indexes.mapAt fun p i => i.add (g.canonKey (st.get p)) e
        nextId := g.nextId + 1 })

def hasId (e x : Entry) : Bool := x.id == e.id

def drop (g : Graph) (e : Entry) : Graph :=
  { g with
    entries := g.entries.eraseP (hasId e)
    indexes := g.indexes.mapAt fun p i => i.drop (g.canonKey (e.statement.get p)) e }

/-- Entries made from now on are numbered from n at least. -/
def skipTo (g : Graph) (n : Nat) : Graph := { g with nextId := max g.nextId n }

end Graph

end QuadGraph
