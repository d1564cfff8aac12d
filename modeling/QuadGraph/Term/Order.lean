import QuadGraph.Term.Key

/-!
# Equality and order of terms

`Term.same` is structural equality; two formulas are the same when they quote
the same quads, in whatever order. `Term.cmp` orders all terms: by the rank of
their kinds first, so that a literal comes before a named node and a named node
before a blank one, and within a kind by what the term holds.
-/

namespace QuadGraph

/-- By value, then by language, then by datatype; one that is absent comes first. -/
def Literal.cmp (a b : Literal) : Ordering :=
  (compare a.value b.value).then
    ((compare a.language? b.language?).then (compare a.datatype? b.datatype?))

namespace Term

mutual

def same : Term → Term → Bool
  | .named a, .named b => a == b
  | .blank a, .blank b => a == b
  | .var a, .var b => a == b
  | .literal a, .literal b => a == b
  | .collection as, .collection bs => sameItems as bs
  | .formula as, .formula bs => (formula as).key == (formula bs).key
  | _, _ => false

def sameItems : List Term → List Term → Bool
  | [], [] => true
  | a :: as, b :: bs => a.same b && sameItems as bs
  | _, _ => false

end

mutual

def cmp : Term → Term → Ordering
  | .named a, .named b => compare a b
  | .blank a, .blank b => compare a b
  | .var a, .var b => compare a b
  | .literal a, .literal b => a.cmp b
  | .collection as, .collection bs => cmpItems as bs
  | .formula as, .formula bs => compare (formula as).key (formula bs).key
  | a, b => compare a.kind.rank b.kind.rank

/-- The first items that differ decide; else the shorter list comes first. -/
def cmpItems : List Term → List Term → Ordering
  | [], [] => .eq
  | [], _ :: _ => .lt
  | _ :: _, [] => .gt
  | a :: as, b :: bs => (a.cmp b).then (cmpItems as bs)

end

instance : BEq Term := ⟨same⟩

instance : Ord Term := ⟨cmp⟩

def le (a b : Term) : Bool := (a.cmp b).isLE

/-- The terms from the lowest to the highest; equal ones keep their order. -/
def sort (ts : List Term) : List Term := ts.mergeSort le

/-- How many of the terms are different ones. -/
def distinctCount (ts : List Term) : Nat := (ts.map key).eraseDups.length

end Term

def Quad.same (a b : Statement) : Bool :=
  Position.all.all fun position => (a.get position).same (b.get position)

end QuadGraph
