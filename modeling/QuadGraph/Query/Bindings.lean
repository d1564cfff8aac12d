import QuadGraph.Term.Order
import QuadGraph.Term.Results
import Std.Data.ExtTreeMap

/-!
# Bindings

One solution of a query: the terms that variables stand for. Callers may write
the name of a variable with a question mark, which is not part of it; matching
uses names as they are.
-/

namespace QuadGraph

structure Bindings where
  values : Std.ExtTreeMap String Term := ∅

namespace Bindings

def empty : Bindings := {}

instance : Inhabited Bindings := ⟨empty⟩

def get? (b : Bindings) (name : String) : Option Term := b.values[bareName name]?

def contains (b : Bindings) (name : String) : Bool := b.values.contains (bareName name)

/-- Binds the variable of exactly this name. -/
def bind (b : Bindings) (name : String) (t : Term) : Bindings := ⟨b.values.insert name t⟩

/-- Binds a variable; a term that it stood for before is replaced. -/
def insert (b : Bindings) (name : String) (t : Term) : Bindings := b.bind (bareName name) t

def ofList (pairs : List (String × Term)) : Bindings :=
  pairs.foldl (fun b p => b.insert p.1 p.2) empty

def size (b : Bindings) : Nat := b.values.size

def isEmpty (b : Bindings) : Bool := b.values.isEmpty

/-- Names with their terms, in the order of the names. -/
def toList (b : Bindings) : List (String × Term) := b.values.toList

def names (b : Bindings) : List String := b.values.keys

/-- Both together; where both bind a variable the second one holds. -/
def merge (a b : Bindings) : Bindings := ⟨a.values ∪ b.values⟩

/-- Of two values for a variable the merged bindings have the second one. -/
theorem getElem?_merge (a b : Bindings) (name : String) :
    (a.merge b).values[name]? = b.values[name]?.or a.values[name]? :=
  Std.ExtTreeMap.getElem?_union

def same (a b : Bindings) : Bool :=
  a.names == b.names && (a.toList.zip b.toList).all fun p => p.1.2.same p.2.2

mutual

/-- The term with bound variables replaced, also those in collections. -/
def substitute (b : Bindings) : Term → Term
  | .var name => (b.values[name]?).getD (.var name)
  | .collection items => .collection (substituteAll b items)
  | t => t

def substituteAll (b : Bindings) : List Term → List Term
  | [] => []
  | t :: ts => substitute b t :: substituteAll b ts

end

def toJson (b : Bindings) : Json := .object (b.toList.map fun p => (p.1, p.2.toJson))

end Bindings

end QuadGraph
