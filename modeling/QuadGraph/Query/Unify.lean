import QuadGraph.Graph.Lookup
import QuadGraph.Query.Pattern

/-!
# Unification

Matching a statement of a pattern with a statement of a graph. A variable that
stands for nothing yet is bound to the term that stands for the one found;
everything else must have the same term standing for it. A collection that
holds variables is matched item by item.
-/

namespace QuadGraph

namespace Graph

/-- Bindings, and the names of the variables bound since matching began. -/
abbrev Extension := Bindings × List String

def alike (g : Graph) (a b : Term) : Bool := g.canonKey a == g.canonKey b

mutual

def unifyTerm (g : Graph) : Term → Term → Extension → Option Extension
  | .var name, found, (b, bound) =>
    match b.get? name with
    | some t => if g.alike t found then some (b, bound) else none
    | none => some (b.bind name (g.canon found), bound ++ [name])
  | .collection items, found, x =>
    if Term.anyVariable items then
      match found with
      | .collection others => unifyItems g items others x
      | _ => none
    else if g.alike (.collection items) found then some x
    else none
  | t, found, x => if g.alike t found then some x else none

/-- Matches two lists item by item; they must be equally long. -/
def unifyItems (g : Graph) : List Term → List Term → Extension → Option Extension
  | [], [], x => some x
  | t :: ts, u :: us, x => (unifyTerm g t u x).bind (unifyItems g ts us)
  | _, _, _ => none

end

/-- Whether a variable just bound passes its constraint. -/
def passes (p : Pattern) (b : Bindings) (name : String) : Bool :=
  match p.constraint? name, b.get? name with
  | some c, some t => c.test t
  | _, _ => true

/-- Matches subject, predicate and object. The constraints of the variables that are bound
by it must pass. -/
def unifyStatement (g : Graph) (p : Pattern) (st found : Statement) (b : Bindings) :
    Option Bindings := do
  let x ← unifyTerm g st.subject found.subject (b, [])
  let x ← unifyTerm g st.predicate found.predicate x
  let (b, bound) ← unifyTerm g st.object found.object x
  if bound.all (passes p b) then some b else none

end Graph

end QuadGraph
