import QuadGraph.Query.Unify

/-!
# The order of matching

Before each step the statements that are still to be matched are looked at
under the bindings so far. The one with the fewest positions still open is
taken next, and of those the one with the fewest candidates.
-/

namespace QuadGraph

/-- A statement of a pattern with the entries that may match it. -/
structure Prepared where
  /-- The place of the statement in its pattern. -/
  index : Nat
  /-- In how many positions a variable is left. -/
  free : Nat
  candidates : List Entry

namespace Prepared

def matched : List Position := [.subject, .predicate, .object]

/-- The shorter of two lists of candidates; the first one on a tie. -/
def narrower (best : Option (List Entry)) (bucket : List Entry) : Option (List Entry) :=
  match best with
  | none => some bucket
  | some b => if bucket.length < b.length then some bucket else some b

/-- The candidates for a statement: the shortest of the buckets of the positions in which no
variable is left, or all entries. -/
def ofStatement (g : Graph) (b : Bindings) (index : Nat) (st : Statement) : Prepared :=
  let terms := matched.map fun p => (p, b.substitute (st.get p))
  let fixed := terms.filter fun x => !x.2.hasVariable
  let best := fixed.foldl (fun best x => narrower best (g.bucket x.1 x.2)) none
  { index
    free := (terms.filter fun x => x.2.hasVariable).length
    candidates := best.getD g.entries }

/-- Fewer open positions first, then fewer candidates. -/
def before (x y : Prepared) : Bool :=
  decide (x.free < y.free) ||
    (x.free == y.free && decide (x.candidates.length ≤ y.candidates.length))

/-- The order in which to match; equally good ones keep the order of the pattern. -/
def order (ps : List Prepared) : List Prepared := ps.mergeSort before

end Prepared

end QuadGraph
