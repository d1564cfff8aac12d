import QuadGraph.Graph.Lookup

/-!
# Export

What a writer of statements needs to know of them: which subjects there are,
and which of them must be written under a name of their own. A blank node that
is referred to exactly once can be written where it is referred to; every other
subject is a root.
-/

namespace QuadGraph

/-- How often each blank node, known by its key, is referred to. -/
abbrev ReferenceCounts := Std.ExtTreeMap String Nat

namespace ReferenceCounts

def count (c : ReferenceCounts) (key : String) : Nat := c.getD key 0

def increment (c : ReferenceCounts) (key : String) : ReferenceCounts :=
  c.insert key (count c key + 1)

end ReferenceCounts

namespace Term

mutual

/-- Counts the blank nodes in a term, also in collections and in the subjects and objects of
formulas. -/
def countReferences : Term → ReferenceCounts → ReferenceCounts
  | .blank label, counts => counts.increment (blank label).key
  | .collection items, counts => countInItems items counts
  | .formula quads, counts => countInQuads quads counts
  | _, counts => counts

def countInItems : List Term → ReferenceCounts → ReferenceCounts
  | [], counts => counts
  | t :: ts, counts => countInItems ts (t.countReferences counts)

def countInQuad : Quad Term → ReferenceCounts → ReferenceCounts
  | ⟨s, _, o, _⟩, counts => o.countReferences (s.countReferences counts)

def countInQuads : List (Quad Term) → ReferenceCounts → ReferenceCounts
  | [], counts => counts
  | q :: qs, counts => countInQuads qs (countInQuad q counts)

end

end Term

structure ExportPlan where
  /-- Every subject once, in the order of their first statements. -/
  subjects : List Term
  incoming : ReferenceCounts

namespace ExportPlan

/-- The different subjects of statements, in the order in which they first occur. -/
def firstSubjects : List Statement → List String → List Term
  | [], _ => []
  | st :: sts, seen =>
    let key := st.subject.key
    if seen.contains key then firstSubjects sts seen
    else st.subject :: firstSubjects sts (key :: seen)

def ofStatements (sts : List Statement) : ExportPlan :=
  { subjects := firstSubjects sts []
    incoming := sts.foldl (fun counts st => st.object.countReferences counts) ∅ }

/-- Whether a term can be written where it is referred to. -/
def isInline (p : ExportPlan) (t : Term) : Bool := t.isBlank && p.incoming[t.key]? == some 1

/-- The subjects that need a name of their own. -/
def roots (p : ExportPlan) : List Term := p.subjects.filter fun t => !p.isInline t

end ExportPlan

/-- The statements to export: all, or those of one context. -/
def Graph.toExport (g : Graph) (context : Option Term) : List Statement :=
  (g.matching ⟨none, none, none, context⟩).map Entry.statement

def statementLines (sts : List Statement) : String :=
  String.join (sts.map fun st => st.key ++ "\n")

end QuadGraph
