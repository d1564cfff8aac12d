import QuadGraph.Graph.Basic

/-!
# Looking statements up

A pattern gives a term or leaves a wildcard in each of the four positions. An
entry matches it if, in each position given, its component and the given term
have the same term standing for them. Only one bucket is scanned: of the
positions given, the shortest one.
-/

namespace QuadGraph

/-- A position that is not given is a wildcard. -/
abbrev Mask := Quad (Option Term)

namespace Mask

def wildcard? (m : Mask) : Option Position :=
  Position.all.find? fun p => (m.get p).isNone

end Mask

namespace Graph

def bucket (g : Graph) (p : Position) (t : Term) : List Entry :=
  (g.indexes.get p).bucket (g.canonKey t)

def given (g : Graph) (m : Mask) : List (Position × String) :=
  Position.all.filterMap fun p => (m.get p).map fun t => (p, g.canonKey t)

/-- The shorter of two buckets; the first one on a tie. -/
def shorter (a b : Position × List Entry) : Position × List Entry :=
  if b.2.length < a.2.length then b else a

/-- The shortest of the buckets under the given keys; nothing when one is missing. -/
def shortestBucket? (g : Graph) (ks : List (Position × String)) :
    Option (Position × List Entry) := do
  let buckets ← ks.mapM fun k => (g.indexes.get k.1)[k.2]?.map (k.1, ·)
  match buckets with
  | [] => none
  | b :: bs => some (bs.foldl shorter b)

/-- Whether a statement has the given keys in all positions but one. -/
def fits (g : Graph) (ks : List (Position × String)) (skipped : Position) (e : Entry) : Bool :=
  ks.all fun k => k.1 == skipped || g.canonKey (e.statement.get k.1) == k.2

/-- The entries to scan for a pattern, and the test that the scanned ones must pass. -/
def scan (g : Graph) (m : Mask) : List Entry × (Entry → Bool) :=
  match g.given m with
  | [] => (g.entries, fun _ => true)
  | [k] => ((g.indexes.get k.1).bucket k.2, fun _ => true)
  | ks =>
    match g.shortestBucket? ks with
    | none => ([], fun _ => true)
    | some (p, entries) => (entries, g.fits ks p)

def matching (g : Graph) (m : Mask) : List Entry := (g.scan m).1.filter (g.scan m).2

def firstMatching? (g : Graph) (m : Mask) : Option Entry := (g.scan m).1.find? (g.scan m).2

def holds (g : Graph) (m : Mask) : Bool := (g.firstMatching? m).isSome

/-- The component that the first match has in the first wildcard. -/
def any? (g : Graph) (m : Mask) : Option Term := do
  let p ← m.wildcard?
  let e ← g.firstMatching? m
  return e.statement.get p

/-- The components that all matches have in the first wildcard. -/
def each (g : Graph) (m : Mask) : List Term :=
  match m.wildcard? with
  | none => []
  | some p => (g.matching m).map fun e => e.statement.get p

/-- The first of the components in the first wildcard. -/
def the? (g : Graph) (m : Mask) : Option Term := (g.each m).head?

def count (g : Graph) (m : Mask) : Nat := (g.matching m).length

/-- The terms that stand for the contexts of the statements, each once, in order. -/
def contexts (g : Graph) : List Term :=
  Term.sort (g.indexes.context.toList.filterMap fun bucket =>
    bucket.2.head?.map fun e => g.canon e.statement.context)

end Graph

end QuadGraph
