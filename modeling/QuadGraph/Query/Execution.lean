import QuadGraph.Query.Fetcher
import QuadGraph.Query.Plan

/-!
# Executions

An execution works through tasks, the latest one first. A task is a list of
statements that are still to be matched, and bindings. Working on it matches
one statement and makes a task for each solution of it.

The tasks for one pattern under one trunk of bindings form a branch. A branch
counts its tasks and the junctions that it waits for, and is finished when there
are none. When all statements of a branch are matched and its pattern has
optional patterns, a junction is opened: each optional pattern becomes a branch
that starts from the bindings found. When all of those are finished the
junction delivers their solutions in every combination; one that has none is
passed over, so the trunk is never lost.

With a fetcher, a task is parked while a document waits to be loaded that a
term lives in which the task is about to match. A run ends when nothing is left but
parked tasks.
-/

namespace QuadGraph

inductive QueryError where
  | fuelLimitExceeded (used limit : Nat)
  | aborted
deriving DecidableEq, Repr, Inhabited

namespace QueryError

def message : QueryError → String
  | fuelLimitExceeded used limit =>
    "Fuel limit exceeded: used " ++ toString used ++ " of " ++ toString limit
  | aborted => "Query execution aborted - create a new execution to retry"

end QueryError

/-- What a run hands out: a solution, or the message that there are no more. -/
inductive Delivery where
  | row (b : Bindings)
  | done

def Delivery.row? : Delivery → Option Bindings
  | .row b => some b
  | .done => none

/-- How a run ended: with all work done, or with tasks parked on these documents. -/
inductive RunStatus where
  | complete
  | waiting (documents : List Term)

/-- What the solutions of a branch are for: the caller, or a junction. -/
inductive Owner where
  | root
  | optional (junction : Nat)
deriving DecidableEq, Repr, Inhabited

structure Branch where
  pattern : Pattern
  owner : Owner
  /-- Tasks of the branch, and junctions that it waits for. -/
  outstanding : Nat := 0
  /-- The solutions of an optional branch. -/
  results : List Bindings := []

structure Junction where
  /-- The branch that the solutions are delivered to. -/
  parent : Nat
  trunk : Bindings
  branches : List Nat
  /-- How many of the branches are not finished. -/
  remaining : Nat

structure Task where
  branch : Nat
  /-- The places in the pattern of the statements still to be matched. -/
  remaining : List Nat
  bindings : Bindings

structure Parked where
  document : Term
  tasks : List Task

structure Execution where
  query : Query
  /-- Branches and junctions are known by their places in these lists. -/
  branches : List Branch := []
  junctions : List Junction := []
  /-- The tasks to be worked on, the next one first. -/
  stack : List Task := []
  /-- The tasks that wait for a document, under its key. -/
  parked : Std.ExtTreeMap String Parked := ∅
  fuelUsed : Nat := 0
  /-- How many solutions have been handed out. -/
  delivered : Nat := 0
  complete : Bool := false
  aborted : Bool := false

namespace Execution

/-! ## Branches -/

def openBranch (e : Execution) (pattern : Pattern) (owner : Owner) : Execution :=
  { e with branches := e.branches ++ [{ pattern, owner }] }

def changeBranch (e : Execution) (branch : Nat) (f : Branch → Branch) : Execution :=
  { e with branches := e.branches.modify branch f }

def spawn (e : Execution) (t : Task) : Execution :=
  let e := e.changeBranch t.branch fun b => { b with outstanding := b.outstanding + 1 }
  { e with stack := t :: e.stack }

/-- Puts tasks on the stack so that the first is the next one to be worked on. -/
def spawnAll (e : Execution) (ts : List Task) : Execution := ts.foldr (fun t e => e.spawn t) e

def firstTask (branch : Nat) (pattern : Pattern) (bindings : Bindings) : Task :=
  { branch, remaining := List.range pattern.size, bindings }

def new (q : Query) : Execution :=
  let e : Execution := { query := q }
  (e.openBranch q.pattern .root).spawn (firstTask 0 q.pattern q.initial)

/-! ## Solutions -/

def deliver (e : Execution) (branch : Nat) (b : Bindings) : Execution × List Delivery :=
  match e.branches[branch]?.map Branch.owner with
  | some .root => ({ e with delivered := e.delivered + 1 }, [.row b])
  | some (.optional _) =>
    (e.changeBranch branch fun x => { x with results := x.results ++ [b] }, [])
  | none => (e, [])

def deliverAll (branch : Nat) : List Bindings → Execution → Execution × List Delivery
  | [], e => (e, [])
  | b :: bs, e =>
    let (e, first) := e.deliver branch b
    let (e, others) := deliverAll branch bs e
    (e, first ++ others)

/-- Every solution of the one list with every one of the other over it; without any in the
second, the first list. -/
def product (trunks results : List Bindings) : List Bindings :=
  if results.isEmpty then trunks
  else trunks.flatMap fun left => results.map fun right => left.merge right

/-- The solutions of a junction, with those of its first branch varying slowest. -/
def combine (trunk : Bindings) (results : List (List Bindings)) : List Bindings :=
  results.foldl product [trunk]

/-- Takes one off what a branch waits for. If nothing is left the branch is finished; so
may then be the junction that it belongs to, and its parent in turn. A branch has fewer
branches above it than before it. -/
def finish : Nat → Nat → Execution → Execution × List Delivery
  | 0, _, e => (e, [])
  | height + 1, branch, e =>
    let e := e.changeBranch branch fun b => { b with outstanding := b.outstanding - 1 }
    match e.branches[branch]? with
    | none => (e, [])
    | some b =>
      if b.outstanding > 0 then (e, [])
      else
        match b.owner with
        | .root => ({ e with complete := true }, [.done])
        | .optional junction =>
          let e := { e with
            junctions := e.junctions.modify junction fun j => { j with remaining := j.remaining - 1 } }
          match e.junctions[junction]? with
          | none => (e, [])
          | some j =>
            if j.remaining > 0 then (e, [])
            else
              let results := j.branches.map fun i =>
                (e.branches[i]?.map Branch.results).getD []
              let (e, rows) := deliverAll j.parent (combine j.trunk results) e
              let (e, others) := finish height j.parent e
              (e, rows ++ others)

def finishTask (e : Execution) (branch : Nat) : Execution × List Delivery :=
  finish (branch + 1) branch e

/-- Opens a branch for each optional pattern and a junction that waits for them. -/
def openJunction (e : Execution) (parent : Nat) (optionals : List Pattern) (b : Bindings) :
    Execution :=
  let junction := e.junctions.length
  let ids := List.range' e.branches.length optionals.length
  let e := optionals.foldl (fun e p => e.openBranch p (.optional junction)) e
  let e := e.changeBranch parent fun x => { x with outstanding := x.outstanding + 1 }
  let e := { e with
    junctions := e.junctions ++
      [({ parent, trunk := b, branches := ids, remaining := ids.length } : Junction)] }
  e.spawnAll ((ids.zip optionals).map fun o => firstTask o.1 o.2 b)

def matched (e : Execution) (branch : Nat) (pattern : Pattern) (b : Bindings) :
    Execution × List Delivery :=
  if pattern.optionals.isEmpty then e.deliver branch b
  else (e.openJunction branch pattern.optionals b, [])

/-! ## Tasks -/

def plan (g : Graph) (pattern : Pattern) (t : Task) : List Prepared :=
  Prepared.order (t.remaining.filterMap fun i =>
    pattern.statements[i]?.map (Prepared.ofStatement g t.bindings i))

def children (g : Graph) (pattern : Pattern) (t : Task) (chosen : Prepared)
    (rest : List Nat) : List Task :=
  match pattern.statements[chosen.index]? with
  | none => []
  | some st =>
    (chosen.candidates.filterMap fun x => g.unifyStatement pattern st x.statement t.bindings).map
      fun bindings => { branch := t.branch, remaining := rest, bindings }

def process (g : Graph) (e : Execution) (t : Task) : Execution × List Delivery :=
  match e.branches[t.branch]?.map Branch.pattern with
  | none => (e, [])
  | some pattern =>
    match plan g pattern t with
    | [] =>
      let (e, rows) := e.matched t.branch pattern t.bindings
      let (e, others) := e.finishTask t.branch
      (e, rows ++ others)
    | chosen :: others =>
      (e.spawnAll (children g pattern t chosen (others.map Prepared.index))).finishTask t.branch

/-! ## Documents -/

def park (e : Execution) (document : Term) (t : Task) : Execution :=
  let tasks := (e.parked[document.key]?.map Parked.tasks).getD []
  let first := (e.parked[document.key]?.map Parked.document).getD document
  { e with parked := e.parked.insert document.key ⟨first, tasks ++ [t]⟩ }

/-- Puts the tasks that wait for a document back on the stack, and counts them. -/
def documentReady (e : Execution) (document : Term) : Nat × Execution :=
  match e.parked[document.key]? with
  | none => (0, e)
  | some p =>
    (p.tasks.length, { e with parked := e.parked.erase document.key, stack := p.tasks ++ e.stack })

def waitingOn (e : Execution) : List Term :=
  Term.sort (e.parked.values.map Parked.document)

/-- Puts tasks back whose documents have been settled meanwhile. -/
def resumeSettled {φ : Type} [Fetcher φ] (f : φ) (e : Execution) : Execution :=
  let settled := e.parked.values.filter fun p => (Fetcher.state f p.document).isSettled
  settled.foldl (fun e p => (e.documentReady p.document).2) e

/-- What bound variables stand for in the subjects and objects of the statements that a
task has still to match. -/
def touched (pattern : Pattern) (t : Task) : List Term :=
  t.remaining.flatMap fun i =>
    match pattern.statements[i]? with
    | none => []
    | some st => [st.subject, st.object].filterMap fun term =>
        term.varName?.bind t.bindings.get?

/-- Whether a task can be worked on now, must be looked at again, or must wait. -/
inductive Readiness where
  | ready
  | retry
  | suspend (document : Term)

/-- Looks at the documents of terms, in order, up to the first that has not been settled.
One that was not requested is fetched. -/
def checkDocuments {φ : Type} [Fetcher φ] (levels : Nat) (f : φ) :
    List Term → StoreM (Readiness × φ)
  | [] => pure (.ready, f)
  | t :: ts =>
    match Fetcher.documentOf f t with
    | none => checkDocuments levels f ts
    | some document =>
      match Fetcher.state f document with
      | .fetched => checkDocuments levels f ts
      | .failed => checkDocuments levels f ts
      | .requested => pure (.suspend document, f)
      | .unrequested => do
        let (state, f) ← Fetcher.fetch levels f document t
        return (if state.isSettled then .retry else .suspend document, f)

/-! ## Runs -/

/-- An execution with what it works on, and what it has handed out. -/
structure Machine (φ : Type) where
  execution : Execution
  fetcher : φ
  store : Store
  deliveries : List Delivery := []

/-- Whether more tasks were taken than the query allows. -/
def overLimit (e : Execution) : Option QueryError :=
  match e.query.maxFuel with
  | none => none
  | some limit =>
    if limit < e.fuelUsed then some (.fuelLimitExceeded e.fuelUsed limit) else none

/-- Takes a task that is ready, or puts it where it waits. -/
def dispatch {φ : Type} [Fetcher φ] (m : Machine φ) (t : Task) (r : Readiness) : Machine φ :=
  match r with
  | .ready =>
    let (execution, rows) := m.execution.process m.store.graph t
    { m with execution, deliveries := m.deliveries ++ rows }
  | .retry => { m with execution := { m.execution with stack := t :: m.execution.stack } }
  | .suspend document => { m with execution := m.execution.park document t }

def advance {φ : Type} [Fetcher φ] (levels : Nat) (m : Machine φ) (t : Task) :
    Option (Machine φ) :=
  let pattern := (m.execution.branches[t.branch]?.map Branch.pattern).getD .empty
  (checkDocuments levels m.fetcher (touched pattern t) m.store).map
    fun ((readiness, fetcher), store) => dispatch { m with fetcher, store } t readiness

/-- Takes tasks until none is left or too many were taken. There is no answer after more
rounds than given. -/
def loop {φ : Type} [Fetcher φ] (levels : Nat) :
    Nat → Machine φ → Option (Machine φ × Except QueryError RunStatus)
  | 0, _ => none
  | rounds + 1, m =>
    match m.execution.stack with
    | [] =>
      some (m, .ok (if m.execution.complete then .complete else .waiting m.execution.waitingOn))
    | t :: stack =>
      let e := { m.execution with stack, fuelUsed := m.execution.fuelUsed + 1 }
      match e.overLimit with
      | some error => some ({ m with execution := { e with aborted := true } }, .error error)
      | none => do
        let m ← advance levels { m with execution := e } t
        loop levels rounds m

/-- Runs an execution until it is complete or all that is left is parked. -/
def run {φ : Type} [Fetcher φ] (levels rounds : Nat) (e : Execution) (f : φ) (s : Store) :
    Option (Machine φ × Except QueryError RunStatus) :=
  let m : Machine φ := { execution := e, fetcher := f, store := s }
  if e.aborted then some (m, .error .aborted)
  else if e.complete then some (m, .ok .complete)
  else loop levels rounds { m with execution := e.resumeSettled f }

end Execution

/-- The solutions of a query, with no document fetched. -/
def Query.solve (rounds : Nat) (q : Query) (s : Store) :
    Option (Except QueryError (List Bindings)) :=
  (Execution.run 0 rounds (.new q) NoDocuments.mk s).map fun (m, outcome) =>
    outcome.map fun _ => m.deliveries.filterMap Delivery.row?

end QuadGraph
