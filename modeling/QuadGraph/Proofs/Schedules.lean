import QuadGraph.Proofs.Ledger

/-!
# Answers while the store grows

Between the calls on an execution the store may grow and terms may be merged. Whatever is called in
whatever order, the ledger of the execution is kept (`Round.audit`, `Call.audited`). So when the
execution is complete, and no task is left, its rows stand for distinct tuples of entries, and no
tuple is missing that solved the pattern when it was first run (`Schedule.exactly_once`).
-/

namespace QuadGraph

namespace Execution

/-! ## Rounds -/

structure Audit (p : Pattern) (start : Bindings) (first : Store) (e : Execution) (s : Store)
    (rows : List Bindings) : Prop where
  flat : e.Flat p
  ledger : ∃ live done, Ledger p start first.graph s.graph e.tasks rows live done

namespace Audit

variable {p : Pattern} {start : Bindings} {first s s' : Store} {e e' : Execution}
  {rows : List Bindings}

theorem grows (h : Audit p start first e s rows)
    (hclosed : ∀ st ∈ p.statements, Graph.Closed st) (hgrows : s.graph.Grows s'.graph) :
    Audit p start first e s' rows := by
  obtain ⟨live, done, hledger⟩ := h.ledger
  exact ⟨h.flat, live, done, hledger.grows hclosed hgrows⟩

theorem rearrange (h : Audit p start first e s rows) (hbranches : e'.branches = e.branches)
    (htasks : e.tasks.Perm e'.tasks) : Audit p start first e' s rows := by
  obtain ⟨n, hn⟩ := h.flat
  obtain ⟨live, done, hledger⟩ := h.ledger
  exact ⟨⟨n, hbranches.trans hn⟩, live, done, hledger.reorder htasks⟩

theorem documentReady (h : Audit p start first e s rows) (document : Term) :
    Audit p start first (e.documentReady document).2 s rows := by
  refine h.rearrange ?_ (tasks_documentReady e document).symm
  obtain ⟨stack, parked, hfields⟩ := documentReady_fields e document
  rw [hfields]

theorem resumeSettled {φ : Type} [Fetcher φ] (h : Audit p start first e s rows) (f : φ) :
    Audit p start first (e.resumeSettled f) s rows :=
  resumeSettled_keeps (P := fun e => Audit p start first e s rows)
    (fun _ document h => h.documentReady document) f h

end Audit

section
variable {φ : Type} [Fetcher φ] (hadds : Fetcher.OnlyAdds φ) {p : Pattern} (hoptionals : p.optionals = [])
  (hclosed : ∀ st ∈ p.statements, Graph.Closed st)
  (hnames : ∀ st ∈ p.statements, ∀ name ∈ st.vars, bareName name = name)
  (hconstraints : p.constraints = ∅) {start : Bindings} {first : Store} {rows : List Bindings}
include hadds hoptionals hclosed hnames hconstraints

theorem Round.audit {levels : Nat} {m m' : Machine φ} (hround : Round levels m m')
    (hstore : first.Grows m.store)
    (h : Audit p start first m.execution m.store (rows ++ rowsOf m.deliveries)) :
    first.Grows m'.store ∧
      Audit p start first m'.execution m'.store (rows ++ rowsOf m'.deliveries) := by
  obtain ⟨hstack, -, hadvance⟩ := hround
  rename_i t rest
  rw [advance, Option.map_eq_some_iff] at hadvance
  obtain ⟨⟨⟨readiness, fetcher⟩, store⟩, hcheck, rfl⟩ := hadvance
  have hgrows := checkDocuments_adds hadds levels _ _ hstore.wellFormed hstore.builtin hcheck
  have hstore' := hstore.trans hgrows
  have htaken : (t :: (m.execution.started rest).tasks).Perm m.execution.tasks := by
    rw [tasks, tasks, hstack]
    exact .refl _
  obtain ⟨hflat, live, done, hledger⟩ := h.grows hclosed hgrows.graph
  have hledger := hledger.reorder htaken.symm
  cases readiness with
  | ready =>
    obtain ⟨hflat', live', done', hledger'⟩ := process_ledger hoptionals hstore'.wellFormed hclosed
      hnames hconstraints hstore'.graph (e := m.execution.started rest) hflat hledger
    refine ⟨hstore', hflat', live', done', ?_⟩
    rw [List.append_assoc, rowsOf, rowsOf, ← List.filterMap_append] at hledger'
    exact hledger'
  | retry => exact ⟨hstore', hflat, live, done, hledger⟩
  | suspend document =>
    refine ⟨hstore', hflat, live, done, hledger.reorder ?_⟩
    exact (tasks_park (m.execution.started rest) document t).symm

theorem audit_rounds {levels : Nat} {m m' : Machine φ}
    (hrounds : Relation.ReflTransGen (Round levels) m m') (hstore : first.Grows m.store)
    (h : Audit p start first m.execution m.store (rows ++ rowsOf m.deliveries)) :
    first.Grows m'.store ∧
      Audit p start first m'.execution m'.store (rows ++ rowsOf m'.deliveries) := by
  induction hrounds with
  | refl => exact ⟨hstore, h⟩
  | tail _ hround ih =>
    exact hround.audit hadds hoptionals hclosed hnames hconstraints ih.1 ih.2

end

end Execution

/-! ## Calls -/

inductive Call where
  /-- The execution is run, with the fetcher. -/
  | run (levels rounds : Nat)
  /-- The execution is run, with no fetcher. -/
  | runAlone (levels rounds : Nat)
  | complete (levels : Nat) (document : Term)
  | ready (document : Term)
  | add (levels : Nat) (st : Statement)
  | equate (a b : Term)

namespace Call

def isRun : Call → Bool
  | .run .. => true
  | .runAlone .. => true
  | _ => false

def perform (m : Execution.Machine MemoryFetcher) : Call → Option (Execution.Machine MemoryFetcher)
  | .run levels rounds =>
    (Execution.run levels rounds m.execution m.fetcher m.store).map fun (m', _) =>
      { m' with deliveries := m.deliveries ++ m'.deliveries }
  | .runAlone levels rounds =>
    (Execution.run levels rounds m.execution NoDocuments.mk m.store).map fun (m', _) =>
      ⟨m'.execution, m.fetcher, m'.store, m.deliveries ++ m'.deliveries⟩
  | .complete levels document =>
    (m.fetcher.complete levels document m.store).map fun ((_, fetcher), store) =>
      { m with fetcher, store }
  | .ready document => some { m with execution := (m.execution.documentReady document).2 }
  | .add levels st => (StoreM.add levels st m.store).map fun (_, store) => { m with store }
  | .equate a b => some { m with store := m.store.equate a b }

/-- A call runs the execution, tells it that a document is ready, or makes the store grow. -/
theorem perform_cases {m m' : Execution.Machine MemoryFetcher} (hwf : m.store.graph.WellFormed)
    (hbuiltin : m.store.Builtin) {call : Call} (hcall : call.perform m = some m') :
    (call.isRun = true ∧ ∃ (φ : Type) (_ : Fetcher φ) (levels rounds : Nat) (f : φ)
      (ended : Execution.Machine φ) (outcome : Except QueryError RunStatus) (f' : MemoryFetcher),
        Fetcher.OnlyAdds φ ∧
        Execution.run levels rounds m.execution f m.store = some (ended, outcome) ∧
        m' = ⟨ended.execution, f', ended.store, m.deliveries ++ ended.deliveries⟩) ∨
    (∃ document, m' = { m with execution := (m.execution.documentReady document).2 }) ∨
    ∃ f s, m.store.Grows s ∧ m' = { m with fetcher := f, store := s } := by
  cases call with
  | run levels rounds =>
    obtain ⟨⟨ended, outcome⟩, hrun, rfl⟩ := Option.map_eq_some_iff.mp hcall
    exact .inl ⟨rfl, _, _, _, _, _, _, _, _, MemoryFetcher.onlyAdds, hrun, rfl⟩
  | runAlone levels rounds =>
    obtain ⟨⟨ended, outcome⟩, hrun, rfl⟩ := Option.map_eq_some_iff.mp hcall
    exact .inl ⟨rfl, _, _, _, _, _, _, _, _, NoDocuments.onlyAdds, hrun, rfl⟩
  | complete levels document =>
    obtain ⟨⟨⟨state, f⟩, s⟩, hcomplete, rfl⟩ := Option.map_eq_some_iff.mp hcall
    have hgrows := m.fetcher.complete_adds levels document hwf hbuiltin hcomplete
    exact .inr (.inr ⟨f, s, hgrows, rfl⟩)
  | ready document =>
    obtain rfl := Option.some.inj hcall
    exact .inr (.inl ⟨document, rfl⟩)
  | add levels st =>
    obtain ⟨⟨entry, s⟩, hadd, rfl⟩ := Option.map_eq_some_iff.mp hcall
    exact .inr (.inr ⟨m.fetcher, s, StoreM.add_adds levels st hwf hbuiltin hadd, rfl⟩)
  | equate a b =>
    obtain rfl := Option.some.inj hcall
    exact .inr (.inr ⟨m.fetcher, _, Store.grows_equate hwf hbuiltin a b, rfl⟩)

end Call

abbrev Schedule := List Call

namespace Schedule

def perform (calls : Schedule) (m : Execution.Machine MemoryFetcher) :
    Option (Execution.Machine MemoryFetcher) := calls.foldlM Call.perform m

theorem keeps {P : Execution.Machine MemoryFetcher → Prop} {calls : Schedule}
    (hstep : ∀ call ∈ calls, ∀ m m', P m → call.perform m = some m' → P m')
    {m m' : Execution.Machine MemoryFetcher} (h : P m) (hperform : calls.perform m = some m') :
    P m' := by
  induction calls generalizing m with
  | nil =>
    obtain rfl := Option.some.inj hperform
    exact h
  | cons call calls ih =>
    rw [List.forall_mem_cons] at hstep
    obtain ⟨m₁, hcall, hrest⟩ := Option.bind_eq_some_iff.mp hperform
    exact ih hstep.2 (hstep.1 m m₁ h hcall) hrest

end Schedule

/-! ### Before the first run -/

structure Unstarted (q : Query) (s : Store) (m : Execution.Machine MemoryFetcher) : Prop where
  execution : m.execution = .new q
  deliveries : m.deliveries = []
  store : s.Grows m.store

theorem Call.unstarted {q : Query} {s : Store} {m m' : Execution.Machine MemoryFetcher}
    (h : Unstarted q s m) {call : Call} (hrun : call.isRun = false) (hcall : call.perform m = some m') :
    Unstarted q s m' := by
  rcases call.perform_cases h.store.wellFormed h.store.builtin hcall with
    ⟨hisRun, -⟩ | ⟨document, rfl⟩ | ⟨f, t, hgrows, rfl⟩
  · rw [hrun] at hisRun
    cases hisRun
  · refine ⟨?_, h.deliveries, h.store⟩
    simp only [h.execution]
    rfl
  · exact ⟨h.execution, h.deliveries, h.store.trans hgrows⟩

/-! ### From the first run on -/

structure Audited (q : Query) (first : Store) (m : Execution.Machine MemoryFetcher) : Prop where
  called : Execution.Called q m.execution m.deliveries
  store : first.Grows m.store
  audit : m.execution.aborted = false →
    m.execution.Audit q.pattern q.initial first m.store (Execution.rowsOf m.deliveries)

theorem Unstarted.audited {q : Query} {s : Store} {m : Execution.Machine MemoryFetcher}
    (h : Unstarted q s m) : Audited q m.store m := by
  refine ⟨?_, .refl h.store.wellFormed h.store.builtin, fun _ => ?_⟩
  · rw [h.execution, h.deliveries]
    exact .new
  · rw [h.execution, h.deliveries]
    exact ⟨⟨1, rfl⟩, _, _, Ledger.start_task m.store.graph m.store.graph q.pattern q.initial⟩

section
variable {q : Query} (hoptionals : q.pattern.optionals = [])
  (hclosed : ∀ st ∈ q.pattern.statements, Graph.Closed st)
  (hnames : ∀ st ∈ q.pattern.statements, ∀ name ∈ st.vars, bareName name = name)
  (hconstraints : q.pattern.constraints = ∅) {first : Store}
  {m m' : Execution.Machine MemoryFetcher}

include hoptionals hclosed hnames hconstraints

theorem Audited.run {φ : Type} [Fetcher φ] (hadds : Fetcher.OnlyAdds φ) (h : Audited q first m)
    {levels rounds : Nat} {f : φ} {ended : Execution.Machine φ} {outcome : Except QueryError RunStatus}
    (hrun : Execution.run levels rounds m.execution f m.store = some (ended, outcome))
    (f' : MemoryFetcher) :
    Audited q first ⟨ended.execution, f', ended.store, m.deliveries ++ ended.deliveries⟩ := by
  have hcalled := h.called.ran hrun
  rcases Execution.run_cases hrun with ⟨-, rfl, -⟩ | ⟨-, -, rfl, -⟩ |
    ⟨haborted, -, m₁, hrounds, hstops⟩
  · refine ⟨hcalled, h.store, fun haborted => ?_⟩
    rw [List.append_nil]
    exact h.audit haborted
  · refine ⟨hcalled, h.store, fun haborted => ?_⟩
    rw [List.append_nil]
    exact h.audit haborted
  · have hstart := (h.audit haborted).resumeSettled f
    -- the run has handed out nothing yet
    rw [← List.append_nil (Execution.rowsOf m.deliveries)] at hstart
    obtain ⟨hstore, haudit⟩ := Execution.audit_rounds hadds hoptionals hclosed hnames hconstraints
      hrounds h.store hstart
    rw [Execution.rowsOf, Execution.rowsOf, ← List.filterMap_append] at haudit
    cases hstops with
    | idle hstack => exact ⟨hcalled, hstore, fun _ => haudit⟩
    | overLimit hstack hlimit =>
      refine ⟨hcalled, hstore, ?_⟩
      intro haborted
      cases haborted

theorem Call.audited (h : Audited q first m) {call : Call} (hcall : call.perform m = some m') :
    Audited q first m' := by
  rcases call.perform_cases h.store.wellFormed h.store.builtin hcall with
    ⟨-, φ, _, levels, rounds, f, ended, outcome, f', hadds, hrun, rfl⟩ | ⟨document, rfl⟩ |
    ⟨f, t, hgrows, rfl⟩
  · exact h.run hoptionals hclosed hnames hconstraints hadds hrun f'
  · refine ⟨h.called.ready document, h.store, fun haborted => (h.audit ?_).documentReady document⟩
    obtain ⟨stack, parked, hfields⟩ := Execution.documentReady_fields m.execution document
    simp only [hfields] at haborted
    exact haborted
  · refine ⟨h.called, h.store.trans hgrows, fun haborted => ?_⟩
    exact (h.audit haborted).grows hclosed hgrows.graph

end

/-! ## Exactly once -/

def Graph.RowOf (g : Graph) (p : Pattern) (row : Bindings) (tuple : List Entry) : Prop :=
  ∀ (i : Nat) (st : Statement) (e : Entry), p.statements[i]? = some st → tuple[i]? = some e →
    ∀ pos ∈ Prepared.matched, ∀ name, st.get pos = .var name →
      g.Stands row name (e.statement.get pos)

theorem Ledger.rows_once {p : Pattern} {start : Bindings} {first g : Graph} {rows : List Bindings}
    {live : List (Task × Graph.Selection)} {done : List (Bindings × Graph.Selection)}
    (h : Ledger p start first g [] rows live done) :
    ∃ tuples : List (List Entry), tuples.Nodup ∧
      List.Forall₂ (g.RowOf p) rows tuples ∧
      (∀ tuple, first.Solves p start tuple → tuple ∈ tuples) ∧
      ∀ tuple ∈ tuples, g.Solves p start tuple := by
  obtain rfl : live = [] := List.map_eq_nil_iff.mp h.perm.eq_nil
  have hapart := h.apart
  rw [List.map_nil, List.nil_append, List.pairwise_map] at hapart
  refine ⟨done.map fun x => x.2.tuple p.size, ?_, ?_, fun tuple hsolves => ?_, fun tuple hmem => ?_⟩
  · refine List.pairwise_map.mpr (hapart.imp_of_mem fun {x y} hx hy hne => ?_)
    exact (h.solved x hx).tuple_ne (h.solved y hy) hne
  · rw [← h.handed, List.forall₂_map_left_iff, List.forall₂_map_right_iff, List.forall₂_same]
    intro x hx i st e hst he pos hpos name hname
    exact (h.solved x hx).stands hst he hpos hname
  · obtain ⟨c, hc, hagrees⟩ := h.covers tuple hsolves
    rw [List.map_nil, List.nil_append] at hc
    obtain ⟨x, hx, rfl⟩ := List.mem_map.mp hc
    exact List.mem_map.mpr ⟨x, hx, (h.solved x hx).tuple_eq hsolves.length hagrees⟩
  · obtain ⟨x, hx, rfl⟩ := List.mem_map.mp hmem
    exact (h.solved x hx).solves

theorem Audited.tasks_eq_nil {q : Query} {first : Store} {m : Execution.Machine MemoryFetcher}
    (h : Audited q first m) (hcomplete : m.execution.complete = true) :
    m.execution.aborted = false ∧ m.execution.tasks = [] := by
  obtain ⟨haccount, hopen, -⟩ := h.called.accounted
  have haborted : m.execution.aborted = false := by
    cases habort : m.execution.aborted with
    | false => rfl
    | true =>
      rw [hopen habort] at hcomplete
      cases hcomplete
  obtain ⟨hstack, hparked⟩ := (haccount haborted).complete_iff_tasks.mp hcomplete
  refine ⟨haborted, ?_⟩
  rw [Execution.tasks, hstack, hparked]
  rfl

/-- Whatever is called, when the execution is complete its rows stand one by one for distinct tuples of
entries: every tuple that solved the pattern when the first run began is among them, and all of them
solve it in the end. Each row binds the variables to terms like those in its tuple. -/
theorem Schedule.exactly_once {q : Query} (hoptionals : q.pattern.optionals = [])
    (hconstraints : q.pattern.constraints = ∅)
    (hclosed : ∀ st ∈ q.pattern.statements, Graph.Closed st)
    (hnames : ∀ st ∈ q.pattern.statements, ∀ name ∈ st.vars, name.toList.head? ≠ some '?')
    {s : Store} (hs : s.Reachable) (hbuiltin : s.Builtin) (f : MemoryFetcher)
    {before after : Schedule} (hbefore : ∀ call ∈ before, call.isRun = false)
    {m₁ m : Execution.Machine MemoryFetcher}
    (hfirst : before.perform ⟨.new q, f, s, []⟩ = some m₁) (hlast : after.perform m₁ = some m)
    (hcomplete : m.execution.complete = true) :
    ∃ tuples : List (List Entry), tuples.Nodup ∧
      List.Forall₂ (m.store.graph.RowOf q.pattern) (Execution.rowsOf m.deliveries) tuples ∧
      (∀ tuple, m₁.store.graph.Solves q.pattern q.initial tuple → tuple ∈ tuples) ∧
      ∀ tuple ∈ tuples, m.store.graph.Solves q.pattern q.initial tuple := by
  have hbare : ∀ st ∈ q.pattern.statements, ∀ name ∈ st.vars, bareName name = name :=
    fun st hst name hname => Pattern.bareName_eq (hnames st hst name hname)
  have hstart : Unstarted q s ⟨.new q, f, s, []⟩ := ⟨rfl, rfl, .refl hs.wellFormed hbuiltin⟩
  have hunstarted : Unstarted q s m₁ :=
    Schedule.keeps (fun call hcall _ _ h => Call.unstarted h (hbefore call hcall)) hstart hfirst
  have haudited : Audited q m₁.store m :=
    Schedule.keeps (fun _ _ _ _ h => Call.audited hoptionals hclosed hbare hconstraints h)
      hunstarted.audited hlast
  obtain ⟨haborted, htasks⟩ := haudited.tasks_eq_nil hcomplete
  obtain ⟨-, live, done, hledger⟩ := haudited.audit haborted
  rw [htasks] at hledger
  exact hledger.rows_once

/-- The task waits while a document is loaded that merges what the variable stands for. -/
theorem Schedule.exactly_once_while_parked :
    let node : Term := .named "http://d/b#it"
    let document : Term := .named "http://d/b"
    let q : Query :=
      { pattern := Pattern.empty.add (.var "y") (.named "q") (.var "z"), initial := .ofList [("y", node)] }
    let f := ({ deferred := true } : MemoryFetcher).withDocument document
      [(node, .named Owl.sameAs, .named "d"), (node, .named "q", .named "c")]
    let before : Schedule := [.add 5 ⟨node, .named "q", .named "e", .defaultGraph⟩,
      .add 5 ⟨.named "d", .named "q", .named "f", .defaultGraph⟩]
    let after : Schedule := [.run 5 10, .complete 5 document, .ready document, .run 5 10]
    ∃ m₁ m, before.perform ⟨.new q, f, .ofOptions {}, []⟩ = some m₁ ∧ after.perform m₁ = some m ∧
      m.execution.complete = true ∧ m.deliveries.length = 4 ∧
      ∃ tuples : List (List Entry), tuples.Nodup ∧
        List.Forall₂ (m.store.graph.RowOf q.pattern) (Execution.rowsOf m.deliveries) tuples ∧
        (∀ tuple, m₁.store.graph.Solves q.pattern q.initial tuple → tuple ∈ tuples) ∧
        ∀ tuple ∈ tuples, m.store.graph.Solves q.pattern q.initial tuple := by
  intro node document q f before after
  have hcalls : ((before.perform ⟨.new q, f, .ofOptions {}, []⟩).bind after.perform).any
      (fun m => m.execution.complete && m.deliveries.length == 4) = true := by decide +kernel
  obtain ⟨m, hall, hm⟩ := (Option.any_eq_true ..).mp hcalls
  obtain ⟨m₁, hfirst, hlast⟩ := Option.bind_eq_some_iff.mp hall
  obtain ⟨hcomplete, hlength⟩ := (Bool.and_eq_true ..).mp hm
  have hclosed : ∀ st ∈ q.pattern.statements, Graph.Closed st := by
    intro st hst pos _
    obtain rfl := List.mem_singleton.mp hst
    cases pos <;> rfl
  have hnames : ∀ st ∈ q.pattern.statements, ∀ name ∈ st.vars, name.toList.head? ≠ some '?' := by
    intro st hst
    obtain rfl := List.mem_singleton.mp hst
    decide
  exact ⟨m₁, m, hfirst, hlast, hcomplete, beq_iff_eq.mp hlength,
    Schedule.exactly_once rfl rfl hclosed hnames (.start {}) (Store.builtin_ofOptions {}) f
      (by decide) hfirst hlast hcomplete⟩

end QuadGraph
