import QuadGraph.Proofs.Answers
import QuadGraph.Proofs.Calls
import QuadGraph.Proofs.Selections

/-!
# The ledger of an execution

A ledger keeps for each task, and for each row handed out, the entries that were selected for it
(`Ledger`). It outlives that the store grows and terms are merged, while tasks are parked with
bindings that were made before. When a task is worked on, no two selections become the same, and no
tuple of entries is given up that solved the pattern at first (`process_ledger`).
-/

namespace QuadGraph

open QuadGraph.Graph (Selection Closed)

/-! ## Selections behind tasks and rows -/

/-- The selections behind the tasks that are left and behind the rows handed out: any two are apart,
and each tuple that solved the pattern in the first graph agrees with one of them. -/
structure Ledger (p : Pattern) (start : Bindings) (first g : Graph) (tasks : List Task)
    (rows : List Bindings) (live : List (Task × Selection)) (done : List (Bindings × Selection)) :
    Prop where
  perm : (live.map Prod.fst).Perm tasks
  handed : done.map Prod.fst = rows
  matched : ∀ x ∈ live, x.1.branch = 0 ∧ g.Matched p start x.1.bindings x.2 x.1.remaining
  solved : ∀ x ∈ done, g.Matched p start x.1 x.2 []
  apart : (live.map Prod.snd ++ done.map Prod.snd).Pairwise Selection.Apart
  covers : ∀ tuple, first.Solves p start tuple →
    ∃ c ∈ live.map Prod.snd ++ done.map Prod.snd, Selection.Agrees c tuple

namespace Ledger

variable {p : Pattern} {start : Bindings} {first g g' : Graph} {ts ts' : List Task}
  {rows : List Bindings} {live live' : List (Task × Selection)} {done done' : List (Bindings × Selection)}

theorem start_task (first g : Graph) (p : Pattern) (start : Bindings) :
    Ledger p start first g [Execution.firstTask 0 p start] []
      [(Execution.firstTask 0 p start, fun _ => none)] [] where
  perm := .refl _
  handed := rfl
  matched := by
    intro x hx
    obtain rfl := List.mem_singleton.mp hx
    exact ⟨rfl, Graph.matched_start g p start⟩
  solved := fun _ hx => nomatch hx
  apart := List.pairwise_singleton ..
  covers := fun tuple _ => ⟨fun _ => none, by simp, fun _ _ h => nomatch h⟩

theorem grows (h : Ledger p start first g ts rows live done)
    (hclosed : ∀ st ∈ p.statements, Closed st) (hgrows : g.Grows g') :
    Ledger p start first g' ts rows live done where
  perm := h.perm
  handed := h.handed
  matched := fun x hx => ⟨(h.matched x hx).1, (h.matched x hx).2.grows hclosed hgrows⟩
  solved := fun x hx => (h.solved x hx).grows hclosed hgrows
  apart := h.apart
  covers := h.covers

theorem reorder (h : Ledger p start first g ts rows live done) (hperm : ts.Perm ts') :
    Ledger p start first g ts' rows live done where
  perm := h.perm.trans hperm
  handed := h.handed
  matched := h.matched
  solved := h.solved
  apart := h.apart
  covers := h.covers

theorem next {t : Task} (h : Ledger p start first g (t :: ts) rows live done) :
    ∃ c live', Ledger p start first g (t :: ts) rows ((t, c) :: live') done := by
  have hmem : t ∈ live.map Prod.fst := h.perm.mem_iff.mpr (List.mem_cons_self ..)
  obtain ⟨⟨t', c⟩, hx, rfl⟩ := List.mem_map.mp hmem
  obtain ⟨l, r, rfl⟩ := List.append_of_mem hx
  -- being apart is symmetric, so the order of the ledger does not matter
  have hmiddle : (l ++ (t', c) :: r).Perm ((t', c) :: (l ++ r)) := List.perm_middle
  have hselections := (hmiddle.map Prod.snd).append_right (done.map Prod.snd)
  refine ⟨c, l ++ r, (hmiddle.symm.map Prod.fst).trans h.perm, h.handed,
    fun x hx => h.matched x (hmiddle.mem_iff.mpr hx), h.solved, ?_, fun tuple hsolves => ?_⟩
  · exact (hselections.pairwise_iff fun hapart => hapart.symm).mp h.apart
  · obtain ⟨d, hd, hagrees⟩ := h.covers tuple hsolves
    exact ⟨d, hselections.mem_iff.mp hd, hagrees⟩

theorem hand {t : Task} {c : Selection}
    (h : Ledger p start first g (t :: ts) rows ((t, c) :: live) done) (hnil : t.remaining = []) :
    Ledger p start first g ts (rows ++ [t.bindings]) live (done ++ [(t.bindings, c)]) := by
  have hselections : (live.map Prod.snd ++ (done ++ [(t.bindings, c)]).map Prod.snd).Perm
      (((t, c) :: live).map Prod.snd ++ done.map Prod.snd) := by
    rw [List.map_append, ← List.append_assoc]
    exact List.perm_append_singleton ..
  refine ⟨h.perm.cons_inv, ?_, fun x hx => h.matched x (List.mem_cons_of_mem _ hx), fun x hx => ?_,
    ?_, fun tuple hsolves => ?_⟩
  · rw [List.map_append, h.handed]
    rfl
  · rcases List.mem_append.mp hx with hx | hx
    · exact h.solved x hx
    · obtain rfl := List.mem_singleton.mp hx
      have htask := (h.matched (t, c) (List.mem_cons_self ..)).2
      simp only [hnil] at htask
      exact htask
  · exact (hselections.pairwise_iff fun hapart => hapart.symm).mpr h.apart
  · obtain ⟨d, hd, hagrees⟩ := h.covers tuple hsolves
    exact ⟨d, hselections.mem_iff.mpr hd, hagrees⟩

/-- A task is replaced by others: their selections go on from its own, and take over its tuples. -/
theorem branch {t : Task} {c : Selection}
    (h : Ledger p start first g (t :: ts) rows ((t, c) :: live) done) {others : List (Task × Selection)}
    (hmatched : ∀ x ∈ others, x.1.branch = 0 ∧ g.Matched p start x.1.bindings x.2 x.1.remaining)
    (hapart : (others.map Prod.snd).Pairwise Selection.Apart)
    (hfrom : ∀ x ∈ others, ∀ d, Selection.Apart c d → Selection.Apart x.2 d)
    (hcovers : ∀ tuple, first.Solves p start tuple → Selection.Agrees c tuple →
      ∃ x ∈ others, Selection.Agrees x.2 tuple) :
    Ledger p start first g (others.map Prod.fst ++ ts) rows (others ++ live) done := by
  have hold := h.apart
  rw [List.map_cons, List.cons_append, List.pairwise_cons] at hold
  refine ⟨?_, h.handed, fun x hx => ?_, h.solved, ?_, fun tuple hsolves => ?_⟩
  · rw [List.map_append]
    exact h.perm.cons_inv.append_left _
  · rcases List.mem_append.mp hx with hx | hx
    · exact hmatched x hx
    · exact h.matched x (List.mem_cons_of_mem _ hx)
  · rw [List.map_append, List.append_assoc, List.pairwise_append]
    refine ⟨hapart, hold.2, fun d hd d' hd' => ?_⟩
    obtain ⟨x, hx, rfl⟩ := List.mem_map.mp hd
    exact hfrom x hx d' (hold.1 d' hd')
  · obtain ⟨d, hd, hagrees⟩ := h.covers tuple hsolves
    rw [List.map_append, List.append_assoc]
    rw [List.map_cons, List.cons_append, List.mem_cons] at hd
    rcases hd with rfl | hd
    · obtain ⟨x, hx, hagrees'⟩ := hcovers tuple hsolves hagrees
      exact ⟨x.2, List.mem_append_left _ (List.mem_map_of_mem hx), hagrees'⟩
    · exact ⟨d, List.mem_append_right _ hd, hagrees⟩

end Ledger

namespace Graph

theorem Matched.prepared_perm {g : Graph} {p : Pattern} {start b : Bindings} {c : Selection}
    {remaining : List Nat} (h : g.Matched p start b c remaining) :
    ((p.prepared g remaining b).map Prepared.index).Perm remaining := by
  refine ((p.prepared_perm g remaining b).map Prepared.index).trans (.of_eq ?_)
  rw [List.map_filterMap]
  have hall : ∀ i ∈ remaining, ((p.statements[i]?.map (Prepared.ofStatement g b i)).map
      Prepared.index) = some i := by
    intro i hi
    rw [List.getElem?_eq_getElem ((h.rest i).mp hi).1]
    rfl
  rw [List.filterMap_congr hall, List.filterMap_some]

end Graph

namespace Execution

/-! ## Executions without optional patterns -/

def Flat (p : Pattern) (e : Execution) : Prop :=
  ∃ n, e.branches = [{ pattern := p, owner := .root, outstanding := n }]

def rowsOf (ds : List Delivery) : List Bindings := ds.filterMap Delivery.row?

section
variable {e : Execution} {p : Pattern}

theorem finishTask_tasks (e : Execution) (i : Nat) : (e.finishTask i).1.tasks = e.tasks := by
  obtain ⟨_, _, _, _, hfields⟩ := finish_fields (i + 1) i e
  rw [finishTask, hfields]
  rfl

theorem Flat.release (h : e.Flat p) : (e.release 0).Flat p := by
  obtain ⟨n, hn⟩ := h
  refine ⟨n - 1, ?_⟩
  rw [Execution.release, changeBranch, hn]
  rfl

theorem Flat.finishTask (h : e.Flat p) :
    (e.finishTask 0).1.Flat p ∧ rowsOf (e.finishTask 0).2 = [] := by
  obtain ⟨n, hn⟩ := h.release
  have hb : (e.release 0).branches[0]? =
      some { pattern := p, owner := .root, outstanding := n } := by rw [hn]; rfl
  by_cases hzero : n = 0
  · rw [Execution.finishTask, finish_of_root hb hzero rfl]
    exact ⟨⟨n, hn⟩, rfl⟩
  · rw [Execution.finishTask, finish_of_pos hb (Nat.pos_of_ne_zero hzero)]
    exact ⟨⟨n, hn⟩, rfl⟩

theorem Flat.spawnAll (h : e.Flat p) (ts : List Task) (hts : ∀ t ∈ ts, t.branch = 0) :
    (e.spawnAll ts).Flat p := by
  induction ts with
  | nil => exact h
  | cons t ts ih =>
    rw [List.forall_mem_cons] at hts
    obtain ⟨n, hn⟩ := ih hts.2
    refine ⟨n + 1, ?_⟩
    rw [spawnAll_cons, spawn, changeBranch, hn, hts.1]
    rfl

end

/-! ## One task -/

section
variable {p : Pattern} (hoptionals : p.optionals = []) {start : Bindings} {first g : Graph}
  (hwf : g.WellFormed) (hclosed : ∀ st ∈ p.statements, Closed st)
  (hnames : ∀ st ∈ p.statements, ∀ name ∈ st.vars, bareName name = name)
  (hconstraints : p.constraints = ∅) (hlater : first.Grows g)
  {rows : List Bindings} {live : List (Task × Selection)} {done : List (Bindings × Selection)}

include hwf hclosed hnames hconstraints hlater in
/-- Each way to match the next statement is a selection of its own, and no tuple that the task stood
for is lost. -/
theorem branch_ledger {t : Task} {ts : List Task} {c : Selection}
    (h : Ledger p start first g (t :: ts) rows ((t, c) :: live) done) {x : Prepared}
    {others : List Prepared} (hplan : p.prepared g t.remaining t.bindings = x :: others) :
    ∃ live', Ledger p start first g
      (children g p t x (others.map Prepared.index) ++ ts) rows live' done := by
  obtain ⟨hbranch, hmatched⟩ := h.matched (t, c) (List.mem_cons_self ..)
  simp only at hbranch hmatched
  obtain ⟨st, hst, hx⟩ := Pattern.mem_prepared (by rw [hplan]; exact List.mem_cons_self ..)
  have hrest : t.remaining.Perm (x.index :: others.map Prepared.index) := by
    have hperm := hmatched.prepared_perm
    rw [hplan, List.map_cons] at hperm
    exact hperm.symm
  have hfree : c x.index = none :=
    ((hmatched.rest x.index).mp (hrest.mem_iff.mpr (List.mem_cons_self ..))).2
  have hnodup : x.candidates.Nodup := by
    rw [hx]
    exact Graph.candidates_nodup hwf x.index st
  have htasks : children g p t x (others.map Prepared.index) =
      ((g.branchings p st t.bindings c x).map fun y =>
        (⟨t.branch, others.map Prepared.index, y.1⟩, y.2)).map Prod.fst := by
    rw [children_eq, ← Graph.map_fst_branchings hst t.bindings c, List.map_map, List.map_map]
    rfl
  rw [htasks]
  refine ⟨_, h.branch (fun z hz => ?_) ?_ (fun z hz d hapart => ?_) fun tuple hsolves hagrees => ?_⟩
  · obtain ⟨y, hy, rfl⟩ := List.mem_map.mp hz
    obtain ⟨e, he, hunify, hc⟩ := Graph.mem_branchings.mp hy
    rw [hx] at he
    have hchosen :=
      hmatched.choose hwf hclosed hnames hrest hst (Graph.candidate_stored hwf he) hunify
    rw [← hc] at hchosen
    exact ⟨hbranch, hchosen⟩
  · rw [List.map_map]
    exact Graph.branchings_apart hnodup
  · obtain ⟨y, hy, rfl⟩ := List.mem_map.mp hz
    obtain ⟨e, -, -, hc⟩ := Graph.mem_branchings.mp hy
    simp only [hc]
    exact hapart.update hfree e
  · -- the tuple goes on with its own entry for the statement
    have hsolves' := hsolves.grows hclosed hlater
    have hlt := (List.getElem?_eq_some_iff.mp hst).1
    obtain ⟨e, he⟩ : ∃ e, tuple[x.index]? = some e :=
      ⟨_, List.getElem?_eq_getElem (by rw [hsolves'.length]; exact hlt)⟩
    obtain ⟨hmem, b', hunify⟩ :=
      hsolves'.candidate hwf hclosed hnames hmatched hagrees hconstraints hst he
    rw [← hx] at hmem
    have hbranching : (b', Function.update c x.index (some e)) ∈ g.branchings p st t.bindings c x :=
      Graph.mem_branchings.mpr ⟨e, hmem, hunify, rfl⟩
    exact ⟨_, List.mem_map.mpr ⟨_, hbranching, rfl⟩, hagrees.update he⟩

include hoptionals hwf hclosed hnames hconstraints hlater in
theorem process_ledger {e : Execution} {t : Task} (hflat : e.Flat p)
    (h : Ledger p start first g (t :: e.tasks) rows live done) :
    (process g e t).1.Flat p ∧ ∃ live' done', Ledger p start first g (process g e t).1.tasks
      (rows ++ rowsOf (process g e t).2) live' done' := by
  obtain ⟨c, live', h⟩ := h.next
  obtain ⟨hbranch, hmatched⟩ := h.matched (t, c) (List.mem_cons_self ..)
  simp only at hbranch hmatched
  obtain ⟨n, hn⟩ := hflat
  have hb : e.branches[t.branch]? = some { pattern := p, owner := .root, outstanding := n } := by
    rw [hn, hbranch]
    rfl
  cases hplan : p.prepared g t.remaining t.bindings with
  | nil =>
    have hnil : t.remaining = [] := by
      have hperm := hmatched.prepared_perm
      rw [hplan] at hperm
      exact List.nil_perm.mp hperm
    have hdeliver : e.matched t.branch p t.bindings =
        ({ e with delivered := e.delivered + 1 }, [.row t.bindings]) := by
      rw [matched_of_nil hoptionals, deliver, hb]
      rfl
    have hflat' : ({ e with delivered := e.delivered + 1 } : Execution).Flat p := ⟨n, hn⟩
    obtain ⟨hended, hnone⟩ := hflat'.finishTask
    rw [process_of_nil hb rfl hplan, hdeliver, hbranch]
    refine ⟨hended, live', done ++ [(t.bindings, c)], ?_⟩
    simp only [finishTask_tasks]
    have hrows : rowsOf ([.row t.bindings] ++
        (({ e with delivered := e.delivered + 1 } : Execution).finishTask 0).2) = [t.bindings] := by
      rw [rowsOf, List.filterMap_append]
      exact congrArg ([t.bindings] ++ ·) hnone
    rw [hrows]
    exact h.hand hnil
  | cons x others =>
    obtain ⟨live'', hledger⟩ := branch_ledger hwf hclosed hnames hconstraints hlater h hplan
    have hflat' := Flat.spawnAll ⟨n, hn⟩ (children g p t x (others.map Prepared.index))
      fun t' ht' => (children_branch ht').trans hbranch
    obtain ⟨hended, hnone⟩ := hflat'.finishTask
    have htasks : (e.spawnAll (children g p t x (others.map Prepared.index))).tasks =
        children g p t x (others.map Prepared.index) ++ e.tasks := by
      obtain ⟨branches, hspawn⟩ := spawnAll_eq e (children g p t x (others.map Prepared.index))
      rw [hspawn]
      exact List.append_assoc ..
    rw [process_of_cons hb rfl hplan, ← children_eq, hbranch]
    refine ⟨hended, live'', done, ?_⟩
    rw [finishTask_tasks, htasks, hnone, List.append_nil]
    exact hledger

end

end Execution

end QuadGraph
