import QuadGraph.Proofs.Calls

/-!
# Limits on the work

How a task is worked on does not depend on the query that an execution carries, so it is the same
under every limit (`process_withQuery`). A run with a limit therefore goes the way of the run without
one, task by task, and either gets to its end or is cut off between two tasks (`Paces.split`). What
it has handed out until then is the beginning of what would have come, and an execution that was cut
off hands out nothing more (`fuel_truncates`).
-/

namespace QuadGraph

namespace Execution

/-! ## Tasks do not look at the query -/

def withQuery (e : Execution) (q : Query) : Execution := { e with query := q }

def forQuery (q : Query) (x : Execution × List Delivery) : Execution × List Delivery :=
  (x.1.withQuery q, x.2)

section
variable (q : Query) (e : Execution)

theorem spawnAll_withQuery (ts : List Task) :
    (e.withQuery q).spawnAll ts = (e.spawnAll ts).withQuery q := by
  induction ts with
  | nil => rfl
  | cons t ts ih =>
    rw [spawnAll_cons, spawnAll_cons, ih]
    rfl

theorem openJunction_withQuery (parent : Nat) (ps : List Pattern) (b : Bindings) :
    (e.withQuery q).openJunction parent ps b = (e.openJunction parent ps b).withQuery q := by
  rw [openJunction_eq, openJunction_eq, ← spawnAll_withQuery]
  rfl

theorem deliver_withQuery (i : Nat) (b : Bindings) :
    (e.withQuery q).deliver i b = forQuery q (e.deliver i b) := by
  have hbranches : (e.withQuery q).branches = e.branches := rfl
  unfold deliver
  rw [hbranches]
  split <;> rfl

theorem deliverAll_withQuery (i : Nat) (rows : List Bindings) :
    deliverAll i rows (e.withQuery q) = forQuery q (deliverAll i rows e) := by
  induction rows generalizing e with
  | nil => rfl
  | cons b rows ih =>
    simp only [deliverAll, deliver_withQuery, forQuery, ih]

theorem passOn_withQuery (jn : Junction) :
    (e.withQuery q).passOn jn = forQuery q (e.passOn jn) :=
  deliverAll_withQuery q e jn.parent (combine jn.trunk (e.collected jn))

theorem matched_withQuery (i : Nat) (p : Pattern) (b : Bindings) :
    (e.withQuery q).matched i p b = forQuery q (e.matched i p b) := by
  by_cases hps : p.optionals = []
  · rw [matched_of_nil hps, matched_of_nil hps, deliver_withQuery]
  · rw [matched_of_ne_nil hps, matched_of_ne_nil hps, openJunction_withQuery]
    rfl

theorem finish_withQuery (height i : Nat) :
    finish height i (e.withQuery q) = forQuery q (finish height i e) := by
  induction height generalizing i e with
  | zero => rfl
  | succ height ih =>
    cases hb : (e.release i).branches[i]? with
    | none =>
      rw [finish_of_none hb, finish_of_none (e := e.withQuery q) hb]
      rfl
    | some b =>
      by_cases hzero : b.outstanding = 0
      · cases hown : b.owner with
        | root =>
          rw [finish_of_root hb hzero hown, finish_of_root (e := e.withQuery q) hb hzero hown]
          rfl
        | optional j =>
          cases hj : ((e.release i).releaseJunction j).junctions[j]? with
          | none =>
            rw [finish_of_missing hb hzero hown hj,
              finish_of_missing (e := e.withQuery q) hb hzero hown hj]
            rfl
          | some jn =>
            by_cases hlast : jn.remaining = 0
            · rw [finish_of_junction hb hzero hown hj hlast,
                finish_of_junction (e := e.withQuery q) hb hzero hown hj hlast]
              have hpassed : (((e.withQuery q).release i).releaseJunction j).passOn jn =
                  forQuery q (((e.release i).releaseJunction j).passOn jn) :=
                passOn_withQuery q ((e.release i).releaseJunction j) jn
              simp only [hpassed, forQuery, ih]
            · have hpos := Nat.pos_of_ne_zero hlast
              rw [finish_of_junction_pos hb hzero hown hj hpos,
                finish_of_junction_pos (e := e.withQuery q) hb hzero hown hj hpos]
              rfl
      · have hpos := Nat.pos_of_ne_zero hzero
        rw [finish_of_pos hb hpos, finish_of_pos (e := e.withQuery q) hb hpos]
        rfl

theorem process_withQuery (g : Graph) (t : Task) :
    process g (e.withQuery q) t = forQuery q (process g e t) := by
  cases hb : e.branches[t.branch]? with
  | none => simp [process, withQuery, forQuery, hb]
  | some b =>
    cases hplan : b.pattern.prepared g t.remaining t.bindings with
    | nil =>
      rw [process_of_nil hb rfl hplan, process_of_nil (e := e.withQuery q) hb rfl hplan]
      simp only [matched_withQuery, forQuery, finishTask, finish_withQuery]
    | cons chosen others =>
      rw [process_of_cons hb rfl hplan, process_of_cons (e := e.withQuery q) hb rfl hplan,
        spawnAll_withQuery, finishTask, finish_withQuery]
      rfl

end

/-! ## Task by task -/

inductive Paces (g : Graph) : Nat → Execution → List Delivery → Execution → Prop
  | refl (e : Execution) : Paces g 0 e [] e
  | step {k : Nat} {e e' : Execution} {t : Task} {rest : List Task} {ds : List Delivery}
      (hstack : e.stack = t :: rest) (hpaces : Paces g k (process g (e.started rest) t).1 ds e') :
      Paces g (k + 1) e ((process g (e.started rest) t).2 ++ ds) e'

theorem Works.paces {g : Graph} {e e' : Execution} {ds : List Delivery} (h : Works g e ds e') :
    ∃ k, Paces g k e ds e' := by
  induction h with
  | refl e => exact ⟨0, .refl e⟩
  | step _ hstack _ ih =>
    obtain ⟨k, hk⟩ := ih
    exact ⟨k + 1, .step hstack hk⟩

theorem process_query (g : Graph) (e : Execution) (t : Task) : (process g e t).1.query = e.query := by
  obtain ⟨_, _, _, _, _, hfields⟩ := process_fields g e t
  rw [hfields]

theorem process_fuelUsed (g : Graph) (e : Execution) (t : Task) :
    (process g e t).1.fuelUsed = e.fuelUsed := by
  obtain ⟨_, _, _, _, _, hfields⟩ := process_fields g e t
  rw [hfields]

section
variable {g : Graph} {k : Nat} {e e' : Execution} {ds : List Delivery}

theorem Paces.fuelUsed (h : Paces g k e ds e') : e'.fuelUsed = e.fuelUsed + k := by
  induction h with
  | refl e => rfl
  | @step k e e' t rest ds _ _ ih =>
    rw [ih, process_fuelUsed, started]
    simp only
    omega

theorem Paces.query (h : Paces g k e ds e') : e'.query = e.query := by
  induction h with
  | refl e => rfl
  | step _ _ ih => exact ih.trans (process_query ..)

theorem Paces.withQuery (h : Paces g k e ds e') (q : Query) :
    Paces g k (e.withQuery q) ds (e'.withQuery q) := by
  induction h with
  | refl e => exact .refl _
  | @step k e e' t rest ds hstack _ ih =>
    have hstep : process g ((e.withQuery q).started rest) t =
        forQuery q (process g (e.started rest) t) := process_withQuery q (e.started rest) g t
    have hnext : Paces g k (process g ((e.withQuery q).started rest) t).1 ds (e'.withQuery q) := by
      rw [hstep]
      exact ih
    have hpaces := Paces.step (e := e.withQuery q) hstack hnext
    rw [hstep] at hpaces
    exact hpaces

/-- Work can be cut between any two tasks. -/
theorem Paces.split {j : Nat} (h : Paces g (j + k) e ds e') : ∃ e₁ ds₁ ds₂,
    Paces g j e ds₁ e₁ ∧ Paces g k e₁ ds₂ e' ∧ ds = ds₁ ++ ds₂ := by
  induction j generalizing e ds with
  | zero =>
    rw [Nat.zero_add] at h
    exact ⟨e, [], ds, .refl e, h, rfl⟩
  | succ j ih =>
    rw [Nat.add_right_comm] at h
    cases h with
    | step hstack hpaces =>
      obtain ⟨e₁, ds₁, ds₂, hfirst, hsecond, rfl⟩ := ih hpaces
      exact ⟨e₁, _, ds₂, .step hstack hfirst, hsecond, (List.append_assoc ..).symm⟩

end

/-! ## Runs under a limit -/

def Allows (e : Execution) (k : Nat) : Prop :=
  ∀ limit, e.query.maxFuel = some limit → e.fuelUsed + k ≤ limit

section
variable {e e' : Execution} {t : Task} {rest : List Task} {k : Nat}

theorem Allows.overLimit (h : e.Allows (k + 1)) (rest : List Task) :
    (e.started rest).overLimit = none := by
  rw [Execution.overLimit]
  split
  case h_1 => rfl
  case h_2 limit hlimit =>
    have hle := h limit hlimit
    rw [if_neg]
    simp only [started]
    omega

theorem Allows.process (h : e.Allows (k + 1)) (g : Graph) (rest : List Task) (t : Task) :
    (Execution.process g (e.started rest) t).1.Allows k := by
  intro limit hlimit
  rw [process_query] at hlimit
  have hle := h limit hlimit
  rw [process_fuelUsed]
  simp only [started]
  omega

theorem overLimit_of_eq {n : Nat} (hlimit : e.query.maxFuel = some n) (hused : e.fuelUsed = n)
    (rest : List Task) : (e.started rest).overLimit = some (.fuelLimitExceeded (n + 1) n) := by
  simp only [overLimit, started, hlimit, hused, Nat.lt_succ_self, if_true]

/-- The tasks that are allowed are worked through, one a round. -/
theorem loop_paces (levels : Nat) {g : Graph} {ds : List Delivery} (hpaces : Paces g k e ds e')
    (hallows : e.Allows k) (rounds : Nat) {m : Plain} (hm : m.execution = e) (hg : m.store.graph = g) :
    loop levels (rounds + k) m =
      loop levels rounds { m with execution := e', deliveries := m.deliveries ++ ds } := by
  induction hpaces generalizing m with
  | refl e =>
    subst hm
    rw [List.append_nil, Nat.add_zero]
  | step hstack _ ih =>
    subst hm hg
    rw [← Nat.add_assoc, loop_cons hstack (hallows.overLimit _), ← List.append_assoc]
    exact ih (hallows.process _ _ _) rfl rfl

theorem loop_cut (levels rounds : Nat) {m : Plain} {n : Nat} (hstack : m.execution.stack = t :: rest)
    (hlimit : m.execution.query.maxFuel = some n) (hused : m.execution.fuelUsed = n) :
    loop levels (rounds + 1) m =
      some ({ m with execution := { m.execution.started rest with aborted := true } },
        .error (.fuelLimitExceeded (n + 1) n)) := by
  have hover := overLimit_of_eq hlimit hused rest
  rw [started] at hover
  rw [loop, hstack]
  simp only [hover]
  rfl

end

def ComesTo (q : Query) (s : Store) (m : Plain) (outcome : Except QueryError RunStatus) : Prop :=
  ∃ n, ∀ levels, ∀ rounds ≥ n, run levels rounds (.new q) NoDocuments.mk s = some (m, outcome)

section
variable {q : Query} {s : Store} {e : Execution} {ds : List Delivery} {k : Nat}
  (hpaces : Paces s.graph k (.new q) ds e)
include hpaces

theorem Paces.comesTo_complete (hallows : (new q).Allows k) (hstack : e.stack = [])
    (hcomplete : e.complete = true) : ComesTo q s ⟨e, .mk, s, ds⟩ (.ok .complete) := by
  refine ⟨k + 1, fun levels rounds hrounds => ?_⟩
  obtain ⟨r, rfl⟩ : ∃ r, rounds = (r + 1) + k := ⟨rounds - (k + 1), by omega⟩
  rw [run_new, loop_paces levels hpaces hallows (r + 1) rfl rfl]
  exact loop_complete levels r hstack hcomplete

theorem Paces.comesTo_cut {t : Task} {rest : List Task} (hlimit : q.maxFuel = some k)
    (hstack : e.stack = t :: rest) :
    ComesTo q s ⟨{ e.started rest with aborted := true }, .mk, s, ds⟩
      (.error (.fuelLimitExceeded (k + 1) k)) := by
  have hallows : (new q).Allows k := by
    intro limit hlimit'
    obtain rfl := Option.some.inj (hlimit.symm.trans hlimit')
    exact Nat.le_of_eq (Nat.zero_add k)
  refine ⟨k + 1, fun levels rounds hrounds => ?_⟩
  obtain ⟨r, rfl⟩ : ∃ r, rounds = (r + 1) + k := ⟨rounds - (k + 1), by omega⟩
  rw [run_new, loop_paces levels hpaces hallows (r + 1) rfl rfl]
  have hquery : e.query = q := hpaces.query
  have hused : e.fuelUsed = k := hpaces.fuelUsed.trans (Nat.zero_add k)
  exact loop_cut levels r hstack (by rw [hquery]; exact hlimit) hused

end

/-! ## Calls after a run -/

inductive CalledOn (e₀ : Execution) : Execution → List Delivery → Prop
  | here : CalledOn e₀ e₀ []
  | ready {e : Execution} {ds : List Delivery} (h : CalledOn e₀ e ds) (document : Term) :
      CalledOn e₀ (e.documentReady document).2 ds
  | ran {e : Execution} {ds : List Delivery} (h : CalledOn e₀ e ds) {φ : Type} [Fetcher φ]
      {levels rounds : Nat} {f : φ} {s : Store} {m : Machine φ}
      {outcome : Except QueryError RunStatus} (hrun : run levels rounds e f s = some (m, outcome)) :
      CalledOn e₀ m.execution (ds ++ m.deliveries)

theorem run_of_aborted {φ : Type} [Fetcher φ] {e : Execution} (h : e.aborted = true)
    (levels rounds : Nat) (f : φ) (s : Store) :
    run levels rounds e f s = some (⟨e, f, s, []⟩, .error .aborted) := by
  simp only [run, h, if_true]

/-- Neither a run nor a document that is ready brings an aborted execution back. -/
theorem CalledOn.of_aborted {e₀ e : Execution} {ds : List Delivery} (h : CalledOn e₀ e ds)
    (haborted : e₀.aborted = true) : e.aborted = true ∧ ds = [] := by
  induction h with
  | here => exact ⟨haborted, rfl⟩
  | @ready e ds _ document ih =>
    obtain ⟨stack, parked, hfields⟩ := documentReady_fields e document
    rw [hfields]
    exact ih
  | @ran e ds _ φ _ levels rounds f s m outcome hrun ih =>
    obtain ⟨hstill, rfl⟩ := ih
    rw [run_of_aborted hstill] at hrun
    obtain ⟨rfl, -⟩ := Prod.mk.inj (Option.some.inj hrun)
    exact ⟨hstill, rfl⟩

/-! ## The main result -/

/-- Of deliveries that end with the message that there are no more, rows alone are the beginning of
the rows. -/
theorem prefix_of_rows {pre rows : List Bindings} {ds : List Delivery}
    (h : rows.map Delivery.row ++ [.done] = pre.map Delivery.row ++ ds) : pre <+: rows := by
  have hprefix : pre.map Delivery.row <+: rows.map Delivery.row ++ [.done] := ⟨ds, h.symm⟩
  have hrows := hprefix.filterMap Delivery.row?
  rw [filterMap_row?] at hrows
  simpa [Function.comp_def, Delivery.row?] using hrows

/-- A run that was cut off has handed out nothing but rows. -/
theorem ComesTo.rows_of_aborted {q : Query} {s : Store} {m : Plain}
    {outcome : Except QueryError RunStatus} (h : ComesTo q s m outcome)
    (haborted : m.execution.aborted = true) :
    ∃ pre : List Bindings, m.deliveries = pre.map Delivery.row := by
  obtain ⟨n, hn⟩ := h
  have hcalled := Called.ran (.new (q := q)) (hn 0 n (Nat.le_refl n))
  obtain ⟨-, hopen, pre, hrows, -⟩ := hcalled.accounted
  exact ⟨pre, by simpa [hopen haborted] using hrows⟩

/-- Let the query be run without a limit and without documents until it is complete. A limit that is
no lower than the number of tasks taken by then makes no difference. Under a lower one the run ends
with the error when it takes one task too many; it has handed out a beginning of the same rows and not
said that there are no more; and whatever is called on the execution from then on, each run fails and
hands out nothing. -/
theorem fuel_truncates (q : Query) (s : Store) :
    ∃ (full : Plain) (rows : List Bindings),
      ComesTo { q with maxFuel := none } s full (.ok .complete) ∧
      Paces s.graph full.execution.fuelUsed (.new { q with maxFuel := none }) full.deliveries
        full.execution ∧
      full.deliveries = rows.map Delivery.row ++ [.done] ∧
      ∀ n,
        (full.execution.fuelUsed ≤ n → ∃ m : Plain,
          ComesTo { q with maxFuel := some n } s m (.ok .complete) ∧
          m.deliveries = full.deliveries ∧ m.execution.fuelUsed = full.execution.fuelUsed) ∧
        (n < full.execution.fuelUsed → ∃ (m : Plain) (pre : List Bindings),
          ComesTo { q with maxFuel := some n } s m (.error (.fuelLimitExceeded (n + 1) n)) ∧
          m.deliveries = pre.map Delivery.row ∧ pre <+: rows ∧
          ∀ e ds, CalledOn m.execution e ds → ds = [] ∧
            ∀ {φ : Type} [Fetcher φ] (levels rounds : Nat) (f : φ) (t : Store),
              run levels rounds e f t = some (⟨e, f, t, []⟩, .error .aborted)) := by
  obtain ⟨e, hstack, hcomplete, hworks⟩ := works_new s.graph { q with maxFuel := none } rfl
  obtain ⟨k, hpaces⟩ := hworks.paces
  have hused : e.fuelUsed = k := hpaces.fuelUsed.trans (Nat.zero_add k)
  subst hused
  have hunlimited : (new { q with maxFuel := none }).Allows e.fuelUsed := fun _ hlimit => nomatch hlimit
  refine ⟨⟨e, .mk, s, _⟩, _, hpaces.comesTo_complete hunlimited hstack hcomplete, hpaces, rfl,
    fun n => ⟨fun hle => ?_, fun hlt => ?_⟩⟩
  · have hallows : (new { q with maxFuel := some n }).Allows e.fuelUsed := by
      intro limit hlimit
      obtain rfl := Option.some.inj hlimit
      exact Nat.le_trans (Nat.le_of_eq (Nat.zero_add e.fuelUsed)) hle
    have hlimited := hpaces.withQuery { q with maxFuel := some n }
    exact ⟨_, hlimited.comesTo_complete hallows hstack hcomplete, rfl, rfl⟩
  · -- the run with the limit is the run without it up to the task that is one too many
    obtain ⟨j, hj⟩ : ∃ j, e.fuelUsed = n + (j + 1) := Nat.exists_eq_add_of_lt hlt
    rw [hj] at hpaces
    obtain ⟨e₁, ds₁, ds₂, hfirst, hsecond, hrows⟩ := hpaces.split
    cases hsecond with
    | step hstack₁ _ =>
      have hlimited := hfirst.withQuery { q with maxFuel := some n }
      have hends := hlimited.comesTo_cut rfl hstack₁
      obtain ⟨pre, hpre⟩ := hends.rows_of_aborted rfl
      simp only at hpre
      rw [hpre] at hrows
      refine ⟨_, pre, hends, hpre, prefix_of_rows hrows, fun e' ds hcalled => ?_⟩
      obtain ⟨hstill, hnone⟩ := hcalled.of_aborted rfl
      exact ⟨hnone, fun levels rounds f t => run_of_aborted hstill levels rounds f t⟩

end Execution

end QuadGraph
