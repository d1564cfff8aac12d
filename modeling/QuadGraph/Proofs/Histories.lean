import QuadGraph.Proofs.Assertions
import QuadGraph.Proofs.Explanations

/-!
# Readers of what a query binds

While an execution is worked on the store may change: fetchers load documents, and between two rounds
anything may be added, merged or removed. A history tells what has become of both, and which graphs
were searched (`Execution.History`); runs only continue it (`Execution.History.ran`). What is on its way
stays explained by the graph as it is in the end (`Execution.History.traced`), since terms that are alike
stay so. So whoever reads a row under a proper name finds the same, and finds what the query asks for
(`Execution.History.readers_agree`). Under a name that begins with a question mark they come apart
(`Execution.readers_apart`).
-/

namespace QuadGraph

namespace StoreM

theorem addAll_byChanges (levels : Nat) (sts : List Statement) : ByChanges (addAll levels sts) := by
  induction sts with
  | nil => exact .pure 0
  | cons st sts ih =>
    exact .bind (addWith_byChanges (apply_byChanges levels) st) fun _ => .bind ih fun _ => .pure _

end StoreM

/-! ## Fetchers that change the store -/

namespace Fetcher

def ByChanges (φ : Type) [Fetcher φ] : Prop :=
  ∀ (levels : Nat) (f : φ) (document requestedBy : Term),
    StoreM.ByChanges (Fetcher.fetch levels f document requestedBy)

theorem noDocuments_byChanges : ByChanges NoDocuments :=
  fun _ _ _ _ => .pure _

end Fetcher

theorem MemoryFetcher.fetch_byChanges (levels : Nat) (f : MemoryFetcher) (document : Term) :
    StoreM.ByChanges (f.fetch levels document) := by
  have hcomplete : ∀ f : MemoryFetcher, StoreM.ByChanges (f.complete levels document) := by
    intro f
    rw [complete]
    split
    · exact .pure _
    · exact .bind (StoreM.addAll_byChanges levels _) fun _ => .pure _
  rw [fetch]
  split
  · exact .pure _
  · exact hcomplete _

namespace Fetcher

theorem memory_byChanges : ByChanges MemoryFetcher :=
  fun levels f document _ => f.fetch_byChanges levels document

theorem restricted_byChanges : ByChanges RestrictedFetcher :=
  fun levels f document _ => .bind (f.inner.fetch_byChanges levels document) fun _ => .pure _

end Fetcher

namespace Execution

theorem checkDocuments_byChanges {φ : Type} [Fetcher φ] (hf : Fetcher.ByChanges φ) (levels : Nat)
    (f : φ) (ts : List Term) : StoreM.ByChanges (checkDocuments levels f ts) := by
  induction ts with
  | nil => exact .pure _
  | cons t ts ih =>
    rw [checkDocuments]
    split
    · exact ih
    · split
      · exact ih
      · exact ih
      · exact .pure _
      · exact .bind (hf levels f _ t) fun _ => .pure _

/-! ## Histories -/

/-- What has become of an execution of the query and of a store, the graphs that were searched
meanwhile, and all that was handed out. Between any two rounds the store may be changed, documents may be
settled, and another fetcher may be taken. -/
inductive History (q : Query) : List Graph → Store → Execution → List Delivery → Prop
  | new {s : Store} (hwf : s.graph.WellFormed) : History q [] s (.new q) []
  | changed {gs : List Graph} {s t : Store} {e : Execution} {ds : List Delivery} {cs : List Change}
    (h : History q gs s e ds) (he : s.Evolves cs t) : History q gs t e ds
  | ready {gs : List Graph} {s : Store} {e : Execution} {ds : List Delivery}
    (h : History q gs s e ds) (document : Term) : History q gs s (e.documentReady document).2 ds
  | round {gs : List Graph} {s : Store} {e : Execution} {past ds : List Delivery} {φ : Type}
    [Fetcher φ] {levels : Nat} {f : φ} {m : Machine φ} {cs : List Change}
    (h : History q gs s e (past ++ ds)) (he : s.Evolves cs m.store)
    (hround : Round levels ⟨e, f, s, ds⟩ m) :
    History q (gs ++ [m.store.graph]) m.store m.execution (past ++ m.deliveries)
  | stopped {gs : List Graph} {s : Store} {e : Execution} {past ds : List Delivery} {φ : Type}
    [Fetcher φ] {f : φ} {m : Machine φ} {outcome : Except QueryError RunStatus}
    (h : History q gs s e (past ++ ds)) (hstops : Stops ⟨e, f, s, ds⟩ m outcome) :
    History q gs m.store m.execution (past ++ m.deliveries)

def Held (gs : List Graph) (st : Statement) : Prop := ∃ g ∈ gs, ∃ e ∈ g.entries, e.statement = st

section
variable {q : Query} {gs : List Graph} {s : Store} {e : Execution} {ds : List Delivery}

/-- What was alike in a graph that was searched is still alike. -/
theorem History.served (h : History q gs s e ds) :
    s.graph.WellFormed ∧ ∀ g ∈ gs, Pattern.Serves g s.graph (Held gs) := by
  have hseen : s.graph.WellFormed ∧ ∀ g ∈ gs, g.WellFormed ∧ g.AlikeIn s.graph := by
    induction h with
    | new hwf => exact ⟨hwf, nofun⟩
    | changed _ he ih =>
      refine ⟨he.wellFormed ih.1, fun g hg => ⟨(ih.2 g hg).1, fun t u halike => ?_⟩⟩
      exact he.alike ih.1 ((ih.2 g hg).2 t u halike)
    | ready _ document ih => exact ih
    | round _ he hround ih =>
      refine ⟨he.wellFormed ih.1, fun g hg => ?_⟩
      rcases List.mem_append.mp hg with hg | hg
      · exact ⟨(ih.2 g hg).1, fun t u halike => he.alike ih.1 ((ih.2 g hg).2 t u halike)⟩
      · rw [List.mem_singleton.mp hg]
        exact ⟨he.wellFormed ih.1, fun _ _ halike => halike⟩
    | stopped _ hstops ih => cases hstops <;> exact ih
  refine ⟨hseen.1, fun g hg => ⟨(hseen.2 g hg).1, (hseen.2 g hg).2, fun e he => ?_⟩⟩
  exact ⟨g, hg, e, he, rfl⟩

/-! ### What is on its way -/

variable {g : Graph} {held : Statement → Prop}

theorem traced_new (g : Graph) (held : Statement → Prop) (q : Query) :
    (new q).Traced g held q (new q).tasks := by
  have hroot : ∀ {i : Nat} {b : Branch}, ((new q).branches.map Branch.uncounted)[i]? = some b →
      b = { pattern := q.pattern, owner := .root } := by
    intro i b hb
    change [_][i]? = some b at hb
    rw [List.getElem?_singleton] at hb
    split at hb
    · exact (Option.some.inj hb).symm
    · cases hb
  refine ⟨fun i b hb => ?_, fun t ht => ?_, nofun⟩
  · rw [hroot hb]
    exact ⟨q.initial, rfl, fun _ => rfl, nofun⟩
  · rw [List.mem_singleton.mp (show t ∈ [firstTask 0 q.pattern q.initial] from ht)]
    exact ⟨q.pattern, q.initial, ⟨_, rfl, rfl, rfl⟩, Pattern.fitted_start g held q.pattern q.initial⟩

theorem Traced.documentReady (h : e.Traced g held q e.tasks) (document : Term) :
    (e.documentReady document).2.Traced g held q (e.documentReady document).2.tasks := by
  obtain ⟨stack, parked, hfields⟩ := documentReady_fields e document
  refine Traced.congr (e := e) (h.subset (tasks_documentReady e document).subset) ?_ ?_
  · rw [hfields]
  · rw [hfields]

theorem Round.traced {φ : Type} [Fetcher φ] {levels : Nat} {m m' : Machine φ}
    (hround : Round levels m m') (hg : Pattern.Serves m'.store.graph g held)
    (h : m.execution.Traced g held q m.execution.tasks) :
    m'.execution.Traced g held q m'.execution.tasks ∧
      ∃ rows, m'.deliveries = m.deliveries ++ rows ∧ Accounts g held q rows := by
  obtain ⟨hstack, -, hadvance⟩ := hround
  rename_i t rest
  have hstarted : (m.execution.started rest).Traced g held q
      (t :: (m.execution.started rest).tasks) := by
    rw [tasks, hstack] at h
    exact h
  rw [advance, Option.map_eq_some_iff] at hadvance
  obtain ⟨⟨⟨readiness, fetcher⟩, store⟩, -, rfl⟩ := hadvance
  cases readiness with
  | ready =>
    obtain ⟨htraced, haccounts⟩ := process_traced hg hstarted
    exact ⟨htraced, _, rfl, haccounts⟩
  | retry => exact ⟨hstarted, [], (List.append_nil _).symm, .nil g held q⟩
  | suspend document =>
    refine ⟨?_, [], (List.append_nil _).symm, .nil g held q⟩
    have hparked := tasks_park (m.execution.started rest) document t
    exact Traced.congr (e := m.execution.started rest) (hstarted.subset hparked.subset) rfl rfl

/-- Whatever happens meanwhile, all that is on its way is explained, and so is all that was handed
out. -/
theorem History.traced (h : History q gs s e ds) (hg : ∀ g' ∈ gs, Pattern.Serves g' g held) :
    e.Traced g held q e.tasks ∧ Accounts g held q ds := by
  induction h with
  | new hwf => exact ⟨traced_new g held q, .nil g held q⟩
  | changed _ _ ih => exact ih hg
  | ready _ document ih => exact ⟨(ih hg).1.documentReady document, (ih hg).2⟩
  | round _ _ hround ih =>
    obtain ⟨htraced, haccounts⟩ := ih fun g' hg' => hg g' (List.mem_append_left _ hg')
    obtain ⟨htraced', rows, hrows, haccounts'⟩ := hround.traced (hg _ (by simp)) htraced
    rw [hrows, ← List.append_assoc]
    exact ⟨htraced', haccounts.append haccounts'⟩
  | stopped _ hstops ih =>
    obtain ⟨htraced, haccounts⟩ := ih hg
    cases hstops with
    | idle hstack => exact ⟨htraced, haccounts⟩
    | overLimit hstack hlimit =>
      refine ⟨?_, haccounts⟩
      rw [tasks, hstack] at htraced
      exact htraced.subset (List.subset_cons_self ..)

/-! ### Runs -/

theorem History.resumed {φ : Type} [Fetcher φ] (h : History q gs s e ds) (f : φ) :
    History q gs s (e.resumeSettled f) ds :=
  resumeSettled_keeps (P := fun e => History q gs s e ds) (fun _ document h => h.ready document) f h

theorem History.rounds {φ : Type} [Fetcher φ] (hf : Fetcher.ByChanges φ) {levels : Nat}
    {past : List Delivery} {m m' : Machine φ}
    (h : History q gs m.store m.execution (past ++ m.deliveries))
    (hrounds : Relation.ReflTransGen (Round levels) m m') :
    ∃ gs', History q (gs ++ gs') m'.store m'.execution (past ++ m'.deliveries) := by
  induction hrounds with
  | refl => exact ⟨[], by rwa [List.append_nil]⟩
  | @tail m₁ m₂ _ hround ih =>
    obtain ⟨gs', h₁⟩ := ih
    obtain ⟨cs, hcs⟩ : ∃ cs, m₁.store.Evolves cs m₂.store := by
      obtain ⟨hstack, -, hadvance⟩ := hround
      rw [advance, Option.map_eq_some_iff] at hadvance
      obtain ⟨⟨⟨readiness, fetcher⟩, store⟩, hcheck, rfl⟩ := hadvance
      have hchanges := checkDocuments_byChanges hf levels m₁.fetcher _ h₁.served.1 hcheck
      cases readiness <;> exact hchanges
    refine ⟨gs' ++ [m₂.store.graph], ?_⟩
    rw [← List.append_assoc]
    exact h₁.round hcs hround

theorem History.ran {φ : Type} [Fetcher φ] (hf : Fetcher.ByChanges φ) (h : History q gs s e ds)
    {levels rounds : Nat} {f : φ} {m : Machine φ} {outcome : Except QueryError RunStatus}
    (hrun : run levels rounds e f s = some (m, outcome)) :
    ∃ gs', History q (gs ++ gs') m.store m.execution (ds ++ m.deliveries) := by
  have hidle : ∃ gs', History q (gs ++ gs') s e (ds ++ []) :=
    ⟨[], by rwa [List.append_nil, List.append_nil]⟩
  rcases run_cases hrun with ⟨-, rfl, -⟩ | ⟨-, -, rfl, -⟩ | ⟨-, -, m₁, hrounds, hstops⟩
  · exact hidle
  · exact hidle
  · have hstart : History q gs s (e.resumeSettled f) (ds ++ []) := by
      rw [List.append_nil]
      exact h.resumed f
    obtain ⟨gs', h₁⟩ := History.rounds (m := ⟨e.resumeSettled f, f, s, []⟩) hf hstart hrounds
    exact ⟨gs', h₁.stopped hstops⟩

/-! ### Those who read -/

/-- Just under proper names all who read bindings find the same: the entries, what is looked up and what
is put in the place of the variable. So whatever happens to the store while a query is worked on, each
row is explained, part by part. Each statement of the pattern itself was matched with one that was held
and has, at every occurrence of a variable, a term like the one in the row; and what was not given from
the start passes its constraint. Runs with fetchers that come down to changes continue the history. -/
theorem History.readers_agree (h : History q gs s e ds) :
    (∀ name, Proper name ↔ ∀ b : Bindings,
      (∀ t, (name, t) ∈ b.toList → b.get? name = some t ∧ b.contains name = true) ∧
      b.substitute (.var name) = (b.get? name).getD (.var name)) ∧
    (∀ row, .row row ∈ ds → q.pattern.Explained s.graph (Held gs) q.initial row ∧
      ∀ st ∈ q.pattern.statements,
        (∃ found, Held gs found ∧ s.graph.FitsStatement (fun name u => Proper name →
          ∃ t, row.get? name = some t ∧ s.graph.alike t u = true) st found) ∧
        ∀ name ∈ st.vars, Proper name → ∃ t, row.get? name = some t ∧
          (q.initial.contains name = false → ∀ c, q.pattern.constraint? name = some c →
            c.test t = true)) ∧
    ∀ {φ : Type} [Fetcher φ], Fetcher.ByChanges φ → ∀ (levels rounds : Nat) (f : φ) (m : Machine φ)
      (outcome : Except QueryError RunStatus), run levels rounds e f s = some (m, outcome) →
        ∃ gs', History q (gs ++ gs') m.store m.execution (ds ++ m.deliveries) := by
  refine ⟨fun name => ⟨fun hname b => ⟨fun t ht => ?_, Bindings.substitute_var hname b⟩,
      fun hreads => Bindings.proper_of_reads fun b t ht => ((hreads b).1 t ht).1⟩,
    fun row hrow => ?_, fun hf levels rounds f m outcome hrun => h.ran hf hrun⟩
  · have hget := Bindings.get?_of_mem_toList hname ht
    rw [Bindings.contains_eq_isSome, hget]
    exact ⟨rfl, rfl⟩
  · have hexplained := (h.traced h.served.2).2 row hrow
    refine ⟨hexplained, fun st hst => ?_⟩
    obtain ⟨htrunk, hjoined⟩ := hexplained
    rename_i trunk
    have hkeeps : trunk.Keeps row := Pattern.Joined.keeps hjoined (.refl trunk)
    obtain ⟨i, hi⟩ := List.getElem?_of_mem hst
    obtain ⟨found, hfound, hfits⟩ := htrunk.answered i st hi List.not_mem_nil
    refine ⟨⟨found, hfound, hfits.mono fun name u hreads hname => ?_⟩, fun name hmem hname => ?_⟩
    · obtain ⟨t, ht, halike⟩ := hreads hname
      exact ⟨t, (Bindings.get?_eq hname.bareName_eq row).trans (hkeeps name t hname ht), halike⟩
    · obtain ⟨u, hu⟩ := hfits.exists_meets hmem
      obtain ⟨t, ht, -⟩ := hu hname
      refine ⟨t, (Bindings.get?_eq hname.bareName_eq row).trans (hkeeps name t hname ht), ?_⟩
      intro hnew c hc
      rw [Bindings.contains, hname.bareName_eq] at hnew
      refine htrunk.admits name hname (fun hold => ?_) c t hc ht
      rw [Std.ExtTreeMap.mem_iff_contains, hnew] at hold
      cases hold

end

/-- Two terms were merged, so one variable may stand for both. -/
theorem readers_agree_after_equate :
    let x : Term := .ofVariable "?x"
    let s : Store := (Store.ofStatement ⟨.named "a", .named "p", .named "b", .named "g"⟩).equate
      (.named "a") (.named "b")
    let c : Constraint := .equals (.named "a")
    let q : Query := { pattern := (Pattern.empty.add x (.named "p") x).constrain "?x" c }
    s.graph.WellFormed ∧ ∃ (m : Machine NoDocuments) (gs : List Graph) (row : Bindings),
      run 0 9 (.new q) ⟨⟩ s = some (m, .ok .complete) ∧ History q gs m.store m.execution m.deliveries ∧
      .row row ∈ m.deliveries ∧ q.pattern.Explained m.store.graph (Held gs) .empty row ∧
      ∃ t, row.get? "x" = some t ∧ c.test t = true := by
  intro x s c q
  have hwf : s.graph.WellFormed := ((Store.reachable_ofStatement _).equate _ _).wellFormed
  have hruns : (run 0 9 (.new q) NoDocuments.mk s).any (fun a => match a.2 with
      | .ok .complete => a.1.deliveries.any fun d => d.row?.isSome
      | _ => false) = true := by decide +kernel
  obtain ⟨⟨m, outcome⟩, hrun, hended⟩ := (Option.any_eq_true ..).mp hruns
  match outcome, hended with
  | .ok .complete, hended =>
    obtain ⟨d, hd, hsome⟩ := List.any_eq_true.mp hended
    match d, hsome with
    | .row row, _ =>
      obtain ⟨gs, hhistory⟩ := (History.new (q := q) hwf).ran Fetcher.noDocuments_byChanges hrun
      obtain ⟨-, hrows, -⟩ := hhistory.readers_agree
      obtain ⟨hexplained, hstatements⟩ := hrows row hd
      obtain ⟨-, hvars⟩ := hstatements _ List.mem_cons_self
      obtain ⟨t, ht, htest⟩ := hvars "x" (by decide) (by decide)
      exact ⟨hwf, m, gs, row, hrun, hhistory, hd, hexplained, t, ht, htest (by decide) c (by rfl)⟩

theorem exists_row {q : Query} {n : Nat} {s : Store} {P : Bindings → Bool}
    (h : ((q.solve n s).bind Except.toOption).any (fun rows => rows.length == 1 && rows.all P) = true) :
    ∃ row, q.solve n s = some (.ok [row]) ∧ P row = true := by
  obtain ⟨rows, hrows, hone⟩ := (Option.any_eq_true ..).mp h
  obtain ⟨r, hsolve, hr⟩ := Option.bind_eq_some_iff.mp hrows
  rw [Bool.and_eq_true, beq_iff_eq, List.length_eq_one_iff] at hone
  obtain ⟨⟨row, rfl⟩, hall⟩ := hone
  cases r with
  | error e => cases hr
  | ok rows =>
    obtain rfl := Option.some.inj hr
    exact ⟨row, hsolve, List.all_eq_true.mp hall row List.mem_cons_self⟩

/-- A question mark stands before the name. What was inserted is not found; the variable stands for
two terms that are not alike; and its constraint is not asked. -/
theorem readers_apart :
    let x : Term := .ofVariable "??x"
    let b : Bindings := Bindings.empty.insert "??x" (.named "a")
    let s : Store := .ofStatement ⟨.named "a", .named "p", .named "b", .named "g"⟩
    let c : Constraint := .equals (.named "b")
    let twice : Query := { pattern := Pattern.empty.add x (.named "p") x }
    let once : Query := { pattern := (Pattern.empty.add x (.named "p") (.var "y")).constrain "??x" c }
    x = .var "?x" ∧ b.toList = [("?x", .named "a")] ∧ b.get? "?x" = none ∧ b.contains "?x" = false ∧
      b.substitute x = .named "a" ∧ s.graph.alike (.named "a") (.named "b") = false ∧
      (∃ row, twice.solve 9 s = some (.ok [row])) ∧ once.pattern.constraint? "?x" = some c ∧
      ∃ row t, once.solve 9 s = some (.ok [row]) ∧ row.get? "??x" = some t ∧ c.test t = false := by
  intro x b s c twice once
  refine ⟨by rfl, by rfl, by rfl, by rfl, by rfl, by decide +kernel, ?_, by rfl, ?_⟩
  · obtain ⟨row, hsolve, -⟩ := exists_row (q := twice) (n := 9) (s := s) (P := fun _ => true)
      (by decide +kernel)
    exact ⟨row, hsolve⟩
  · obtain ⟨row, hsolve, hrow⟩ := exists_row (q := once) (n := 9) (s := s)
      (P := fun row => (row.get? "??x").any fun t => !c.test t) (by decide +kernel)
    obtain ⟨t, ht, htest⟩ := (Option.any_eq_true ..).mp hrow
    exact ⟨row, t, hsolve, ht, by simpa using htest⟩

end Execution

end QuadGraph
