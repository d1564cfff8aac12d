import QuadGraph.Proofs.Halting

/-!
# No wake-up is lost

Between its runs an execution is attended to: documents are requested and completed, it is told that
some are ready, and the store is changed (`Attended`). Through all this what it waits for stays what it
has parked tasks for (`Attended.running`). Whoever completes what each run waits for, and runs it again,
sees it complete (`Running.finishes`), whether or not it was told that the documents were ready.
-/

namespace QuadGraph

/-! ## Completing documents -/

namespace MemoryFetcher

variable {f f' f'' : MemoryFetcher} {levels : Nat} {document : Term} {state : DocumentState}
  {s s' : Store}

def completeAll (levels : Nat) : List Term → MemoryFetcher → StoreM MemoryFetcher
  | [], f => pure f
  | d :: ds, f => do
    let (_, f) ← f.complete levels d
    completeAll levels ds f

structure Advances (f f' : MemoryFetcher) : Prop where
  begun : ∀ d, f.state d ≠ .unrequested → f'.state d ≠ .unrequested
  settled : ∀ d, f.settled d = true → f'.settled d = true

theorem Advances.refl (f : MemoryFetcher) : f.Advances f := ⟨fun _ h => h, fun _ h => h⟩

theorem Advances.trans (h : f.Advances f') (h' : f'.Advances f'') : f.Advances f'' :=
  ⟨fun d hd => h'.begun d (h.begun d hd), fun d hd => h'.settled d (h.settled d hd)⟩

theorem complete_advances (h : f.complete levels document s = some ((state, f'), s')) :
    f.Advances f' ∧ f'.settled document = true := by
  obtain ⟨hsettled, hstate⟩ := complete_state h
  have hall : ∀ d, d.key = document.key → f'.settled d = true := by
    intro d hd
    rw [MemoryFetcher.settled, hstate, if_pos hd]
    exact hsettled
  refine ⟨⟨fun d hd => ?_, fun d hd => ?_⟩, hall document rfl⟩
  · by_cases hkey : d.key = document.key
    · exact settled_ne (hall d hkey)
    · rwa [hstate, if_neg hkey]
  · by_cases hkey : d.key = document.key
    · exact hall d hkey
    · rwa [MemoryFetcher.settled, hstate, if_neg hkey]

theorem fetch_begun (h : f.fetch levels document s = some ((state, f'), s')) (d : Term)
    (hd : f.state d ≠ .unrequested) : f'.state d ≠ .unrequested := by
  obtain ⟨hfetched, hstate⟩ := fetch_state h
  rw [hstate]
  split
  · rcases hfetched with rfl | hsettled
    · simp
    · intro hnot
      rw [hnot] at hsettled
      cases hsettled
  · exact hd

theorem completeAll_ends (levels : Nat) (ds : List Term) (f : MemoryFetcher)
    (hwf : s.graph.WellFormed) (hbuiltin : s.Builtin) :
    ∃ f' s', completeAll (levels + 2) ds f s = some (f', s') ∧ s.Grows s' ∧ f.Advances f' ∧
      ∀ d ∈ ds, f'.settled d = true := by
  induction ds generalizing f s with
  | nil => exact ⟨f, s, rfl, .refl hwf hbuiltin, .refl f, by simp⟩
  | cons d ds ih =>
    obtain ⟨state, f₁, s₁, hcomplete⟩ := f.complete_ends levels d hwf hbuiltin
    have hgrows := f.complete_adds (levels + 2) d hwf hbuiltin hcomplete
    obtain ⟨hadvances, hsettled⟩ := complete_advances hcomplete
    obtain ⟨f', s', hall, hgrows', hadvances', hsettled'⟩ := ih f₁ hgrows.wellFormed hgrows.builtin
    refine ⟨f', s', StoreM.bind_eq_some.mpr ⟨_, s₁, hcomplete, hall⟩, hgrows.trans hgrows',
      hadvances.trans hadvances', List.forall_mem_cons.mpr ⟨?_, hsettled'⟩⟩
    exact hadvances'.settled d hsettled

end MemoryFetcher

namespace Execution

/-! ## Turns -/

def allReady (e : Execution) (documents : List Term) : Execution :=
  documents.foldl (fun e d => (e.documentReady d).2) e

def RunsTo (levels : Nat) (m m' : Machine MemoryFetcher) (status : RunStatus) : Prop :=
  ∃ n, ∀ rounds ≥ n, run levels rounds m.execution m.fetcher m.store = some (m', .ok status)

/-- A run completes the execution, or does so after at most so many turns in which the documents are
completed that the last run waits for, in any order. Each time the execution may be told of some
documents that they are ready. -/
def Finishes (levels : Nat) : Nat → Machine MemoryFetcher → Prop
  | 0, m => ∃ m', RunsTo levels m m' .complete
  | turns + 1, m => (∃ m', RunsTo levels m m' .complete) ∨
    ∃ m' docs, RunsTo levels m m' (.waiting docs) ∧ ∀ (ds told : List Term), ds.Perm docs →
      ∃ f s, MemoryFetcher.completeAll levels ds m'.fetcher m'.store = some (f, s) ∧
        Finishes levels turns
          { m' with execution := m'.execution.allReady told, fetcher := f, store := s }

section
variable {settled : Term → Bool} {limit : Nat} {m : Machine MemoryFetcher} {docs : List Term}

theorem Running.documentReady (h : Running settled limit m) (document : Term) :
    Running settled limit { m with execution := (m.execution.documentReady document).2 } := by
  obtain ⟨stack, parked, hfields⟩ := documentReady_fields m.execution document
  refine ⟨h.toWatched.documentReady document, ?_, h.accounted.documentReady document⟩
  rw [hfields]
  exact h.aborted

theorem Running.allReady (h : Running settled limit m) (told : List Term) :
    Running settled limit { m with execution := m.execution.allReady told } := by
  induction told generalizing m with
  | nil => exact h
  | cons d ds ih => exact ih (h.documentReady d)

theorem Waits.exists_task (hwaits : Waits m docs) (haccount : m.execution.Accounted []) :
    ∃ t, t ∈ m.execution.tasks := by
  obtain ⟨key, w, hw⟩ := exists_of_ne_empty hwaits.parked
  have hmem := mem_values_iff.mpr ⟨key, hw⟩
  obtain ⟨t, ht⟩ := List.exists_mem_of_ne_nil _ (haccount.filled w hmem)
  exact ⟨t, List.mem_append_right _ (List.mem_flatMap.mpr ⟨w, hmem, ht⟩)⟩

theorem Running.turn (h : Running settled (limit + 1) m) (hwaits : Waits m docs) {f : MemoryFetcher}
    {s : Store} (hgrows : m.store.Grows s) (hadvances : m.fetcher.Advances f)
    (hdocs : ∀ d ∈ docs, f.settled d = true) :
    Running f.settled limit { m with fetcher := f, store := s } := by
  refine h.refetched hgrows.wellFormed hgrows.builtin (fun _ hd => hd) hadvances.begun
    fun t ht => ?_
  obtain ⟨p, hp, hweight⟩ := h.within t ht
  rw [tasks, hwaits.stack, List.nil_append] at ht
  obtain ⟨w, hmem, ht⟩ := List.mem_flatMap.mp ht
  obtain ⟨key, hw⟩ := mem_values_iff.mp hmem
  obtain ⟨hkeyed, -, htouches⟩ := h.parked key w hw
  -- the document that the task is parked for is open before and settled now
  obtain ⟨p', hp', d, hd, hkey⟩ := htouches t ht
  rw [hp] at hp'
  obtain rfl := Option.some.inj hp'
  have hsame : d.key = w.document.key := hkey.trans hkeyed.symm
  have hbefore : m.fetcher.settled d = false := by
    rw [MemoryFetcher.settled, m.fetcher.state_congr hsame, hwaits.awaits key w hw]
    rfl
  have hafter : f.settled d = true := by
    rw [MemoryFetcher.settled, f.state_congr hsame]
    refine hdocs w.document ?_
    rw [hwaits.documents]
    exact mem_waitingOn.mpr ⟨key, w, hw, rfl⟩
  have hlighter := weight_mono h.known p t
  have hlt : weight f.settled p t < weight m.fetcher.settled p t :=
    weight_settled hadvances.settled hd hbefore hafter
  exact ⟨p, hp, by omega⟩

theorem Running.ends (h : Running settled limit m) (levels : Nat) :
    ∃ m', Running settled limit m' ∧ (RunsTo (levels + 2) m m' .complete ∨
      ∃ docs, RunsTo (levels + 2) m m' (.waiting docs) ∧ Waits m' docs) := by
  obtain ⟨n, m', status, hn⟩ := h.toWatched.halts h.aborted levels
  obtain ⟨h', hended⟩ := Running.ran h (hn n (Nat.le_refl n))
  refine ⟨m', h', ?_⟩
  rcases hended with hstatus | ⟨docs, hstatus, hwaits⟩
  · obtain rfl := Except.ok.inj hstatus
    exact .inl ⟨n, hn⟩
  · obtain rfl := Except.ok.inj hstatus
    exact .inr ⟨docs, ⟨n, hn⟩, hwaits⟩

theorem Running.finishes (levels : Nat) {turns : Nat} (h : Running m.fetcher.settled turns m) :
    Finishes (levels + 2) turns m := by
  induction turns generalizing m with
  | zero =>
    obtain ⟨m', h', hcomplete | ⟨docs, -, hwaits⟩⟩ := h.ends levels
    · exact ⟨m', hcomplete⟩
    · -- a task is left, but no weight for it
      obtain ⟨t, ht⟩ := hwaits.exists_task h'.accounted
      obtain ⟨p, -, hweight⟩ := h'.within t ht
      have hpos := weight_pos m.fetcher.settled p t
      omega
  | succ turns ih =>
    obtain ⟨m', h', hcomplete | ⟨docs, hruns, hwaits⟩⟩ := h.ends levels
    · exact .inl ⟨m', hcomplete⟩
    · refine .inr ⟨m', docs, hruns, fun ds told hds => ?_⟩
      obtain ⟨f, s, hall, hgrows, hadvances, hsettled⟩ :=
        MemoryFetcher.completeAll_ends levels ds m'.fetcher h'.wellFormed h'.builtin
      have hturn := h'.turn hwaits hgrows hadvances fun d hd => hsettled d (hds.mem_iff.mpr hd)
      exact ⟨f, s, hall, ih (Running.allReady hturn told)⟩

end

/-! ## Attending to an execution -/

/-- An execution of the query that was run with the fetcher and otherwise attended to in any way. -/
inductive Attended (q : Query) : Machine MemoryFetcher → Prop
  | new (f : MemoryFetcher) {s : Store} (hs : s.Reachable) (hbuiltin : s.Builtin) :
      Attended q ⟨.new q, f, s, []⟩
  | ran {m m' : Machine MemoryFetcher} (h : Attended q m) {levels rounds : Nat}
      {outcome : Except QueryError RunStatus}
      (hrun : run levels rounds m.execution m.fetcher m.store = some (m', outcome)) : Attended q m'
  | ready {m : Machine MemoryFetcher} (h : Attended q m) (document : Term) :
      Attended q { m with execution := (m.execution.documentReady document).2 }
  | completed {m : Machine MemoryFetcher} (h : Attended q m) {levels : Nat} {document : Term}
      {state : DocumentState} {f : MemoryFetcher} {s : Store}
      (hcomplete : m.fetcher.complete levels document m.store = some ((state, f), s)) :
      Attended q { m with fetcher := f, store := s }
  /-- A document is requested by someone else. -/
  | fetched {m : Machine MemoryFetcher} (h : Attended q m) {levels : Nat} {document : Term}
      {state : DocumentState} {f : MemoryFetcher} {s : Store}
      (hfetch : m.fetcher.fetch levels document m.store = some ((state, f), s)) :
      Attended q { m with fetcher := f, store := s }
  /-- Anything is done to the store, short of registering actions that are not built in. -/
  | changed {m : Machine MemoryFetcher} (h : Attended q m) {s : Store} (hs : s.Reachable)
      (hbuiltin : s.Builtin) : Attended q { m with store := s }

theorem running_new {q : Query} (hfuel : q.maxFuel = none) (f : MemoryFetcher) {s : Store}
    (hwf : s.graph.WellFormed) (hbuiltin : s.Builtin) :
    Running (fun _ => false) q.pattern.patience ⟨.new q, f, s, []⟩ := by
  refine ⟨⟨hfuel, hwf, hbuiltin, by simp, fun t ht => ?_, fun key w hw => ?_⟩, rfl, accounted_new q⟩
  · have htasks : (new q).tasks = [firstTask 0 q.pattern q.initial] := rfl
    rw [htasks] at ht
    obtain rfl := List.mem_singleton.mp ht
    exact ⟨q.pattern, rfl, weight_firstTask _ 0 q.pattern q.initial⟩
  · cases hw

theorem Attended.running {q : Query} (hfuel : q.maxFuel = none) {m : Machine MemoryFetcher}
    (h : Attended q m) : Running (fun _ => false) q.pattern.patience m := by
  induction h with
  | new f hs hbuiltin => exact running_new hfuel f hs.wellFormed hbuiltin
  | ran _ hrun ih => exact (Running.ran ih hrun).1
  | ready _ document ih => exact ih.documentReady document
  | @completed m _ levels document state f s hcomplete ih =>
    have hgrows := m.fetcher.complete_adds levels document ih.wellFormed ih.builtin hcomplete
    exact ih.refetched hgrows.wellFormed hgrows.builtin (by simp)
      (MemoryFetcher.complete_advances hcomplete).1.begun ih.within
  | @fetched m _ levels document state f s hfetch ih =>
    have hgrows := m.fetcher.fetch_adds levels document ih.wellFormed ih.builtin hfetch
    exact ih.refetched hgrows.wellFormed hgrows.builtin (by simp)
      (MemoryFetcher.fetch_begun hfetch) ih.within
  | changed _ hs hbuiltin ih =>
    exact ih.refetched hs.wellFormed hbuiltin (by simp) (fun _ hd => hd) ih.within

/-- However an execution without a limit was attended to, on a store with built-in actions only: a run
ends; the documents that it waits for, if it is not complete, are some, in order, and all of them
requested; and when each time they are completed and it is run again it is complete after as many turns
as its pattern has patience. The built-in actions nest in two levels. -/
theorem Attended.halts_and_completes {q : Query} (hfuel : q.maxFuel = none)
    {m : Machine MemoryFetcher} (h : Attended q m) :
    (∀ levels, ∃ m' status, RunsTo (levels + 2) m m' status) ∧
    (∀ levels rounds (m' : Machine MemoryFetcher) docs,
      run levels rounds m.execution m.fetcher m.store = some (m', .ok (.waiting docs)) →
        docs ≠ [] ∧ docs.Pairwise (fun a b => a.cmp b = .lt) ∧
          ∀ d ∈ docs, m'.fetcher.state d = .requested) ∧
    ∀ levels, Finishes (levels + 2) q.pattern.patience m := by
  have hrunning := h.running hfuel
  refine ⟨fun levels => ?_, fun levels rounds m' docs hrun => ?_, fun levels => ?_⟩
  · obtain ⟨m', -, hruns | ⟨docs, hruns, -⟩⟩ := hrunning.ends levels
    · exact ⟨m', _, hruns⟩
    · exact ⟨m', _, hruns⟩
  · obtain ⟨hrunning', hended⟩ := Running.ran hrunning hrun
    rcases hended with hstatus | ⟨docs', hstatus, hwaits⟩
    · cases hstatus
    · obtain rfl := RunStatus.waiting.inj (Except.ok.inj hstatus)
      refine ⟨?_, ?_, fun d hd => hwaits.requested hd⟩
      · rw [hwaits.documents]
        exact waitingOn_ne_nil hwaits.parked
      · rw [hwaits.documents]
        exact hrunning'.waitingOn_increasing
  · refine Running.finishes levels (hrunning.refetched hrunning.wellFormed hrunning.builtin
      (fun _ hd => hd) (fun _ hd => hd) fun t ht => ?_)
    exact (hrunning.within t ht).mono List.prefix_rfl (by simp) (Nat.le_refl _)

/-- The second document is only heard of in the first, and it makes a property functional. -/
theorem halts_and_completes_while_waiting :
    let first : Term := .named "http://d/b#it"
    let second : Term := .named "http://d/c#it"
    let p : Term := .named "p"
    let q : Query := Query.withBinding { pattern :=
      (Pattern.empty.add (.var "x") p (.var "y")).add (.var "y") p (.var "z") } "x" first
    let f : MemoryFetcher := (MemoryFetcher.withDocument { deferred := true } (.named "http://d/b")
      [(first, p, second)]).withDocument (.named "http://d/c")
      [(p, .named Rdf.type, .named Owl.functionalProperty), (second, p, .named "a"),
        (second, p, .named "b")]
    q.maxFuel = none ∧ ∃ m docs, run 2 9 (.new q) f .new = some (m, .ok (.waiting docs)) ∧
      Attended q m ∧ (∃ m' status, RunsTo 2 m m' status) ∧ docs ≠ [] ∧
      Finishes 2 q.pattern.patience m := by
  intro first second p q f
  have hrun : ((run 2 9 (.new q) f .new).any fun (_, outcome) =>
      match outcome with
      | .ok (.waiting _) => true
      | _ => false) = true := by decide +kernel
  obtain ⟨⟨m, outcome⟩, hrun, hwaiting⟩ := (Option.any_eq_true ..).mp hrun
  have hnew : Attended q ⟨.new q, f, .new, []⟩ := .new f (.start {}) (Store.builtin_ofOptions {})
  cases outcome with
  | error error => cases hwaiting
  | ok status =>
    cases status with
    | complete => cases hwaiting
    | waiting docs =>
      obtain ⟨-, hwaits, -⟩ := hnew.halts_and_completes rfl
      obtain ⟨hends, -, hfinishes⟩ := (hnew.ran hrun).halts_and_completes rfl
      exact ⟨rfl, m, docs, hrun, hnew.ran hrun, hends 0, (hwaits 2 9 m docs hrun).1, hfinishes 0⟩

end Execution

end QuadGraph
