import QuadGraph.Proofs.Prospects
import QuadGraph.Proofs.Schedules

/-!
# Suspension is transparent

With a fetcher that has no documents nothing is ever loaded, but tasks may still be parked, and be
put back too early, too late or more than once, between runs with and without the fetcher. Each task
keeps its part in what the query comes to (`Round.onCourse`, `Call.undisturbed`), so when the execution
is complete it has handed out the rows of the query, in some order (`Schedule.rows_perm`).
-/

namespace QuadGraph

/-! ## Fetchers that load nothing -/

def Fetcher.Idle (φ : Type) [Fetcher φ] (P : φ → Prop) : Prop :=
  ∀ (levels : Nat) (f f' : φ) (document requestedBy : Term) (state : DocumentState) (s s' : Store),
    P f → Fetcher.fetch levels f document requestedBy s = some ((state, f'), s') → P f' ∧ s' = s

theorem NoDocuments.idle : Fetcher.Idle NoDocuments fun _ => True := by
  intro levels f f' document requestedBy state s s' _ hfetch
  obtain ⟨-, rfl⟩ := Prod.mk.inj (Option.some.inj hfetch)
  exact ⟨trivial, rfl⟩

theorem MemoryFetcher.complete_idle {levels : Nat} {f f' : MemoryFetcher} {document : Term}
    {state : DocumentState} {s s' : Store} (hempty : f.documents = ∅)
    (hcomplete : f.complete levels document s = some ((state, f'), s')) :
    f'.documents = ∅ ∧ s' = s := by
  have hnone : f.documents[document.key]? = none := by
    rw [hempty]
    exact Std.ExtTreeMap.getElem?_empty
  simp only [complete, hnone] at hcomplete
  obtain ⟨hf, rfl⟩ := Prod.mk.inj (Option.some.inj hcomplete)
  obtain ⟨-, rfl⟩ := Prod.mk.inj hf
  exact ⟨hempty, rfl⟩

theorem MemoryFetcher.idle : Fetcher.Idle MemoryFetcher fun f => f.documents = ∅ := by
  intro levels f f' document requestedBy state s s' hempty hfetch
  change f.fetch levels document s = _ at hfetch
  rw [fetch] at hfetch
  by_cases hdeferred : f.deferred = true
  · rw [if_pos hdeferred] at hfetch
    obtain ⟨hf, rfl⟩ := Prod.mk.inj (Option.some.inj hfetch)
    obtain ⟨-, rfl⟩ := Prod.mk.inj hf
    exact ⟨hempty, rfl⟩
  · rw [if_neg hdeferred] at hfetch
    have hempty' : ({ f with requests := f.requests ++ [document] } : MemoryFetcher).documents = ∅ :=
      hempty
    exact complete_idle hempty' hfetch

namespace Execution

theorem checkDocuments_idle {φ : Type} [Fetcher φ] {P : φ → Prop} (hidle : Fetcher.Idle φ P)
    {levels : Nat} {f f' : φ} {ts : List Term} {r : Readiness} {s s' : Store} (hf : P f)
    (hcheck : checkDocuments levels f ts s = some ((r, f'), s')) : P f' ∧ s' = s := by
  have hpure : ∀ {r₀ : Readiness}, (pure (r₀, f) : StoreM (Readiness × φ)) s = some ((r, f'), s') →
      P f' ∧ s' = s := by
    intro r₀ h
    obtain ⟨hf', rfl⟩ := Prod.mk.inj (Option.some.inj h)
    obtain ⟨-, rfl⟩ := Prod.mk.inj hf'
    exact ⟨hf, rfl⟩
  induction ts with
  | nil => exact hpure hcheck
  | cons t ts ih =>
    cases hdocument : Fetcher.documentOf f t with
    | none =>
      simp only [checkDocuments, hdocument] at hcheck
      exact ih hcheck
    | some document =>
      cases hstate : Fetcher.state f document with
      | unrequested =>
        simp only [checkDocuments, hdocument, hstate] at hcheck
        obtain ⟨⟨⟨state, f₁⟩, s₁⟩, hfetch, hrest⟩ := Option.bind_eq_some_iff.mp hcheck
        obtain ⟨hf', rfl⟩ := Prod.mk.inj (Option.some.inj hrest)
        obtain ⟨-, rfl⟩ := Prod.mk.inj hf'
        exact hidle _ _ _ _ _ _ _ _ hf hfetch
      | requested =>
        simp only [checkDocuments, hdocument, hstate] at hcheck
        exact hpure hcheck
      | fetched =>
        simp only [checkDocuments, hdocument, hstate] at hcheck
        exact ih hcheck
      | failed =>
        simp only [checkDocuments, hdocument, hstate] at hcheck
        exact ih hcheck

/-! ## Rounds -/

structure OnCourse (q : Query) (s : Store) (e : Execution) (rows : List Bindings) : Prop where
  rooted : 0 < e.branches.length
  prospect : ∃ final, final 0 = q.pattern.rows s.graph q.initial ∧
    Prospect s.graph final e nothing e.tasks rows

namespace OnCourse

variable {q : Query} {s : Store} {e e' : Execution} {rows : List Bindings}

theorem rearrange (h : OnCourse q s e rows) (hbranches : e'.branches = e.branches)
    (hjunctions : e'.junctions = e.junctions) (htasks : e.tasks.Perm e'.tasks) :
    OnCourse q s e' rows := by
  obtain ⟨hlength, final, hroot, hprospect⟩ := h
  refine ⟨hbranches.symm ▸ hlength, final, hroot, (hprospect.perm htasks).congr (fun i b hb => ?_) hjunctions⟩
  rw [hbranches] at hb
  exact ⟨b, hb, rfl, rfl, rfl⟩

theorem documentReady (h : OnCourse q s e rows) (document : Term) :
    OnCourse q s (e.documentReady document).2 rows := by
  obtain ⟨stack, parked, hfields⟩ := documentReady_fields e document
  refine h.rearrange ?_ ?_ (tasks_documentReady e document).symm
  · rw [hfields]
  · rw [hfields]

theorem resumeSettled {φ : Type} [Fetcher φ] (h : OnCourse q s e rows) (f : φ) :
    OnCourse q s (e.resumeSettled f) rows :=
  resumeSettled_keeps (P := fun e => OnCourse q s e rows)
    (fun _ document h => h.documentReady document) f h

theorem new (q : Query) (s : Store) : OnCourse q s (.new q) [] :=
  ⟨Nat.one_pos, _, rfl, prospect_new s.graph q⟩

/-- When nothing is left to do the rows of the query have been handed out. -/
theorem perm_rows (h : OnCourse q s e rows) (haccount : e.Accounted []) (hcomplete : e.complete = true) :
    rows.Perm (q.pattern.rows s.graph q.initial) := by
  obtain ⟨hlength, final, hroot, hprospect⟩ := h
  have hb := List.getElem?_eq_getElem hlength
  have hfinished := haccount.complete_iff.mp hcomplete
  have hperm := hprospect.finished haccount hb hfinished rfl
  rw [Branch.gathered, if_pos ((haccount.root 0 _ hb).mpr rfl), hroot] at hperm
  exact hperm.symm

end OnCourse

section
variable {φ : Type} [Fetcher φ] {P : φ → Prop} (hidle : Fetcher.Idle φ P) {q : Query} {s : Store}
  {levels : Nat} {m m' : Machine φ} {rows : List Bindings}
include hidle

/-- Whether a task is worked on, looked at again or put aside, what the query comes to stays. -/
theorem Round.onCourse (hround : Round levels m m') (haccount : m.execution.Accounted [])
    (hm : P m.fetcher ∧ m.store = s)
    (h : OnCourse q s m.execution (rows ++ rowsOf m.deliveries)) :
    (P m'.fetcher ∧ m'.store = s) ∧ OnCourse q s m'.execution (rows ++ rowsOf m'.deliveries) := by
  obtain ⟨hstack, -, hadvance⟩ := hround
  rename_i t rest
  rw [advance, Option.map_eq_some_iff] at hadvance
  obtain ⟨⟨⟨readiness, fetcher⟩, store⟩, hcheck, rfl⟩ := hadvance
  obtain ⟨hfetcher, hstore⟩ := checkDocuments_idle hidle hm.1 hcheck
  obtain rfl := hstore.trans hm.2
  have htaken : (t :: (m.execution.started rest).tasks).Perm m.execution.tasks := by
    rw [tasks, tasks, hstack]
    exact .refl _
  cases readiness with
  | ready =>
    obtain ⟨hlength, final, hroot, hprospect⟩ := h
    have hstarted : Prospect store.graph final (m.execution.started rest) nothing
        (t :: (m.execution.started rest).tasks) (rows ++ rowsOf m.deliveries) :=
      (hprospect.perm htaken.symm).congr (fun i b hb => ⟨b, hb, rfl, rfl, rfl⟩) rfl
    obtain ⟨final', hroot', hprospect'⟩ := process_prospect (haccount.started hstack) hstarted
    have hgrown := (patterns_process store.graph (m.execution.started rest) t).length_le
    simp only [patterns, List.length_map] at hgrown
    rw [List.append_assoc, ← rowsOf_append] at hprospect'
    exact ⟨⟨hfetcher, rfl⟩, Nat.lt_of_lt_of_le hlength hgrown, final', hroot'.trans hroot, hprospect'⟩
  | retry => exact ⟨⟨hfetcher, rfl⟩, h.rearrange rfl rfl htaken.symm⟩
  | suspend document =>
    have hparked := (tasks_park (m.execution.started rest) document t).symm
    exact ⟨⟨hfetcher, rfl⟩, h.rearrange rfl rfl (htaken.symm.trans hparked)⟩

theorem onCourse_rounds {n : Nat} (hrounds : Relation.ReflTransGen (Round levels) m m')
    (hmidway : Midway n m) (hm : P m.fetcher ∧ m.store = s)
    (h : OnCourse q s m.execution (rows ++ rowsOf m.deliveries)) :
    (P m'.fetcher ∧ m'.store = s) ∧ OnCourse q s m'.execution (rows ++ rowsOf m'.deliveries) := by
  induction hrounds with
  | refl => exact ⟨hm, h⟩
  | tail hrounds hround ih =>
    have haccount := (rounds_midway hmidway hrounds).accounted
    exact hround.onCourse hidle haccount ih.1 ih.2

end

end Execution

/-! ## Calls -/

def Call.sparesStore : Call → Bool
  | .add .. => false
  | .equate .. => false
  | _ => true

structure Undisturbed (q : Query) (s : Store) (m : Execution.Machine MemoryFetcher) : Prop where
  called : Execution.Called q m.execution m.deliveries
  store : m.store = s
  documents : m.fetcher.documents = ∅
  onCourse : m.execution.aborted = false →
    Execution.OnCourse q s m.execution (Execution.rowsOf m.deliveries)

section
variable {q : Query} {s : Store} {m m' : Execution.Machine MemoryFetcher}

theorem Undisturbed.run {φ : Type} [Fetcher φ] {P : φ → Prop} (hidle : Fetcher.Idle φ P)
    (h : Undisturbed q s m) {levels rounds : Nat} {f : φ} (hf : P f)
    {ended : Execution.Machine φ} {outcome : Except QueryError RunStatus}
    (hrun : Execution.run levels rounds m.execution f m.store = some (ended, outcome)) :
    P ended.fetcher ∧ ∀ f' : MemoryFetcher, f'.documents = ∅ →
      Undisturbed q s ⟨ended.execution, f', ended.store, m.deliveries ++ ended.deliveries⟩ := by
  have hcalled := h.called.ran hrun
  rcases Execution.run_cases hrun with ⟨-, rfl, -⟩ | ⟨-, -, rfl, -⟩ |
    ⟨haborted, hopen, m₁, hrounds, hstops⟩
  · refine ⟨hf, fun f' hf' => ⟨hcalled, h.store, hf', fun haborted => ?_⟩⟩
    rw [List.append_nil]
    exact h.onCourse haborted
  · refine ⟨hf, fun f' hf' => ⟨hcalled, h.store, hf', fun haborted => ?_⟩⟩
    rw [List.append_nil]
    exact h.onCourse haborted
  · have hstart := (h.onCourse haborted).resumeSettled f
    rw [← List.append_nil (Execution.rowsOf m.deliveries)] at hstart
    obtain ⟨haccount, -⟩ := h.called.accounted
    have hmidway := (haccount haborted).midway haborted hopen f m.store
    obtain ⟨⟨hf₁, hstore⟩, hcourse⟩ :=
      Execution.onCourse_rounds hidle hrounds hmidway ⟨hf, h.store⟩ hstart
    rw [← Execution.rowsOf_append] at hcourse
    cases hstops with
    | idle hstack => exact ⟨hf₁, fun f' hf' => ⟨hcalled, hstore, hf', fun _ => hcourse⟩⟩
    | overLimit hstack hlimit =>
      exact ⟨hf₁, fun f' hf' => ⟨hcalled, hstore, hf', fun haborted => nomatch haborted⟩⟩

theorem Call.undisturbed (h : Undisturbed q s m) {call : Call} (hcall : call.sparesStore = true)
    (hperform : call.perform m = some m') : Undisturbed q s m' := by
  cases call with
  | run levels rounds =>
    obtain ⟨⟨ended, outcome⟩, hrun, rfl⟩ := Option.map_eq_some_iff.mp hperform
    obtain ⟨hdocuments, hended⟩ := h.run MemoryFetcher.idle h.documents hrun
    exact hended ended.fetcher hdocuments
  | runAlone levels rounds =>
    obtain ⟨⟨ended, outcome⟩, hrun, rfl⟩ := Option.map_eq_some_iff.mp hperform
    exact (h.run NoDocuments.idle trivial hrun).2 m.fetcher h.documents
  | complete levels document =>
    obtain ⟨⟨⟨state, f⟩, t⟩, hcomplete, rfl⟩ := Option.map_eq_some_iff.mp hperform
    obtain ⟨hdocuments, hstore⟩ := MemoryFetcher.complete_idle h.documents hcomplete
    exact ⟨h.called, hstore.trans h.store, hdocuments, h.onCourse⟩
  | ready document =>
    obtain rfl := Option.some.inj hperform
    refine ⟨h.called.ready document, h.store, h.documents, fun haborted => ?_⟩
    obtain ⟨stack, parked, hfields⟩ := Execution.documentReady_fields m.execution document
    simp only [hfields] at haborted
    exact (h.onCourse haborted).documentReady document
  | add => cases hcall
  | equate => cases hcall

end

/-- A fetcher without documents changes nothing about the answers, whether it settles requests at once
or later: whatever calls are made on an execution and its fetcher, in whatever order, when it is
complete it has handed out the rows that the query returns, each as often. -/
theorem Schedule.rows_perm {q : Query} (hfuel : q.maxFuel = none) {f : MemoryFetcher}
    (hempty : f.documents = ∅) {calls : Schedule} (hcalls : ∀ call ∈ calls, call.sparesStore = true)
    {s : Store} {m : Execution.Machine MemoryFetcher}
    (hperform : calls.perform ⟨.new q, f, s, []⟩ = some m) (hcomplete : m.execution.complete = true) :
    m.store = s ∧ ∃ rows, q.Returns s rows ∧ (Execution.rowsOf m.deliveries).Perm rows := by
  have hstart : Undisturbed q s ⟨.new q, f, s, []⟩ := ⟨.new, rfl, hempty, fun _ => .new q s⟩
  have h : Undisturbed q s m :=
    Schedule.keeps (fun call hcall _ _ h => Call.undisturbed h (hcalls call hcall)) hstart hperform
  obtain ⟨haccount, hopen, -⟩ := h.called.accounted
  have haborted : m.execution.aborted = false := by
    cases habort : m.execution.aborted with
    | false => rfl
    | true =>
      rw [hopen habort] at hcomplete
      cases hcomplete
  have hperm := (h.onCourse haborted).perm_rows (haccount haborted) hcomplete
  exact ⟨h.store, _, q.returns_rows hfuel s, hperm⟩

/-- Two optional branches wait for different documents. The younger one is put back too early, and
then ends first in a run without the fetcher. -/
theorem Schedule.rows_perm_while_parked :
    let first : Term := .named "http://d/b#it"
    let second : Term := .named "http://d/c#it"
    let data : List Statement := [⟨.named "a", .named "p", first, .defaultGraph⟩,
      ⟨.named "a", .named "p", second, .defaultGraph⟩, ⟨first, .named "q", .named "c", .defaultGraph⟩,
      ⟨first, .named "q", .named "e", .defaultGraph⟩]
    let inner := Pattern.empty.add (.var "y") (.named "q") (.var "z")
    let q : Query := { pattern := (Pattern.empty.add (.var "x") (.named "p") (.var "y")).addOptional inner }
    let f : MemoryFetcher := { deferred := true }
    let calls : Schedule := [.run 5 20, .ready (.named "http://d/c"), .run 5 20,
      .complete 5 (.named "http://d/c"), .ready (.named "http://d/c"), .runAlone 5 20,
      .complete 5 (.named "http://d/b"), .run 5 20]
    ∃ s m, (StoreM.addAll 5 data (.ofOptions {})).map Prod.snd = some s ∧
      calls.perform ⟨.new q, f, s, []⟩ = some m ∧ m.execution.complete = true ∧
      m.deliveries.length = 4 ∧
      m.store = s ∧ ∃ rows, q.Returns s rows ∧ (Execution.rowsOf m.deliveries).Perm rows := by
  intro first second data inner q f calls
  have hcalls : (((StoreM.addAll 5 data (.ofOptions {})).map Prod.snd).any fun s =>
      (calls.perform ⟨.new q, f, s, []⟩).any fun m =>
        m.execution.complete && m.deliveries.length == 4) = true := by decide +kernel
  obtain ⟨s, hs, hany⟩ := (Option.any_eq_true ..).mp hcalls
  obtain ⟨m, hperform, hm⟩ := (Option.any_eq_true ..).mp hany
  obtain ⟨hcomplete, hlength⟩ := (Bool.and_eq_true ..).mp hm
  exact ⟨s, m, hs, hperform, hcomplete, beq_iff_eq.mp hlength,
    Schedule.rows_perm rfl rfl (by decide) hperform hcomplete⟩

end QuadGraph
