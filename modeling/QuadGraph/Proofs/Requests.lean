import QuadGraph.Proofs.Attending
import QuadGraph.Proofs.Unification

/-!
# Requests are made once and awaited

Executions that share a fetcher and a store are run in turns, round by round, while documents are
completed and the store changes (`Shared.Step`). A document is requested only when nothing is known of
it, and after that something always is, so no document is requested twice, nor after it was settled
(`Shared.Step.asks`). A task is matched only when every document that it reaches through a variable
still to be matched is settled; else the round leaves it where it waits (`Round.dispatched`).
-/

namespace QuadGraph

/-! ## Requests of a fetcher -/

namespace MemoryFetcher

variable {f f' f'' : MemoryFetcher} {levels : Nat} {document : Term} {state : DocumentState}
  {s s' : Store}

theorem complete_requests (h : f.complete levels document s = some ((state, f'), s')) :
    f'.requests = f.requests := by
  cases htriples : f.documents[document.key]? with
  | none =>
    simp only [complete, htriples] at h
    obtain ⟨hf, -⟩ := Prod.mk.inj (Option.some.inj h)
    obtain ⟨-, rfl⟩ := Prod.mk.inj hf
    rfl
  | some triples =>
    simp only [complete, htriples] at h
    obtain ⟨⟨n, t⟩, -, hrest⟩ := Option.bind_eq_some_iff.mp h
    obtain ⟨hf, -⟩ := Prod.mk.inj (Option.some.inj hrest)
    obtain ⟨-, rfl⟩ := Prod.mk.inj hf
    rfl

theorem fetch_requests (h : f.fetch levels document s = some ((state, f'), s')) :
    f'.requests = f.requests ++ [document] := by
  unfold fetch at h
  cases hdeferred : f.deferred with
  | true =>
    simp only [hdeferred, if_true] at h
    obtain ⟨hf, -⟩ := Prod.mk.inj (Option.some.inj h)
    obtain ⟨-, rfl⟩ := Prod.mk.inj hf
    rfl
  | false =>
    simp only [hdeferred, Bool.false_eq_true, if_false] at h
    exact complete_requests h

structure Noted (f : MemoryFetcher) : Prop where
  once : (f.requests.map Term.key).Nodup
  begun : ∀ d ∈ f.requests, f.state d ≠ .unrequested

structure Asks (f f' : MemoryFetcher) : Prop extends Advances f f' where
  asked : ∃ new, f'.requests = f.requests ++ new ∧ ∀ d ∈ new, f.state d = .unrequested

theorem Asks.refl (f : MemoryFetcher) : f.Asks f :=
  ⟨.refl f, [], (List.append_nil _).symm, by simp⟩

theorem Asks.trans (h : f.Asks f') (h' : f'.Asks f'') : f.Asks f'' := by
  obtain ⟨new, hnew, hunknown⟩ := h.asked
  obtain ⟨new', hnew', hunknown'⟩ := h'.asked
  refine ⟨h.toAdvances.trans h'.toAdvances, new ++ new', ?_, fun d hd => ?_⟩
  · rw [hnew', hnew, List.append_assoc]
  · rcases List.mem_append.mp hd with hd | hd
    · exact hunknown d hd
    · by_contra hbegun
      exact h.begun d hbegun (hunknown' d hd)

theorem complete_asks (h : f.complete levels document s = some ((state, f'), s')) : f.Asks f' :=
  ⟨(complete_advances h).1, [], by rw [complete_requests h, List.append_nil], by simp⟩

theorem fetch_asks (hnew : f.state document = .unrequested)
    (h : f.fetch levels document s = some ((state, f'), s')) : f.Asks f' := by
  obtain ⟨-, hstate⟩ := fetch_state h
  refine ⟨⟨fetch_begun h, fun d hd => ?_⟩, [document], fetch_requests h, by simpa using hnew⟩
  rw [settled, hstate, if_neg]
  · exact hd
  · intro hkey
    rw [settled, f.state_congr hkey, hnew] at hd
    cases hd

theorem Noted.complete (hf : f.Noted) (h : f.complete levels document s = some ((state, f'), s')) :
    f'.Noted where
  once := complete_requests h ▸ hf.once
  begun d hd := (complete_advances h).1.begun d (hf.begun d (complete_requests h ▸ hd))

theorem Noted.fetch (hf : f.Noted) (hnew : f.state document = .unrequested)
    (h : f.fetch levels document s = some ((state, f'), s')) : f'.Noted where
  once := by
    rw [fetch_requests h, List.map_append, List.nodup_append]
    refine ⟨hf.once, by simp, fun key hkey key' hkey' heq => ?_⟩
    obtain ⟨d, hd, rfl⟩ := List.mem_map.mp hkey
    obtain rfl : key' = document.key := by simpa using hkey'
    -- the document would be known already
    rw [← f.state_congr heq] at hnew
    exact hf.begun d hd hnew
  begun d hd := by
    obtain ⟨hfetched, hstate⟩ := fetch_state h
    rw [fetch_requests h] at hd
    rcases List.mem_append.mp hd with hd | hd
    · exact fetch_begun h d (hf.begun d hd)
    · obtain rfl := List.mem_singleton.mp hd
      rw [hstate, if_pos rfl]
      rcases hfetched with rfl | hsettled
      · simp
      · rintro rfl
        cases hsettled

end MemoryFetcher

/-! ## One round -/

namespace Execution

section
variable {levels : Nat} {f f' : MemoryFetcher} {ts : List Term} {r : Readiness} {s s' : Store}

/-- A task is ready when all its documents are settled; else the first that is not is waited for, and
fetched if nothing is known of it. -/
theorem checkDocuments_inversion (h : checkDocuments levels f ts s = some ((r, f'), s')) :
    (r = .ready ∧ f' = f ∧ s' = s ∧ ∀ d ∈ ts.filterMap Term.document?, f.settled d = true) ∨
    (∃ d, r = .suspend d ∧ f' = f ∧ s' = s) ∨
    ∃ d state, f.state d = .unrequested ∧ f.fetch levels d s = some ((state, f'), s') ∧
      r = if state.isSettled then .retry else .suspend d := by
  induction ts with
  | nil =>
    obtain ⟨hr, rfl⟩ := Prod.mk.inj (Option.some.inj h)
    obtain ⟨rfl, rfl⟩ := Prod.mk.inj hr
    exact .inl ⟨rfl, rfl, rfl, by simp⟩
  | cons t ts ih =>
    cases hdocument : t.document? with
    | none =>
      rw [checkDocuments_of_none hdocument] at h
      rw [List.filterMap_cons_none hdocument]
      exact ih h
    | some d =>
      rw [List.filterMap_cons_some hdocument]
      rcases settled_or f d with hd | hd | hd
      · rw [checkDocuments_of_settled hdocument hd] at h
        rcases ih h with ⟨hr, hf, hs, hall⟩ | hothers
        · exact .inl ⟨hr, hf, hs, List.forall_mem_cons.mpr ⟨hd, hall⟩⟩
        · exact .inr hothers
      · rw [checkDocuments_of_requested hdocument hd] at h
        obtain ⟨hr, rfl⟩ := Prod.mk.inj (Option.some.inj h)
        obtain ⟨rfl, rfl⟩ := Prod.mk.inj hr
        exact .inr (.inl ⟨d, rfl, rfl, rfl⟩)
      · rw [checkDocuments_of_unrequested hdocument hd] at h
        obtain ⟨⟨⟨state, f₁⟩, s₁⟩, hfetch, hrest⟩ := Option.bind_eq_some_iff.mp h
        obtain ⟨hr, rfl⟩ := Prod.mk.inj (Option.some.inj hrest)
        obtain ⟨rfl, rfl⟩ := Prod.mk.inj hr
        exact .inr (.inr ⟨d, state, hd, hfetch, rfl⟩)

end

/-- The term is bound to a variable that stands as the subject or object of a statement which the task
has still to match. -/
def Reaches (p : Pattern) (t : Task) (u : Term) : Prop :=
  ∃ i ∈ t.remaining, ∃ st name, p.statements[i]? = some st ∧
    (st.subject = .var name ∨ st.object = .var name) ∧ name.toList.head? ≠ some '?' ∧
      t.bindings.values[name]? = some u

theorem Reaches.mem_touched {p : Pattern} {t : Task} {u : Term} (h : Reaches p t u) :
    u ∈ touched p t := by
  obtain ⟨i, hi, st, name, hst, hvar, hname, hu⟩ := h
  have hbound : t.bindings.get? name = some u := by
    rw [Bindings.get?, Pattern.bareName_eq hname, hu]
  refine List.mem_flatMap.mpr ⟨i, hi, ?_⟩
  rw [hst, List.mem_filterMap]
  rcases hvar with hvar | hvar
  · exact ⟨st.subject, by simp, by rw [hvar]; exact hbound⟩
  · exact ⟨st.object, by simp, by rw [hvar]; exact hbound⟩

/-- What a round does with the task that it takes: it matches it, when the document of every named
node that the task reaches is settled, or it leaves it to be looked at again or parked. -/
inductive Dispatched (t : Task) (rest : List Task) (m m' : Machine MemoryFetcher) : Prop
  | matched
    (settled : ∀ p u d, m.execution.patterns[t.branch]? = some p → Reaches p t u →
      u.document? = some d → m.fetcher.state d ≠ .unrequested ∧ m.fetcher.state d ≠ .requested)
    (fetcher : m'.fetcher = m.fetcher) (store : m'.store = m.store)
    (execution : m'.execution = (process m.store.graph (m.execution.started rest) t).1)
    (deliveries : m'.deliveries =
      m.deliveries ++ (process m.store.graph (m.execution.started rest) t).2)
  | again (execution : m'.execution = { m.execution.started rest with stack := t :: rest })
    (deliveries : m'.deliveries = m.deliveries)
  | parked (document : Term) (execution : m'.execution = (m.execution.started rest).park document t)
    (deliveries : m'.deliveries = m.deliveries)

section
variable {levels : Nat} {m m' : Machine MemoryFetcher}

theorem Round.checked (h : Round levels m m') : ∃ t rest r f s, m.execution.stack = t :: rest ∧
    checkDocuments levels m.fetcher (touched ((m.execution.patterns[t.branch]?).getD .empty) t)
      m.store = some ((r, f), s) ∧
    m'.fetcher = f ∧ m'.store = s ∧
    m' = dispatch { m with execution := m.execution.started rest, fetcher := f, store := s } t r := by
  obtain ⟨hstack, -, hadvance⟩ := h
  rename_i t rest
  rw [advance, Option.map_eq_some_iff] at hadvance
  obtain ⟨⟨⟨r, f⟩, s⟩, hcheck, rfl⟩ := hadvance
  have hpattern : m.execution.patterns[t.branch]? =
      m.execution.branches[t.branch]?.map Branch.pattern := List.getElem?_map ..
  refine ⟨t, rest, r, f, s, hstack, ?_, ?_⟩
  · rw [hpattern]
    exact hcheck
  · cases r <;> exact ⟨rfl, rfl, rfl⟩

theorem Round.dispatched (h : Round levels m m') :
    ∃ t rest, m.execution.stack = t :: rest ∧ Dispatched t rest m m' := by
  obtain ⟨t, rest, r, f, s, hstack, hcheck, hf, hs, hm'⟩ := h.checked
  refine ⟨t, rest, hstack, ?_⟩
  rcases checkDocuments_inversion hcheck with ⟨rfl, rfl, rfl, hsettled⟩ | ⟨d, rfl, -, -⟩ |
    ⟨d, state, -, -, rfl⟩
  · refine .matched (fun p u d hp hu hd => ?_) hf hs ?_ ?_
    · have hmem : d ∈ (touched p t).filterMap Term.document? :=
        List.mem_filterMap.mpr ⟨u, hu.mem_touched, hd⟩
      rw [hp, Option.getD_some] at hsettled
      have hstate := hsettled d hmem
      rw [MemoryFetcher.settled] at hstate
      constructor <;> intro hnot <;> rw [hnot] at hstate <;> cases hstate
    · rw [hm']
      rfl
    · rw [hm']
      rfl
  · exact .parked d (by rw [hm']; rfl) (by rw [hm']; rfl)
  · cases hstate : state.isSettled with
    | true =>
      rw [hstate, if_pos rfl] at hm'
      exact .again (by rw [hm']; rfl) (by rw [hm']; rfl)
    | false =>
      rw [hstate, if_neg Bool.false_ne_true] at hm'
      exact .parked d (by rw [hm']; rfl) (by rw [hm']; rfl)

theorem Round.asks (h : Round levels m m') :
    m.fetcher.Asks m'.fetcher ∧ (m.fetcher.Noted → m'.fetcher.Noted) := by
  obtain ⟨t, rest, r, f, s, -, hcheck, rfl, rfl, -⟩ := h.checked
  rcases checkDocuments_inversion hcheck with ⟨-, hf, -⟩ | ⟨d, -, hf, -⟩ | ⟨d, state, hnew, hfetch, -⟩
  · exact hf ▸ ⟨.refl _, id⟩
  · exact hf ▸ ⟨.refl _, id⟩
  · exact ⟨MemoryFetcher.fetch_asks hnew hfetch, fun hnoted => hnoted.fetch hnew hfetch⟩

end

/-! ## Executions that share a fetcher -/

structure Shared where
  executions : List Execution
  fetcher : MemoryFetcher
  store : Store

namespace Shared

def start (documents : Std.ExtTreeMap String (List Triple)) (deferred : Bool) (store : Store) :
    Shared :=
  ⟨[], { documents, deferred }, store⟩

def after (s : Shared) (i : Nat) (m : Machine MemoryFetcher) : Shared :=
  ⟨s.executions.set i m.execution, m.fetcher, m.store⟩

/-- What happens next. A run of an execution begins, takes rounds and stops; between any two of
these steps it may be the turn of another execution. -/
inductive Step : Shared → Shared → Prop
  | opened {s : Shared} (q : Query) : Step s { s with executions := s.executions ++ [.new q] }
  | begun {s : Shared} {i : Nat} {e : Execution} (he : s.executions[i]? = some e) :
    Step s (s.after i ⟨e.resumeSettled s.fetcher, s.fetcher, s.store, []⟩)
  | round {s : Shared} {i levels : Nat} {e : Execution} {ds : List Delivery}
    {m : Machine MemoryFetcher} (he : s.executions[i]? = some e)
    (hround : Round levels ⟨e, s.fetcher, s.store, ds⟩ m) : Step s (s.after i m)
  | stopped {s : Shared} {i : Nat} {e : Execution} {ds : List Delivery} {m : Machine MemoryFetcher}
    {outcome : Except QueryError RunStatus} (he : s.executions[i]? = some e)
    (hstops : Stops ⟨e, s.fetcher, s.store, ds⟩ m outcome) : Step s (s.after i m)
  | completed {s : Shared} {levels : Nat} {document : Term} {state : DocumentState}
    {f : MemoryFetcher} {store : Store}
    (hcomplete : s.fetcher.complete levels document s.store = some ((state, f), store)) :
    Step s ⟨s.executions, f, store⟩
  | ready {s : Shared} {i : Nat} {e : Execution} (he : s.executions[i]? = some e) (document : Term) :
    Step s { s with executions := s.executions.set i (e.documentReady document).2 }
  | changed {s : Shared} (store : Store) : Step s { s with store }

variable {s s' : Shared}

theorem Step.asks (h : Step s s') :
    s.fetcher.Asks s'.fetcher ∧ (s.fetcher.Noted → s'.fetcher.Noted) := by
  cases h with
  | opened q => exact ⟨.refl _, id⟩
  | begun he => exact ⟨.refl _, id⟩
  | round he hround => exact hround.asks
  | stopped he hstops =>
    cases hstops with
    | idle hstack => exact ⟨.refl _, id⟩
    | overLimit hstack hlimit => exact ⟨.refl _, id⟩
  | completed hcomplete =>
    exact ⟨MemoryFetcher.complete_asks hcomplete, fun hnoted => hnoted.complete hcomplete⟩
  | ready he document => exact ⟨.refl _, id⟩
  | changed store => exact ⟨.refl _, id⟩

theorem steps_ask (h : Relation.ReflTransGen Step s s') :
    s.fetcher.Asks s'.fetcher ∧ (s.fetcher.Noted → s'.fetcher.Noted) := by
  induction h with
  | refl => exact ⟨.refl _, id⟩
  | tail _ hstep ih => exact ⟨ih.1.trans hstep.asks.1, hstep.asks.2 ∘ ih.2⟩

/-! ### Runs are made of steps -/

theorem after_after (s : Shared) (i : Nat) (m m' : Machine MemoryFetcher) :
    (s.after i m).after i m' = s.after i m' := by
  simp [after]

theorem getElem?_after {i : Nat} {e : Execution} (he : s.executions[i]? = some e)
    (m : Machine MemoryFetcher) : (s.after i m).executions[i]? = some m.execution := by
  rw [after, List.getElem?_set_self (List.getElem?_eq_some_iff.mp he).1]

theorem steps_of_rounds {i levels : Nat} {e : Execution} (he : s.executions[i]? = some e)
    {m m' : Machine MemoryFetcher} (h : Relation.ReflTransGen (Round levels) m m') :
    Relation.ReflTransGen Step (s.after i m) (s.after i m') := by
  induction h with
  | refl => exact .refl
  | @tail m₁ m₂ _ hround ih =>
    have hstep : Step (s.after i m₁) ((s.after i m₁).after i m₂) :=
      .round (getElem?_after he m₁) hround
    rw [after_after] at hstep
    exact ih.tail hstep

theorem steps_of_run {i levels rounds : Nat} {e : Execution} {m : Machine MemoryFetcher}
    {outcome : Except QueryError RunStatus} (he : s.executions[i]? = some e)
    (h : run levels rounds e s.fetcher s.store = some (m, outcome)) :
    Relation.ReflTransGen Step s (s.after i m) := by
  have hidle : s.after i ⟨e, s.fetcher, s.store, []⟩ = s := by
    obtain ⟨hi, rfl⟩ := List.getElem?_eq_some_iff.mp he
    rw [after, List.set_getElem_self]
  rcases run_cases h with ⟨-, rfl, -⟩ | ⟨-, -, rfl, -⟩ | ⟨-, -, m₁, hrounds, hstops⟩
  · rw [hidle]
  · rw [hidle]
  · have hlast : Step (s.after i m₁) ((s.after i m₁).after i m) :=
      .stopped (getElem?_after he m₁) hstops
    rw [after_after] at hlast
    exact ((steps_of_rounds he hrounds).head (.begun he)).tail hlast

/-- Whatever executions are opened and however their runs are interleaved with each other and with
the completion of documents: no document is requested twice; what was requested since some moment
was not settled then, nor requested; what a round takes up is matched only when all the documents
that it reaches are settled; and runs are made of such rounds. -/
theorem requested_once {documents : Std.ExtTreeMap String (List Triple)} {deferred : Bool}
    {store : Store} (h : Relation.ReflTransGen Step (start documents deferred store) s)
    (h' : Relation.ReflTransGen Step s s') :
    (s'.fetcher.requests.map Term.key).Nodup ∧
    (∃ new, s'.fetcher.requests = s.fetcher.requests ++ new ∧
      ∀ d ∈ new, s.fetcher.state d = .unrequested) ∧
    (∀ (i levels : Nat) (e : Execution) (ds : List Delivery) (m : Machine MemoryFetcher),
      s'.executions[i]? = some e → Round levels ⟨e, s'.fetcher, s'.store, ds⟩ m →
        ∃ t rest, e.stack = t :: rest ∧ Dispatched t rest ⟨e, s'.fetcher, s'.store, ds⟩ m) ∧
    ∀ (i levels rounds : Nat) (e : Execution) (m : Machine MemoryFetcher)
      (outcome : Except QueryError RunStatus), s'.executions[i]? = some e →
        run levels rounds e s'.fetcher s'.store = some (m, outcome) →
          Relation.ReflTransGen Step s' (s'.after i m) := by
  have hstart : (start documents deferred store).fetcher.Noted := ⟨.nil, by simp [start]⟩
  have hnoted := (steps_ask (h.trans h')).2 hstart
  exact ⟨hnoted.once, (steps_ask h').1.asked, fun i levels e ds m _ hround => hround.dispatched,
    fun i levels rounds e m outcome he hrun => steps_of_run he hrun⟩

/-- Two executions of one query come to the same document; the second one waits for what the first
one has requested. -/
theorem requested_once_by_two :
    let x : Term := .named "http://d/a#it"
    let q : Query := Query.withBinding
      { pattern := Pattern.empty.add (.var "x") (.named "p") (.var "y") } "x" x
    let opened : Shared := ⟨[.new q, .new q], { deferred := true }, .bare⟩
    ∃ m m' docs docs', run 0 9 (.new q) opened.fetcher opened.store = some (m, .ok (.waiting docs)) ∧
      run 0 9 (.new q) m.fetcher m.store = some (m', .ok (.waiting docs')) ∧
      Relation.ReflTransGen Step (start ∅ true .bare) (opened.after 0 m) ∧
      Relation.ReflTransGen Step (opened.after 0 m) ((opened.after 0 m).after 1 m') ∧
      docs'.length = 1 ∧ m'.fetcher.requests.length = 1 ∧
      (m'.fetcher.requests.map Term.key).Nodup := by
  intro x q opened
  have hruns : (run 0 9 (.new q) opened.fetcher opened.store).any (fun a =>
      (run 0 9 (.new q) a.1.fetcher a.1.store).any fun b =>
        match a.2, b.2 with
        | .ok (.waiting _), .ok (.waiting docs) =>
          docs.length == 1 && b.1.fetcher.requests.length == 1
        | _, _ => false) = true := by decide +kernel
  obtain ⟨⟨m, outcome⟩, hrun, hrest⟩ := (Option.any_eq_true ..).mp hruns
  obtain ⟨⟨m', outcome'⟩, hrun', hwaiting⟩ := (Option.any_eq_true ..).mp hrest
  match outcome, outcome', hwaiting with
  | .ok (.waiting docs), .ok (.waiting docs'), hwaiting =>
    rw [Bool.and_eq_true, beq_iff_eq, beq_iff_eq] at hwaiting
    have hopened : Relation.ReflTransGen Step (start ∅ true .bare) opened :=
      (Relation.ReflTransGen.single (.opened q)).tail (.opened q)
    have hfirst := hopened.trans (steps_of_run (i := 0) rfl hrun)
    have hsecond := steps_of_run (s := opened.after 0 m) (i := 1) rfl hrun'
    exact ⟨m, m', docs, docs', hrun, hrun', hfirst, hsecond, hwaiting.1, hwaiting.2,
      (requested_once hfirst hsecond).1⟩

end Shared

end Execution

end QuadGraph
