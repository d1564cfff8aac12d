import QuadGraph.Proofs.Calls
import QuadGraph.Proofs.Growth

/-!
# The weight of a task

A task weighs as much as there is left to do for it: statements to match, documents to wait for and
optional patterns to open. What working on a task leads to weighs less, however many tasks that are
(`process_lighter`), and so does the task itself when it is looked at again, for a document was settled
(`checkDocuments_cases`). No task of a pattern weighs more than the pattern's patience.
-/

namespace QuadGraph

namespace Pattern

mutual

/-- What the first task of a pattern weighs at most. -/
def patience : Pattern → Nat
  | ⟨statements, optionals, _⟩ =>
    (statements.length + 1) * (statements.length + 1) + patienceIn optionals

def patienceIn : List Pattern → Nat
  | [] => 0
  | p :: ps => max p.patience (patienceIn ps)

end

theorem patience_eq (p : Pattern) :
    p.patience = (p.size + 1) * (p.size + 1) + patienceIn p.optionals := by
  cases p
  rw [patience, size]

theorem patience_le {p : Pattern} {ps : List Pattern} (h : p ∈ ps) : p.patience ≤ patienceIn ps := by
  induction ps with
  | nil => cases h
  | cons q qs ih =>
    rw [patienceIn]
    rcases List.mem_cons.mp h with rfl | h
    · exact Nat.le_max_left ..
    · exact Nat.le_trans (ih h) (Nat.le_max_right ..)

end Pattern

namespace Execution

/-! ## Weights -/

def documents (p : Pattern) (t : Task) : List Term := (touched p t).filterMap Term.document?

/-- The square leaves room for the two documents that each statement may wait for. -/
def weight (settled : Term → Bool) (p : Pattern) (t : Task) : Nat :=
  (documents p t).countP (fun d => !settled d) + t.remaining.length * t.remaining.length + 1 +
    Pattern.patienceIn p.optionals

theorem length_touched (p : Pattern) (t : Task) : (touched p t).length ≤ 2 * t.remaining.length := by
  unfold touched
  induction t.remaining with
  | nil => simp
  | cons i is ih =>
    rw [List.flatMap_cons, List.length_append, List.length_cons, Nat.mul_succ, Nat.add_comm]
    refine Nat.add_le_add ih ?_
    split
    · simp
    · exact List.length_filterMap_le ..

theorem weight_pos (settled : Term → Bool) (p : Pattern) (t : Task) : 0 < weight settled p t := by
  unfold weight
  omega

theorem weight_le (settled : Term → Bool) (p : Pattern) (t : Task) :
    weight settled p t ≤
      (t.remaining.length + 1) * (t.remaining.length + 1) + Pattern.patienceIn p.optionals := by
  have hcount : (documents p t).countP (fun d => !settled d) ≤ 2 * t.remaining.length :=
    calc (documents p t).countP (fun d => !settled d)
      _ ≤ (documents p t).length := List.countP_le_length
      _ ≤ (touched p t).length := List.length_filterMap_le ..
      _ ≤ 2 * t.remaining.length := length_touched p t
  simp only [weight, Nat.add_mul, Nat.mul_add]
  omega

theorem weight_firstTask (settled : Term → Bool) (i : Nat) (p : Pattern) (b : Bindings) :
    weight settled p (firstTask i p b) ≤ p.patience := by
  have h := weight_le settled p (firstTask i p b)
  rw [p.patience_eq]
  simpa [firstTask] using h

section
variable {settled settled' : Term → Bool} {p : Pattern} {t t' : Task}

theorem weight_child (h : t'.remaining.length < t.remaining.length) :
    weight settled' p t' < weight settled p t := by
  -- all that a task with a statement less may wait for is paid for by the square
  have hle := weight_le settled' p t'
  have hsquare := Nat.mul_le_mul h h
  simp only [Nat.succ_eq_add_one] at hsquare
  unfold weight at hle ⊢
  omega

theorem weight_optional {o : Pattern} (ho : o ∈ p.optionals) (i : Nat) (b : Bindings) :
    weight settled' o (firstTask i o b) < weight settled p t := by
  have hle := weight_firstTask settled' i o b
  have hpatience := Pattern.patience_le ho
  unfold weight at hle ⊢
  omega

variable (h : ∀ d, settled d = true → settled' d = true)
include h

theorem countP_unsettled_le (ds : List Term) :
    (ds.countP fun d => !settled' d) ≤ ds.countP fun d => !settled d := by
  refine List.countP_mono_left fun d _ hd => ?_
  cases hsettled : settled d
  · rfl
  · simp [h d hsettled] at hd

theorem weight_mono (p : Pattern) (t : Task) : weight settled' p t ≤ weight settled p t := by
  have hcount := countP_unsettled_le h (documents p t)
  unfold weight
  omega

theorem weight_settled {d : Term} (hd : d ∈ documents p t) (hbefore : settled d = false)
    (hafter : settled' d = true) : weight settled' p t < weight settled p t := by
  obtain ⟨l, r, hlr⟩ := List.append_of_mem hd
  have hl := countP_unsettled_le h l
  have hr := countP_unsettled_le h r
  simp only [weight, hlr, List.countP_append, List.countP_cons, hbefore, hafter, Bool.not_true,
    Bool.not_false, Bool.false_eq_true, if_true, if_false]
  omega

end

/-! ## Tasks within a limit -/

theorem getElem?_of_prefix {ps ps' : List Pattern} (h : ps <+: ps') {i : Nat} {p : Pattern}
    (hp : ps[i]? = some p) : ps'[i]? = some p := by
  obtain ⟨qs, rfl⟩ := h
  rw [List.getElem?_append_left (List.getElem?_eq_some_iff.mp hp).1, hp]

def Within (ps : List Pattern) (settled : Term → Bool) (limit : Nat) (t : Task) : Prop :=
  ∃ p, ps[t.branch]? = some p ∧ weight settled p t ≤ limit

theorem Within.mono {ps ps' : List Pattern} {settled settled' : Term → Bool} {limit limit' : Nat}
    {t : Task} (h : Within ps settled limit t) (hps : ps <+: ps')
    (hsettled : ∀ d, settled d = true → settled' d = true) (hlimit : limit ≤ limit') :
    Within ps' settled' limit' t := by
  obtain ⟨p, hp, hweight⟩ := h
  have hle := weight_mono hsettled p t
  exact ⟨p, getElem?_of_prefix hps hp, by omega⟩

section
variable {e : Execution} {t : Task} {p : Pattern} {settled : Term → Bool} {limit : Nat}

theorem children_lighter {g : Graph} {chosen : Prepared} {others : List Prepared}
    (hplan : p.prepared g t.remaining t.bindings = chosen :: others)
    (hweight : weight settled p t ≤ limit + 1) {t' : Task}
    (ht' : t' ∈ children g p t chosen (others.map Prepared.index)) (settled' : Term → Bool) :
    weight settled' p t' ≤ limit := by
  rw [children_eq] at ht'
  obtain ⟨b, -, rfl⟩ := List.mem_map.mp ht'
  have hlength := p.length_prepared g t.remaining t.bindings
  rw [hplan, List.length_cons] at hlength
  have hlt : weight settled' p ⟨t.branch, others.map Prepared.index, b⟩ < weight settled p t :=
    weight_child (by rw [List.length_map]; exact hlength)
  omega

/-- Working on a task may make many others, but each weighs less. -/
theorem process_lighter (g : Graph) (hp : e.patterns[t.branch]? = some p)
    (hweight : weight settled p t ≤ limit + 1) (settled' : Term → Bool) :
    ∃ new, (process g e t).1.stack = new ++ e.stack ∧
      ∀ t' ∈ new, Within (process g e t).1.patterns settled' limit t' := by
  have hstack : ∀ (i : Nat) (e' : Execution), (e'.finishTask i).1.stack = e'.stack := by
    intro i e'
    obtain ⟨_, _, _, _, hfields⟩ := finish_fields (i + 1) i e'
    rw [finishTask, hfields]
  have hpatterns := patterns_process g e t
  obtain ⟨b, hb, rfl⟩ : ∃ b, e.branches[t.branch]? = some b ∧ b.pattern = p := by
    simpa [patterns] using hp
  cases hplan : b.pattern.prepared g t.remaining t.bindings with
  | nil =>
    have hprocess := process_of_nil hb rfl hplan
    by_cases hps : b.pattern.optionals = []
    · refine ⟨[], ?_, by simp⟩
      obtain ⟨_, _, hdelivered⟩ := deliver_fields e t.branch t.bindings
      simp only [hprocess, matched_of_nil hps, hstack, hdelivered, List.nil_append]
    · rw [matched_of_ne_nil hps] at hprocess
      refine ⟨(numbered e.branches.length b.pattern.optionals).map fun o =>
        firstTask o.1 o.2 t.bindings, ?_, fun t' ht' => ?_⟩
      · simp only [hprocess, hstack, openJunction_stack]
      · obtain ⟨o, ho, rfl⟩ := List.mem_map.mp ht'
        obtain ⟨k, hk, hget⟩ := mem_numbered.mp ho
        have hlt : weight settled' o.2 (firstTask o.1 o.2 t.bindings) < weight settled b.pattern t :=
          weight_optional (List.mem_of_getElem? hget) o.1 t.bindings
        refine ⟨o.2, ?_, by omega⟩
        simp only [hprocess, finishTask, patterns_finish, patterns_openJunction]
        change (e.patterns ++ b.pattern.optionals)[o.1]? = some o.2
        have hlength : e.patterns.length = e.branches.length := List.length_map ..
        rw [hk, List.getElem?_append_right (by omega), hlength, Nat.add_sub_cancel_left, hget]
  | cons chosen others =>
    have hprocess := process_of_cons hb rfl hplan
    rw [← children_eq] at hprocess
    refine ⟨children g b.pattern t chosen (others.map Prepared.index), ?_, fun t' ht' => ?_⟩
    · rw [hprocess, hstack, spawnAll_stack]
    · refine ⟨b.pattern, ?_, children_lighter hplan hweight ht' settled'⟩
      rw [children_branch ht']
      exact getElem?_of_prefix hpatterns hp

end

end Execution

/-! ## Documents in memory -/

namespace MemoryFetcher

variable {f f' f'' : MemoryFetcher} {levels : Nat} {document : Term} {state : DocumentState}
  {s s' : Store}

def settled (f : MemoryFetcher) (document : Term) : Bool := (f.state document).isSettled

def Onward (f f' : MemoryFetcher) : Prop :=
  ∀ d, f.state d ≠ .unrequested → f'.state d = f.state d

theorem Onward.refl (f : MemoryFetcher) : f.Onward f := fun _ _ => rfl

theorem Onward.trans (h : f.Onward f') (h' : f'.Onward f'') : f.Onward f'' := by
  intro d hd
  rw [h' d (by rwa [h d hd]), h d hd]

theorem settled_ne {d : Term} (h : f.settled d = true) : f.state d ≠ .unrequested := by
  intro hstate
  rw [settled, hstate] at h
  cases h

theorem Onward.settled (h : f.Onward f') {d : Term} (hd : f.settled d = true) :
    f'.settled d = true := by
  rw [MemoryFetcher.settled, h d (settled_ne hd)]
  exact hd

theorem state_congr (f : MemoryFetcher) {d d' : Term} (h : d.key = d'.key) :
    f.state d = f.state d' := by
  rw [MemoryFetcher.state, h, MemoryFetcher.state]

theorem state_setState (f : MemoryFetcher) (document : Term) (state : DocumentState) (d : Term) :
    (f.setState document state).state d = if d.key = document.key then state else f.state d := by
  unfold MemoryFetcher.state setState
  rw [Std.ExtTreeMap.getD_insert]
  by_cases hd : d.key = document.key
  · simp [hd]
  · simp [hd, Ne.symm hd]

theorem complete_state (h : f.complete levels document s = some ((state, f'), s')) :
    state.isSettled = true ∧
      ∀ d, f'.state d = if d.key = document.key then state else f.state d := by
  cases htriples : f.documents[document.key]? with
  | none =>
    simp only [complete, htriples] at h
    obtain ⟨hf, -⟩ := Prod.mk.inj (Option.some.inj h)
    obtain ⟨rfl, rfl⟩ := Prod.mk.inj hf
    exact ⟨rfl, f.state_setState document _⟩
  | some triples =>
    simp only [complete, htriples] at h
    obtain ⟨⟨n, t⟩, -, hrest⟩ := Option.bind_eq_some_iff.mp h
    obtain ⟨hf, -⟩ := Prod.mk.inj (Option.some.inj hrest)
    obtain ⟨rfl, rfl⟩ := Prod.mk.inj hf
    exact ⟨rfl, f.state_setState document _⟩

theorem fetch_state (h : f.fetch levels document s = some ((state, f'), s')) :
    (state = .requested ∨ state.isSettled = true) ∧
      ∀ d, f'.state d = if d.key = document.key then state else f.state d := by
  unfold fetch at h
  cases hdeferred : f.deferred with
  | true =>
    simp only [hdeferred, if_true] at h
    obtain ⟨hf, -⟩ := Prod.mk.inj (Option.some.inj h)
    obtain ⟨rfl, rfl⟩ := Prod.mk.inj hf
    exact ⟨.inl rfl, state_setState _ document _⟩
  | false =>
    simp only [hdeferred, Bool.false_eq_true, if_false] at h
    obtain ⟨hsettled, hstate⟩ := complete_state h
    exact ⟨.inr hsettled, hstate⟩

theorem complete_ends (levels : Nat) (f : MemoryFetcher) (document : Term)
    (hwf : s.graph.WellFormed) (hbuiltin : s.Builtin) :
    ∃ state f' s', f.complete (levels + 2) document s = some ((state, f'), s') := by
  cases htriples : f.documents[document.key]? with
  | none =>
    simp only [complete, htriples]
    exact ⟨_, _, _, rfl⟩
  | some triples =>
    simp only [complete, htriples]
    -- the built-in actions nest in two levels
    obtain ⟨n, t, hall⟩ := StoreM.addAll_ends levels (statementsOf document triples) hwf hbuiltin
    exact ⟨_, _, t, StoreM.bind_eq_some.mpr ⟨n, t, hall, rfl⟩⟩

theorem fetch_ends (levels : Nat) (f : MemoryFetcher) (document : Term)
    (hwf : s.graph.WellFormed) (hbuiltin : s.Builtin) :
    ∃ state f' s', f.fetch (levels + 2) document s = some ((state, f'), s') := by
  cases hdeferred : f.deferred with
  | true =>
    simp only [fetch, hdeferred, if_true]
    exact ⟨_, _, _, rfl⟩
  | false =>
    simp only [fetch, hdeferred, Bool.false_eq_true, if_false]
    exact complete_ends levels _ document hwf hbuiltin

end MemoryFetcher

namespace Execution

/-! ### Looking at the documents of a task -/

section
variable {levels : Nat} {f f' : MemoryFetcher} {t d : Term} {ts : List Term} {r : Readiness}
  {s s' : Store}

theorem checkDocuments_of_none (h : t.document? = none) :
    checkDocuments levels f (t :: ts) = checkDocuments levels f ts := by
  simp [checkDocuments, Fetcher.documentOf, h]

theorem checkDocuments_of_settled (h : t.document? = some d) (hd : f.settled d = true) :
    checkDocuments levels f (t :: ts) = checkDocuments levels f ts := by
  rw [MemoryFetcher.settled] at hd
  cases hstate : f.state d <;> simp_all [checkDocuments, Fetcher.documentOf, Fetcher.state,
    DocumentState.isSettled]

theorem checkDocuments_of_requested (h : t.document? = some d) (hd : f.state d = .requested) :
    checkDocuments levels f (t :: ts) = pure (.suspend d, f) := by
  simp [checkDocuments, Fetcher.documentOf, Fetcher.state, h, hd]

theorem checkDocuments_of_unrequested (h : t.document? = some d) (hd : f.state d = .unrequested) :
    checkDocuments levels f (t :: ts) = f.fetch levels d >>= fun x =>
      pure (if x.1.isSettled then .retry else .suspend d, x.2) := by
  simp [checkDocuments, Fetcher.documentOf, Fetcher.state, Fetcher.fetch, h, hd]

theorem settled_or (f : MemoryFetcher) (d : Term) :
    f.settled d = true ∨ f.state d = .requested ∨ f.state d = .unrequested := by
  rw [MemoryFetcher.settled]
  cases f.state d <;> simp [DocumentState.isSettled]

/-- A task that is not ready has come across a document that was not settled: now it is, or it was
requested and the task waits for it. -/
def Readiness.Explained (f f' : MemoryFetcher) (ds : List Term) : Readiness → Prop
  | .ready => True
  | .retry => ∃ d ∈ ds, f.settled d = false ∧ f'.settled d = true
  | .suspend d => d ∈ ds ∧ f'.state d = .requested

theorem Readiness.Explained.cons {ds : List Term} (h : r.Explained f f' ds) (d : Term) :
    r.Explained f f' (d :: ds) := by
  cases r with
  | ready => trivial
  | retry =>
    obtain ⟨d', hd', hsettled⟩ := h
    exact ⟨d', List.mem_cons_of_mem d hd', hsettled⟩
  | suspend d' => exact ⟨List.mem_cons_of_mem d h.1, h.2⟩

theorem checkDocuments_cases (h : checkDocuments levels f ts s = some ((r, f'), s')) :
    f.Onward f' ∧ r.Explained f f' (ts.filterMap Term.document?) := by
  induction ts with
  | nil =>
    obtain ⟨hr, -⟩ := Prod.mk.inj (Option.some.inj h)
    obtain ⟨rfl, rfl⟩ := Prod.mk.inj hr
    exact ⟨.refl f, trivial⟩
  | cons t ts ih =>
    cases hdocument : t.document? with
    | none =>
      rw [checkDocuments_of_none hdocument] at h
      rw [List.filterMap_cons_none hdocument]
      exact ih h
    | some d =>
      rw [List.filterMap_cons_some hdocument]
      rcases settled_or f d with hd | hd | hd
      · rw [checkDocuments_of_settled hdocument hd] at h
        exact ⟨(ih h).1, (ih h).2.cons d⟩
      · rw [checkDocuments_of_requested hdocument hd] at h
        obtain ⟨hr, -⟩ := Prod.mk.inj (Option.some.inj h)
        obtain ⟨rfl, rfl⟩ := Prod.mk.inj hr
        exact ⟨.refl f, List.mem_cons_self .., hd⟩
      · rw [checkDocuments_of_unrequested hdocument hd] at h
        obtain ⟨⟨⟨state, f₁⟩, s₁⟩, hfetch, hrest⟩ := Option.bind_eq_some_iff.mp h
        obtain ⟨hr, -⟩ := Prod.mk.inj (Option.some.inj hrest)
        obtain ⟨rfl, rfl⟩ := Prod.mk.inj hr
        obtain ⟨hfetched, hstate⟩ := MemoryFetcher.fetch_state hfetch
        refine ⟨fun d' hd' => ?_, ?_⟩
        · rw [hstate, if_neg]
          intro hkey
          rw [f.state_congr hkey] at hd'
          exact hd' hd
        · have hself : f₁.state d = state := by rw [hstate, if_pos rfl]
          rcases hfetched with rfl | hsettled
          · exact ⟨List.mem_cons_self .., hself⟩
          · rw [if_pos hsettled]
            refine ⟨d, List.mem_cons_self .., ?_, ?_⟩
            · rw [MemoryFetcher.settled, hd]
              rfl
            · rw [MemoryFetcher.settled, hself]
              exact hsettled

theorem checkDocuments_ends (levels : Nat) (f : MemoryFetcher) (ts : List Term)
    (hwf : s.graph.WellFormed) (hbuiltin : s.Builtin) :
    ∃ r f' s', checkDocuments (levels + 2) f ts s = some ((r, f'), s') := by
  induction ts with
  | nil => exact ⟨_, _, _, rfl⟩
  | cons t ts ih =>
    cases hdocument : t.document? with
    | none => rwa [checkDocuments_of_none hdocument]
    | some d =>
      rcases settled_or f d with hd | hd | hd
      · rwa [checkDocuments_of_settled hdocument hd]
      · rw [checkDocuments_of_requested hdocument hd]
        exact ⟨_, _, _, rfl⟩
      · rw [checkDocuments_of_unrequested hdocument hd]
        obtain ⟨state, f', s', hfetch⟩ := f.fetch_ends levels d hwf hbuiltin
        exact ⟨_, f', s', StoreM.bind_eq_some.mpr ⟨(state, f'), s', hfetch, rfl⟩⟩

end

end Execution

end QuadGraph
