import QuadGraph.Proofs.Ordering
import QuadGraph.Proofs.Patience

/-!
# Runs halt

While an execution is run with a fetcher that has its documents in memory, every task keeps within the
patience of the pattern, and what is parked waits for documents that were requested
(`Round.watched`). So each task is worked off with all that it leads to (`Watched.drains`), and a run
comes to an end. When the documents that it waits for are completed, every task left weighs less than
before; after so many turns none is left (`Watched.finishes`).
-/

namespace QuadGraph

namespace Execution

/-! ## Parked tasks -/

def Touches (ps : List Pattern) (key : String) (t : Task) : Prop :=
  ∃ p, ps[t.branch]? = some p ∧ ∃ d ∈ documents p t, d.key = key

structure Justified (ps : List Pattern) (f : MemoryFetcher) (key : String) (w : Parked) : Prop where
  keyed : w.document.key = key
  begun : f.state w.document ≠ .unrequested
  touches : ∀ t ∈ w.tasks, Touches ps key t

section
variable {ps ps' : List Pattern} {f f' : MemoryFetcher} {key : String} {w : Parked} {t : Task}

theorem Touches.mono (h : Touches ps key t) (hps : ps <+: ps') : Touches ps' key t := by
  obtain ⟨p, hp, hd⟩ := h
  exact ⟨p, getElem?_of_prefix hps hp, hd⟩

theorem Justified.mono (h : Justified ps f key w) (hps : ps <+: ps')
    (hf : f.state w.document ≠ .unrequested → f'.state w.document ≠ .unrequested) :
    Justified ps' f' key w :=
  ⟨h.keyed, hf h.begun, fun t ht => (h.touches t ht).mono hps⟩

end

/-! ## What a run keeps -/

/-- Every task is within the limit, counting the documents that were settled at some time, and what is
parked is so for a reason. -/
structure Watched (settled : Term → Bool) (limit : Nat) (m : Machine MemoryFetcher) : Prop where
  fuel : m.execution.query.maxFuel = none
  wellFormed : m.store.graph.WellFormed
  builtin : m.store.Builtin
  known : ∀ d, settled d = true → m.fetcher.settled d = true
  within : ∀ t ∈ m.execution.tasks, Within m.execution.patterns settled limit t
  parked : ∀ (key : String) (w : Parked), m.execution.parked[key]? = some w →
    Justified m.execution.patterns m.fetcher key w

structure Later (m m' : Machine MemoryFetcher) : Prop where
  patterns : m.execution.patterns <+: m'.execution.patterns
  fetcher : m.fetcher.Onward m'.fetcher

theorem Later.refl (m : Machine MemoryFetcher) : Later m m := ⟨List.prefix_rfl, .refl _⟩

theorem Later.trans {m m' m'' : Machine MemoryFetcher} (h : Later m m') (h' : Later m' m'') :
    Later m m'' :=
  ⟨h.patterns.trans h'.patterns, h.fetcher.trans h'.fetcher⟩

section
variable {settled : Term → Bool} {limit levels : Nat} {m m' : Machine MemoryFetcher}

theorem Within.later {t : Task} (h : Within m.execution.patterns m.fetcher.settled limit t)
    (hlater : Later m m') : Within m'.execution.patterns m'.fetcher.settled limit t :=
  h.mono hlater.patterns (fun _ hd => hlater.fetcher.settled hd) (Nat.le_refl _)

theorem Watched.later (h : Watched settled limit m) (hlater : Later m m')
    (hquery : m'.execution.query = m.execution.query) (hstore : m.store.Grows m'.store)
    (htasks : ∀ t ∈ m'.execution.tasks,
      t ∈ m.execution.tasks ∨ Within m'.execution.patterns settled limit t)
    (hparked : ∀ (key : String) (w : Parked), m'.execution.parked[key]? = some w →
      m.execution.parked[key]? = some w ∨ Justified m'.execution.patterns m'.fetcher key w) :
    Watched settled limit m' where
  fuel := by rw [hquery]; exact h.fuel
  wellFormed := hstore.wellFormed
  builtin := hstore.builtin
  known := fun d hd => hlater.fetcher.settled (h.known d hd)
  within := by
    intro t ht
    rcases htasks t ht with hold | hnew
    · exact (h.within t hold).mono hlater.patterns (fun _ hd => hd) (Nat.le_refl _)
    · exact hnew
  parked := by
    intro key w hw
    rcases hparked key w hw with hold | hnew
    · refine (h.parked key w hold).mono hlater.patterns fun hbegun => ?_
      rwa [hlater.fetcher _ hbegun]
    · exact hnew

theorem Watched.documentReady (h : Watched settled limit m) (document : Term) :
    Watched settled limit { m with execution := (m.execution.documentReady document).2 } := by
  obtain ⟨stack, parked, hfields⟩ := documentReady_fields m.execution document
  refine h.later ⟨?_, .refl _⟩ ?_ (.refl h.wellFormed h.builtin) (fun t ht => ?_) fun key w hw => ?_
  · simp only [hfields]
    exact List.prefix_rfl
  · simp only [hfields]
  · exact .inl ((tasks_documentReady m.execution document).mem_iff.mp ht)
  · exact .inl (parked_of_documentReady hw).1

theorem Watched.handed (h : Watched settled limit m) (ds : List Delivery) :
    Watched settled limit { m with deliveries := ds } :=
  ⟨h.fuel, h.wellFormed, h.builtin, h.known, h.within, h.parked⟩

/-! ### One round -/

/-- What becomes of a task: it is worked on, looked at again since a document of its was settled, or
parked for one that was requested. -/
inductive Taken (t : Task) (rest : List Task) (m m' : Machine MemoryFetcher) : Prop
  | worked (h : m'.execution = (process m'.store.graph (m.execution.started rest) t).1)
  | again {p : Pattern} {d : Term} (hp : m.execution.patterns[t.branch]? = some p)
      (hd : d ∈ documents p t) (hbefore : m.fetcher.settled d = false)
      (hafter : m'.fetcher.settled d = true)
      (h : m'.execution = { m.execution.started rest with stack := t :: rest })
  | parked {p : Pattern} {d : Term} (hp : m.execution.patterns[t.branch]? = some p)
      (hd : d ∈ documents p t) (hstate : m'.fetcher.state d = .requested)
      (h : m'.execution = (m.execution.started rest).park d t)

theorem Round.taken (h : Watched settled limit m) (hround : Round levels m m') :
    ∃ t rest, m.execution.stack = t :: rest ∧ m.fetcher.Onward m'.fetcher ∧
      m.store.Grows m'.store ∧ Taken t rest m m' := by
  obtain ⟨hstack, -, hadvance⟩ := hround
  rename_i t rest
  obtain ⟨p, hp, -⟩ := h.within t (by simp [tasks, hstack])
  have hpattern : ((m.execution.started rest).branches[t.branch]?.map Branch.pattern).getD .empty = p := by
    rw [← List.getElem?_map]
    change (m.execution.patterns[t.branch]?).getD .empty = p
    rw [hp, Option.getD_some]
  rw [advance, Option.map_eq_some_iff] at hadvance
  obtain ⟨⟨⟨readiness, fetcher⟩, store⟩, hcheck, rfl⟩ := hadvance
  simp only [hpattern] at hcheck
  have hgrows := checkDocuments_adds MemoryFetcher.onlyAdds levels _ _ h.wellFormed h.builtin hcheck
  obtain ⟨honward, hexplained⟩ := checkDocuments_cases hcheck
  refine ⟨t, rest, hstack, ?_⟩
  cases readiness with
  | ready => exact ⟨honward, hgrows, .worked rfl⟩
  | retry =>
    obtain ⟨d, hd, hbefore, hafter⟩ := hexplained
    exact ⟨honward, hgrows, .again hp hd hbefore hafter rfl⟩
  | suspend d => exact ⟨honward, hgrows, .parked hp hexplained.1 hexplained.2 rfl⟩

theorem Round.later (h : Watched settled limit m) (hround : Round levels m m') : Later m m' := by
  obtain ⟨t, rest, -, honward, -, htaken⟩ := hround.taken h
  refine ⟨?_, honward⟩
  cases htaken with
  | worked h' =>
    rw [h']
    exact patterns_process m'.store.graph (m.execution.started rest) t
  | again _ _ _ _ h' =>
    rw [h']
    exact List.prefix_rfl
  | parked _ _ _ h' =>
    rw [h']
    exact List.prefix_rfl

theorem Round.watched (h : Watched settled limit m) (hround : Round levels m m') :
    Watched settled limit m' := by
  have hlater := hround.later h
  obtain ⟨t, rest, hstack, -, hgrows, htaken⟩ := hround.taken h
  have ht : t ∈ m.execution.tasks := by simp [tasks, hstack]
  have hrest : ∀ t' ∈ (m.execution.started rest).tasks, t' ∈ m.execution.tasks := by
    intro t' ht'
    rw [tasks, hstack]
    exact List.mem_cons_of_mem t ht'
  cases htaken with
  | worked h' =>
    obtain ⟨p, hp, hweight⟩ := h.within t ht
    obtain ⟨new, hnew, hwithin⟩ := process_lighter (e := m.execution.started rest) m'.store.graph hp
      (Nat.le_succ_of_le hweight) settled
    obtain ⟨_, _, stack, _, _, hfields⟩ :=
      process_fields m'.store.graph (m.execution.started rest) t
    have hparked : m'.execution.parked = m.execution.parked := by rw [h', hfields]; rfl
    refine h.later hlater (by rw [h', hfields]; rfl) hgrows (fun t' ht' => ?_) fun key w hw => ?_
    · rw [tasks, hparked, h', hnew, List.append_assoc] at ht'
      rcases List.mem_append.mp ht' with ht' | ht'
      · rw [h']
        exact .inr (hwithin t' ht')
      · exact .inl (hrest t' ht')
    · rw [hparked] at hw
      exact .inl hw
  | again _ _ _ _ h' =>
    refine h.later hlater (by rw [h']; rfl) hgrows (fun t' ht' => ?_) fun key w hw => ?_
    · rw [h'] at ht'
      rcases List.mem_cons.mp ht' with rfl | ht'
      · exact .inl ht
      · exact .inl (hrest t' ht')
    · rw [h'] at hw
      exact .inl hw
  | @parked p d hp hd hstate h' =>
    refine h.later hlater (by rw [h']; rfl) hgrows (fun t' ht' => ?_) fun key w hw => ?_
    · rw [h'] at ht'
      rcases List.mem_cons.mp ((tasks_park _ d t).mem_iff.mp ht') with rfl | ht'
      · exact .inl ht
      · exact .inl (hrest t' ht')
    · have htouches : Touches m'.execution.patterns d.key t :=
        ⟨p, getElem?_of_prefix hlater.patterns hp, d, hd, rfl⟩
      rw [h'] at hw
      rcases parked_of_park hw with hold | ⟨rfl, rfl | ⟨v, hv, rfl⟩⟩
      · exact .inl hold
      · refine .inr ⟨rfl, by simp [hstate], fun t' ht' => ?_⟩
        obtain rfl := List.mem_singleton.mp ht'
        exact htouches
      · have hold : Justified m'.execution.patterns m'.fetcher d.key v :=
          (h.parked _ v hv).mono hlater.patterns fun hbegun => by rwa [hlater.fetcher _ hbegun]
        refine .inr ⟨hold.keyed, hold.begun, fun t' ht' => ?_⟩
        rcases List.mem_append.mp ht' with ht' | ht'
        · exact hold.touches t' ht'
        · obtain rfl := List.mem_singleton.mp ht'
          exact htouches

def Awaits (m : Machine MemoryFetcher) : Prop :=
  ∀ (key : String) (w : Parked), m.execution.parked[key]? = some w →
    m.fetcher.state w.document = .requested

theorem Round.awaits (h : Watched settled limit m) (hround : Round levels m m') (hawaits : Awaits m) :
    Awaits m' := by
  obtain ⟨t, rest, -, honward, -, htaken⟩ := hround.taken h
  have hold : ∀ (key : String) (w : Parked), m.execution.parked[key]? = some w →
      m'.fetcher.state w.document = .requested := by
    intro key w hw
    have hstate := hawaits key w hw
    rw [honward w.document (by simp [hstate]), hstate]
  intro key w hw
  cases htaken with
  | worked h' =>
    obtain ⟨_, _, _, _, _, hfields⟩ := process_fields m'.store.graph (m.execution.started rest) t
    rw [h', hfields] at hw
    exact hold key w hw
  | again _ _ _ _ h' =>
    rw [h'] at hw
    exact hold key w hw
  | parked _ _ hstate h' =>
    rw [h'] at hw
    rcases parked_of_park hw with hw | ⟨rfl, rfl | ⟨v, hv, rfl⟩⟩
    · exact hold key w hw
    · exact hstate
    · exact hold _ v hv

theorem rounds_watched (h : Watched settled limit m)
    (hrounds : Relation.ReflTransGen (Round levels) m m') : Watched settled limit m' ∧ Later m m' := by
  induction hrounds with
  | refl => exact ⟨h, .refl m⟩
  | tail _ hround ih => exact ⟨hround.watched ih.1, ih.2.trans (hround.later ih.1)⟩

theorem rounds_awaits (h : Watched settled limit m) (hawaits : Awaits m)
    (hrounds : Relation.ReflTransGen (Round levels) m m') : Awaits m' := by
  induction hrounds with
  | refl => exact hawaits
  | tail hrounds hround ih => exact hround.awaits (rounds_watched h hrounds).1 ih

/-! ## Working the stack off -/

theorem Watched.exists_round (h : Watched settled limit m) {t : Task} {rest : List Task}
    (hstack : m.execution.stack = t :: rest) (levels : Nat) : ∃ m', Round (levels + 2) m m' := by
  obtain ⟨r, f', s', hcheck⟩ := checkDocuments_ends levels m.fetcher
    (touched (((m.execution.started rest).branches[t.branch]?.map Branch.pattern).getD .empty) t)
    h.wellFormed h.builtin
  obtain ⟨m', hadvance⟩ :
      ∃ m', advance (levels + 2) { m with execution := m.execution.started rest } t = some m' :=
    ⟨_, Option.map_eq_some_iff.mpr ⟨((r, f'), s'), hcheck, rfl⟩⟩
  exact ⟨m', .take hstack (overLimit_of_unlimited h.fuel) hadvance⟩

def Drains (levels : Nat) (m : Machine MemoryFetcher) (rest : List Task) : Prop :=
  ∃ m', Relation.ReflTransGen (Round levels) m m' ∧ m'.execution.stack = rest

theorem Drains.head {m₁ : Machine MemoryFetcher} {rest : List Task} (hround : Round levels m m₁)
    (h : Drains levels m₁ rest) : Drains levels m rest := by
  obtain ⟨m', hrounds, hstack⟩ := h
  exact ⟨m', .head hround hrounds, hstack⟩

theorem drains_all {n : Nat} (hone : ∀ (m : Machine MemoryFetcher) (t : Task) (rest : List Task),
      Watched settled limit m → m.execution.stack = t :: rest →
      Within m.execution.patterns m.fetcher.settled n t → Drains levels m rest)
    (h : Watched settled limit m) {ts rest : List Task} (hstack : m.execution.stack = ts ++ rest)
    (hts : ∀ t ∈ ts, Within m.execution.patterns m.fetcher.settled n t) : Drains levels m rest := by
  induction ts generalizing m with
  | nil => exact ⟨m, .refl, hstack⟩
  | cons t ts ih =>
    rw [List.forall_mem_cons] at hts
    obtain ⟨m₁, hrounds, hstack₁⟩ := hone m t (ts ++ rest) h hstack hts.1
    obtain ⟨h₁, hlater⟩ := rounds_watched h hrounds
    obtain ⟨m', hrounds', hstack'⟩ := ih h₁ hstack₁ fun t' ht' => (hts.2 t' ht').later hlater
    exact ⟨m', hrounds.trans hrounds', hstack'⟩

theorem drains_one (levels : Nat) {n : Nat} {t : Task} {rest : List Task}
    (h : Watched settled limit m) (hstack : m.execution.stack = t :: rest)
    (ht : Within m.execution.patterns m.fetcher.settled n t) : Drains (levels + 2) m rest := by
  -- all that the task leads to weighs less
  induction n generalizing m t rest with
  | zero =>
    obtain ⟨p, -, hweight⟩ := ht
    have hpos := weight_pos m.fetcher.settled p t
    omega
  | succ n ih =>
    obtain ⟨m₁, hround⟩ := h.exists_round hstack levels
    have h₁ := hround.watched h
    have hlater := hround.later h
    obtain ⟨t', rest', hstack', -, -, htaken⟩ := hround.taken h
    rw [hstack] at hstack'
    obtain ⟨rfl, rfl⟩ := List.cons.inj hstack'
    refine .head hround ?_
    cases htaken with
    | worked h' =>
      obtain ⟨p, hp, hweight⟩ := ht
      obtain ⟨new, hnew, hwithin⟩ := process_lighter (e := m.execution.started rest)
        m₁.store.graph hp hweight m₁.fetcher.settled
      rw [← h'] at hnew hwithin
      exact drains_all (fun _ _ _ h hstack ht => ih h hstack ht) h₁ hnew hwithin
    | @again p d hp hd hbefore hafter h' =>
      refine ih h₁ (by rw [h']) ⟨p, getElem?_of_prefix hlater.patterns hp, ?_⟩
      obtain ⟨p', hp', hweight⟩ := ht
      rw [hp] at hp'
      obtain rfl := Option.some.inj hp'
      have hlt : weight m₁.fetcher.settled p t < weight m.fetcher.settled p t :=
        weight_settled (fun _ hd => hlater.fetcher.settled hd) hd hbefore hafter
      omega
    | parked _ _ _ h' => exact ⟨m₁, .refl, by rw [h']; rfl⟩

theorem Watched.drains (h : Watched settled limit m) (levels : Nat) : Drains (levels + 2) m [] := by
  refine drains_all (n := limit) (fun _ _ _ h hstack ht => drains_one levels h hstack ht) h
    (List.append_nil _).symm fun t ht => ?_
  exact (h.within t (List.mem_append_left _ ht)).mono List.prefix_rfl h.known (Nat.le_refl _)

end

/-! ## Runs -/

section
variable {φ : Type} [Fetcher φ] {levels : Nat} {m m' : Machine φ}

theorem Round.loop (hround : Round levels m m') (rounds : Nat) :
    Execution.loop levels (rounds + 1) m = Execution.loop levels rounds m' := by
  obtain ⟨hstack, hlimit, hadvance⟩ := hround
  rename_i t rest
  simp only [started] at hlimit hadvance
  rw [Execution.loop]
  simp only [hstack, hlimit, hadvance, Option.bind_eq_bind, Option.bind_some]

theorem loop_ends (hrounds : Relation.ReflTransGen (Round levels) m m')
    (hstack : m'.execution.stack = []) : ∃ n, ∀ rounds ≥ n, loop levels rounds m =
      some (m', .ok (if m'.execution.complete then .complete else .waiting m'.execution.waitingOn)) := by
  induction hrounds using Relation.ReflTransGen.head_induction_on with
  | refl =>
    refine ⟨1, fun rounds hrounds => ?_⟩
    obtain ⟨k, rfl⟩ := Nat.exists_eq_add_of_le' hrounds
    rw [loop, hstack]
  | head hround _ ih =>
    obtain ⟨n, hn⟩ := ih
    refine ⟨n + 1, fun rounds hrounds => ?_⟩
    obtain ⟨k, rfl⟩ := Nat.exists_eq_add_of_le' hrounds
    rw [← Nat.add_assoc, hround.loop]
    exact hn _ (Nat.le_add_left ..)

end

def resumed (e : Execution) (f : MemoryFetcher) (s : Store) : Machine MemoryFetcher :=
  ⟨e.resumeSettled f, f, s, []⟩

section
variable {settled : Term → Bool} {limit levels : Nat} {e : Execution} {f : MemoryFetcher} {s : Store}

theorem parked_resumed (e : Execution) (f : MemoryFetcher) (s : Store)
    (hkeyed : ∀ (key : String) (w : Parked), e.parked[key]? = some w → w.document.key = key)
    {key : String} {w : Parked} (h : (resumed e f s).execution.parked[key]? = some w) :
    e.parked[key]? = some w ∧ f.settled w.document = false := by
  have hfold : ∀ (ws : List Parked) (e : Execution),
      (ws.foldl (fun e w => (e.documentReady w.document).2) e).parked[key]? = some w →
      e.parked[key]? = some w ∧ ∀ v ∈ ws, v.document.key ≠ key := by
    intro ws
    induction ws with
    | nil => exact fun e h => ⟨h, by simp⟩
    | cons v ws ih =>
      intro e h
      obtain ⟨hv, hws⟩ := ih _ h
      obtain ⟨hw, hne⟩ := parked_of_documentReady hv
      exact ⟨hw, List.forall_mem_cons.mpr ⟨hne, hws⟩⟩
  obtain ⟨hw, hne⟩ := hfold _ e h
  refine ⟨hw, ?_⟩
  cases hsettled : f.settled w.document with
  | false => rfl
  | true =>
    have hmem : w ∈ e.parked.values.filter fun w => (Fetcher.state f w.document).isSettled :=
      List.mem_filter.mpr ⟨mem_values_iff.mpr ⟨key, hw⟩, hsettled⟩
    exact absurd (hkeyed key w hw) (hne w hmem)

theorem Watched.resumed {ds : List Delivery} (h : Watched settled limit ⟨e, f, s, ds⟩) :
    Watched settled limit (resumed e f s) ∧ Awaits (resumed e f s) := by
  constructor
  · exact resumeSettled_keeps (P := fun e => Watched settled limit ⟨e, f, s, []⟩)
      (fun e document h => h.documentReady document) f (h.handed [])
  · intro key w hw
    obtain ⟨hold, hopen⟩ := parked_resumed e f s (fun key w hw => (h.parked key w hw).keyed) hw
    have hbegun := (h.parked key w hold).begun
    rcases settled_or f w.document with hstate | hstate | hstate
    · rw [hstate] at hopen
      cases hopen
    · exact hstate
    · exact absurd hstate hbegun

theorem Watched.halts {ds : List Delivery} (h : Watched settled limit ⟨e, f, s, ds⟩)
    (haborted : e.aborted = false) (levels : Nat) :
    ∃ n m status, ∀ rounds ≥ n, run (levels + 2) rounds e f s = some (m, .ok status) := by
  cases hcomplete : e.complete with
  | true => exact ⟨0, ⟨e, f, s, []⟩, .complete, fun rounds _ => by simp [run, haborted, hcomplete]⟩
  | false =>
    obtain ⟨m, hrounds, hstack⟩ := h.resumed.1.drains levels
    obtain ⟨n, hn⟩ := loop_ends hrounds hstack
    refine ⟨n, m, if m.execution.complete then .complete else .waiting m.execution.waitingOn,
      fun rounds hrounds => ?_⟩
    rw [← hn rounds hrounds, run]
    simp only [haborted, hcomplete, Bool.false_eq_true, if_false]
    rfl

structure Running (settled : Term → Bool) (limit : Nat) (m : Machine MemoryFetcher) : Prop extends
    Watched settled limit m where
  aborted : m.execution.aborted = false
  accounted : m.execution.Accounted []

theorem Running.refetched {settled' : Term → Bool} {limit' : Nat} {m : Machine MemoryFetcher}
    (h : Running settled limit m) {f : MemoryFetcher} {s : Store} (hwf : s.graph.WellFormed)
    (hbuiltin : s.Builtin) (hknown : ∀ d, settled' d = true → f.settled d = true)
    (hbegun : ∀ d, m.fetcher.state d ≠ .unrequested → f.state d ≠ .unrequested)
    (hwithin : ∀ t ∈ m.execution.tasks, Within m.execution.patterns settled' limit' t) :
    Running settled' limit' { m with fetcher := f, store := s } where
  fuel := h.fuel
  wellFormed := hwf
  builtin := hbuiltin
  known := hknown
  within := hwithin
  parked := fun key w hw => (h.parked key w hw).mono List.prefix_rfl (hbegun _)
  aborted := h.aborted
  accounted := h.accounted

structure Waits (m : Machine MemoryFetcher) (documents : List Term) : Prop where
  stack : m.execution.stack = []
  documents : documents = m.execution.waitingOn
  awaits : Awaits m
  parked : m.execution.parked ≠ ∅

theorem Running.ran {ds : List Delivery} (h : Running settled limit ⟨e, f, s, ds⟩) {rounds : Nat}
    {m : Machine MemoryFetcher} {outcome : Except QueryError RunStatus}
    (hrun : run levels rounds e f s = some (m, outcome)) : Running settled limit m ∧
      (outcome = .ok .complete ∨ ∃ docs, outcome = .ok (.waiting docs) ∧ Waits m docs) := by
  rcases run_cases hrun with ⟨haborted, -⟩ | ⟨-, -, rfl, rfl⟩ | ⟨-, hopen, m₁, hrounds, hstops⟩
  · rw [h.aborted] at haborted
    cases haborted
  · exact ⟨⟨h.handed [], h.aborted, h.accounted⟩, .inl rfl⟩
  · obtain ⟨hwatched, hawaits⟩ := h.resumed
    obtain ⟨hwatched₁, -⟩ := rounds_watched hwatched hrounds
    have hawaits₁ := rounds_awaits hwatched hawaits hrounds
    have hmidway := rounds_midway (h.accounted.midway h.aborted hopen f s) hrounds
    cases hstops with
    | idle hstack =>
      refine ⟨⟨hwatched₁, hmidway.aborted, hmidway.accounted⟩, ?_⟩
      cases hend : m.execution.complete with
      | true => exact .inl rfl
      | false =>
        refine .inr ⟨_, rfl, hstack, rfl, hawaits₁, fun hnone => ?_⟩
        rw [hmidway.accounted.complete_iff_tasks.mpr ⟨hstack, hnone⟩] at hend
        cases hend
    | @overLimit t rest error hstack hlimit =>
      have hnone : (m₁.execution.started rest).overLimit = none :=
        overLimit_of_unlimited hwatched₁.fuel
      rw [hnone] at hlimit
      cases hlimit

end

/-! ## The documents that a run waits for -/

section
variable {settled : Term → Bool} {limit : Nat} {m : Machine MemoryFetcher} {docs : List Term}

theorem Watched.waitingOn_increasing (h : Watched settled limit m) :
    m.execution.waitingOn.Pairwise fun a b => a.cmp b = .lt := by
  -- tasks that wait for documents with the same key are parked together
  have hkeys : (m.execution.parked.values.map Parked.document).Pairwise fun a b => a.key ≠ b.key := by
    rw [values_eq_map_snd, List.map_map, List.pairwise_map]
    refine Std.ExtTreeMap.distinct_keys_toList.imp_of_mem fun {x y} hx hy hne heq => hne ?_
    have hx' := (h.parked x.1 x.2 (Std.ExtTreeMap.mem_toList_iff_getElem?_eq_some.mp hx)).keyed
    have hy' := (h.parked y.1 y.2 (Std.ExtTreeMap.mem_toList_iff_getElem?_eq_some.mp hy)).keyed
    rw [← hx', ← hy', Std.LawfulEqOrd.compare_eq_iff_eq]
    exact heq
  have hdistinct : m.execution.waitingOn.Pairwise fun a b => a.key ≠ b.key :=
    (List.mergeSort_perm _ _).symm.pairwise hkeys fun hne => hne.symm
  exact ((Term.sort_ascending _).and hdistinct).imp fun hab => Term.cmp_lt_of_le hab.1 hab.2

theorem Waits.requested (hwaits : Waits m docs) {d : Term} (hd : d ∈ docs) :
    m.fetcher.state d = .requested := by
  rw [hwaits.documents] at hd
  obtain ⟨key, w, hw, rfl⟩ := mem_waitingOn.mp hd
  exact hwaits.awaits key w hw

end

end Execution

end QuadGraph
