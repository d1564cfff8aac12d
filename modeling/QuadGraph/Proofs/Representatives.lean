import Mathlib.Logic.Relation
import QuadGraph.Proofs.Equality
import QuadGraph.Proofs.Events
import QuadGraph.Proofs.Ordering

/-!
# Representatives

The pairs of terms that were equated, by callers or by actions, generate an equivalence. In a
reachable store the term that stands for a term is the least of its class (`Reachable.canon_least`).
Merging is incremental, so the proof goes along the changes that led to the store: only a merge
touches the classes, and it joins two of them under the lower of their least terms
(`Represents.equate`).
-/

namespace QuadGraph

/-! ## What was equated -/

def Change.equated? : Change → Option (Term × Term)
  | equate a b => some (a, b)
  | _ => none

def Change.equated (cs : List Change) : List (Term × Term) := cs.filterMap equated?

def Event.equated (es : List Event) : List (Term × Term) := Change.equated (changes es)

theorem Event.equated_append (es ds : List Event) :
    equated (es ++ ds) = equated es ++ equated ds := by
  rw [equated, changes_append, Change.equated, List.filterMap_append]
  rfl

/-- The least equivalence of terms, up to those that are the same, that joins each of the pairs. -/
def Equated (ps : List (Term × Term)) : Term → Term → Prop :=
  Relation.EqvGen fun a b => a.same b = true ∨ (a, b) ∈ ps

namespace Equated

variable {ps qs : List (Term × Term)} {a b c : Term}

theorem symm (h : Equated ps a b) : Equated ps b a := Relation.EqvGen.symm a b h

theorem trans (hab : Equated ps a b) (hbc : Equated ps b c) : Equated ps a c :=
  Relation.EqvGen.trans a b c hab hbc

theorem of_key_eq (h : a.key = b.key) : Equated ps a b :=
  .rel _ _ (.inl (Term.same_iff_key.mpr h))

theorem of_mem (h : (a, b) ∈ ps) : Equated ps a b := .rel _ _ (.inr h)

theorem mono (h : ∀ a b, (a, b) ∈ ps → Equated qs a b) (hab : Equated ps a b) :
    Equated qs a b := by
  induction hab with
  | rel a b hrel =>
    rcases hrel with hsame | hmem
    · exact .rel _ _ (.inl hsame)
    · exact h a b hmem
  | refl a => exact .refl a
  | symm a b _ ih => exact ih.symm
  | trans a b c _ _ ih ih' => exact ih.trans ih'

end Equated

/-! ## The least term of a class -/

structure Graph.Represents (g : Graph) (ps : List (Term × Term)) : Prop where
  equated : ∀ t, Equated ps t (g.canon t)
  joined : ∀ a b, (a, b) ∈ ps → g.canonKey a = g.canonKey b
  le : ∀ t, (g.canon t).le t = true

namespace Graph.Represents

variable {g g' : Graph} {ps qs : List (Term × Term)}

theorem of_canon_eq (h : ∀ t, g.canon t = t) : g.Represents [] where
  equated t := by rw [h]; exact .refl t
  joined := by simp
  le t := by rw [h]; exact t.le_refl

theorem canonKey_eq_iff (h : g.Represents ps) {a b : Term} :
    g.canonKey a = g.canonKey b ↔ Equated ps a b := by
  constructor
  · intro hkey
    have hab : Equated ps (g.canon a) (g.canon b) := .of_key_eq hkey
    exact (h.equated a).trans (hab.trans (h.equated b).symm)
  · intro hab
    induction hab with
    | rel a b hrel =>
      rcases hrel with hsame | hmem
      · exact Equivalence.find_congr (Term.same_iff_key.mp hsame)
      · exact h.joined a b hmem
    | refl a => rfl
    | symm a b _ ih => exact ih.symm
    | trans a b c _ _ ih ih' => exact ih.trans ih'

theorem least (h : g.Represents ps) {t u : Term} (htu : Equated ps t u) :
    (g.canon t).le u = true :=
  Term.le_trans (Term.le_of_key_eq (h.canonKey_eq_iff.mpr htu)) (h.le u)

theorem canonKey_eq (h : g.Represents ps) (h' : g'.Represents qs)
    (heq : ∀ a b, Equated ps a b ↔ Equated qs a b) (t : Term) : g.canonKey t = g'.canonKey t := by
  have hle : (g.canon t).le (g'.canon t) = true := h.least ((heq _ _).mpr (h'.equated t))
  have hge : (g'.canon t).le (g.canon t) = true := h'.least ((heq _ _).mp (h.equated t))
  exact Term.cmp_eq_iff_key.mp (Std.OrientedCmp.isLE_antisymm hle hge)

end Graph.Represents

namespace Store

theorem mergeOrder?_swap (a b : Term) : Graph.mergeOrder? a b = Graph.mergeOrder? b a := by
  unfold Graph.mergeOrder?
  rw [Term.cmp_swap a b]
  cases b.cmp a <;> rfl

theorem equate_swap (s : Store) (a b : Term) : s.equate a b = s.equate b a := by
  unfold equate
  rw [mergeOrder?_swap]

theorem le_of_mergeOrder? {a b big small : Term}
    (h : Graph.mergeOrder? a b = some (big, small)) : small.le big = true := by
  unfold Graph.mergeOrder? at h
  split at h
  case h_1 => cases h
  case h_2 hlt =>
    obtain ⟨rfl, rfl⟩ := Prod.mk.inj (Option.some.inj h)
    rw [Term.le, hlt]
    rfl
  case h_3 hgt =>
    obtain ⟨rfl, rfl⟩ := Prod.mk.inj (Option.some.inj h)
    rw [Term.le, Term.cmp_swap, hgt]
    rfl

theorem key_eq_of_mergeOrder? {a b : Term} (h : Graph.mergeOrder? a b = none) : a.key = b.key := by
  unfold Graph.mergeOrder? at h
  split at h
  case h_1 heq => exact Term.cmp_eq_iff_key.mp heq
  case h_2 => cases h
  case h_3 => cases h

theorem represents_equate {s : Store} {ps : List (Term × Term)} (hwf : s.graph.WellFormed)
    (h : s.graph.Represents ps) (a b : Term) :
    (s.equate a b).graph.Represents (ps ++ [(a, b)]) := by
  have hmono : ∀ {t u : Term}, Equated ps t u → Equated (ps ++ [(a, b)]) t u :=
    Equated.mono fun t u hmem => .of_mem (List.mem_append_left _ hmem)
  have hnew : Equated (ps ++ [(a, b)]) (s.graph.canon a) (s.graph.canon b) := by
    have hab : Equated (ps ++ [(a, b)]) a b := .of_mem (by simp)
    exact (hmono (h.equated a)).symm.trans (hab.trans (hmono (h.equated b)))
  cases hmerge : Graph.mergeOrder? (s.graph.canon a) (s.graph.canon b) with
  | none =>
    have hsame : s.equate a b = s := by rw [equate, hmerge]
    rw [hsame]
    refine ⟨fun t => hmono (h.equated t), fun t u hmem => ?_, h.le⟩
    rcases List.mem_append.mp hmem with hmem | hmem
    · exact h.joined t u hmem
    · obtain ⟨rfl, rfl⟩ := Prod.mk.inj (List.mem_singleton.mp hmem)
      exact key_eq_of_mergeOrder? hmerge
  | some merged =>
    obtain ⟨big, small⟩ := merged
    have hcanon : ∀ t, (s.equate a b).graph.canon t =
        if s.graph.canonKey t = big.key then small else s.graph.canon t := by
      intro t
      rw [equate, hmerge]
      exact canon_redirect hwf hmerge t
    have hbig : Equated (ps ++ [(a, b)]) big small := by
      rcases mergeOrder?_mem hmerge with ⟨rfl, rfl⟩ | ⟨rfl, rfl⟩
      · exact hnew
      · exact hnew.symm
    refine ⟨fun t => ?_, fun t u hmem => ?_, fun t => ?_⟩
    · rw [hcanon]
      split
      case isTrue hkey =>
        exact (hmono (h.equated t)).trans ((Equated.of_key_eq hkey).trans hbig)
      case isFalse => exact hmono (h.equated t)
    · rw [Graph.canonKey, Graph.canonKey, hcanon, hcanon]
      rcases List.mem_append.mp hmem with hmem | hmem
      · rw [h.joined t u hmem]
        split
        · rfl
        · exact h.joined t u hmem
      · obtain ⟨rfl, rfl⟩ := Prod.mk.inj (List.mem_singleton.mp hmem)
        have hne := mergeOrder?_key_ne hmerge
        unfold Graph.canonKey
        rcases mergeOrder?_mem hmerge with ⟨rfl, rfl⟩ | ⟨rfl, rfl⟩
        · rw [if_pos rfl, if_neg (Ne.symm hne)]
        · rw [if_neg (Ne.symm hne), if_pos rfl]
    · rw [hcanon]
      split
      case isTrue hkey =>
        have hle : small.le (s.graph.canon t) = true :=
          Term.le_trans (le_of_mergeOrder? hmerge) (Term.le_of_key_eq hkey.symm)
        exact Term.le_trans hle (h.le t)
      case isFalse => exact h.le t

theorem represents_change {s : Store} {ps : List (Term × Term)} (hwf : s.graph.WellFormed)
    (h : s.graph.Represents ps) (c : Change) :
    (s.change c).graph.Represents (ps ++ Change.equated [c]) := by
  have hsame : ∀ {g : Graph}, g.equivalence = s.graph.equivalence → g.Represents (ps ++ []) := by
    intro g heq
    have hcanon : g.canon = s.graph.canon := by
      funext t
      rw [Graph.canon, Graph.canon, heq]
    rw [List.append_nil]
    refine ⟨fun t => ?_, fun a b hmem => ?_, fun t => ?_⟩
    · rw [hcanon]
      exact h.equated t
    · rw [Graph.canonKey, Graph.canonKey, hcanon]
      exact h.joined a b hmem
    · rw [hcanon]
      exact h.le t
  cases c with
  | equate a b => exact represents_equate hwf h a b
  | insert st => exact hsame rfl
  | drop e => exact hsame rfl
  | onProperty predicate a => exact hsame rfl
  | onClass type a => exact hsame rfl
  | fresh => exact hsame rfl
  | note label st => exact hsame rfl

theorem Evolves.represents {s t : Store} {cs : List Change} (he : s.Evolves cs t)
    (hwf : s.graph.WellFormed) {ps : List (Term × Term)} (h : s.graph.Represents ps) :
    t.graph.Represents (ps ++ Change.equated cs) := by
  induction he generalizing ps with
  | nil s =>
    rw [Change.equated, List.filterMap_nil, List.append_nil]
    exact h
  | @cons s t c cs hc _ ih =>
    have happend : Change.equated (c :: cs) = Change.equated [c] ++ Change.equated cs :=
      List.filterMap_append (l := [c])
    rw [happend, ← List.append_assoc]
    exact ih (wellFormed_change hwf hc) (represents_change hwf h c)

/-! ## Histories -/

/-- The events that took an empty store to this one. -/
inductive History : Store → List Event → Prop
  | start (options : StoreOptions) : History (ofOptions options) []
  | after {s t : Store} {es ds : List Event} (h : History s es) (levels : Nat) (op : Operation)
      (htell : op.tell levels s = some (((), ds), t)) : History t (es ++ ds)
  | registered {s : Store} {es : List Event} (h : History s es) (predicate : Term) (a : Action) :
      History (s.change (.onProperty predicate a)) (es ++ [.changed (.onProperty predicate a)])
  | registeredClass {s : Store} {es : List Event} (h : History s es) (type : Term) (a : Action) :
      History (s.change (.onClass type a)) (es ++ [.changed (.onClass type a)])

theorem reachable_iff_history {s : Store} : s.Reachable ↔ ∃ es, s.History es := by
  constructor
  · intro h
    induction h with
    | start options => exact ⟨[], .start options⟩
    | after _ levels op hrun ih =>
      obtain ⟨es, hes⟩ := ih
      obtain ⟨ds, hds⟩ := op.run_eq_some.mp hrun
      exact ⟨es ++ ds, hes.after levels op hds⟩
    | registered _ predicate a ih =>
      obtain ⟨es, hes⟩ := ih
      exact ⟨_, hes.registered predicate a⟩
    | registeredClass _ type a ih =>
      obtain ⟨es, hes⟩ := ih
      exact ⟨_, hes.registeredClass type a⟩
  · rintro ⟨es, hes⟩
    induction hes with
    | start options => exact .start options
    | after _ levels op htell ih => exact ih.after levels op (op.run_eq_some.mpr ⟨_, htell⟩)
    | registered _ predicate a ih => exact ih.registered predicate a
    | registeredClass _ type a ih => exact ih.registeredClass type a

theorem History.wellFormed {s : Store} {es : List Event} (h : s.History es) :
    s.graph.WellFormed :=
  (reachable_iff_history.mpr ⟨es, h⟩).wellFormed

theorem History.evolves {s : Store} {es : List Event} (h : s.History es) :
    ∃ options, (ofOptions options).Evolves (Event.changes es) s := by
  induction h with
  | start options => exact ⟨options, .nil _⟩
  | after h levels op htell ih =>
    obtain ⟨options, hes⟩ := ih
    rw [Event.changes_append]
    exact ⟨options, hes.append (op.evolves_tell h.wellFormed htell)⟩
  | registered _ predicate a ih =>
    obtain ⟨options, hes⟩ := ih
    rw [Event.changes_append]
    exact ⟨options, hes.append (.single (c := .onProperty predicate a) trivial)⟩
  | registeredClass _ type a ih =>
    obtain ⟨options, hes⟩ := ih
    rw [Event.changes_append]
    exact ⟨options, hes.append (.single (c := .onClass type a) trivial)⟩

theorem History.represents {s : Store} {es : List Event} (h : s.History es) :
    s.graph.Represents (Event.equated es) := by
  obtain ⟨options, hes⟩ := h.evolves
  exact hes.represents Graph.wellFormed_empty (.of_canon_eq fun _ => rfl)

end Store

/-! ## In the course of a program -/

namespace Telling

def Continues {α : Type} (m : Telling α) : Prop :=
  ∀ ⦃s t : Store⦄ ⦃a : α⦄ ⦃es ds : List Event⦄, s.History es → m s = some ((a, ds), t) →
    t.History (es ++ ds)

namespace Continues

variable {α β : Type}

theorem pure (a : α) : Continues (pure a : Telling α) := by
  intro s t b es ds hs hrun
  obtain ⟨-, rfl, rfl⟩ := pure_eq_some hrun
  rw [List.append_nil]
  exact hs

theorem bind {m : Telling α} {f : α → Telling β} (hm : Continues m) (hf : ∀ a, Continues (f a)) :
    Continues (m >>= f) := by
  intro s u b es ds hs hrun
  obtain ⟨a, t, ds, ds', hmt, hfu, rfl⟩ := bind_eq_some.mp hrun
  rw [← List.append_assoc]
  exact hf a (hm hs hmt) hfu

theorem get : Continues (record (fun _ => []) (get : StoreM Store)) := by
  intro s t a es ds hs hrun
  obtain ⟨hget, rfl⟩ := record_eq_some.mp hrun
  obtain ⟨-, rfl⟩ := Prod.mk.inj (Option.some.inj hget)
  rw [List.append_nil]
  exact hs

/-- An operation that differs from one of those that can be asked for in its answer only. -/
theorem ofTell {m : Telling α} (levels : Nat) (op : Operation)
    (h : ∀ s t a ds, m s = some ((a, ds), t) → op.tell levels s = some (((), ds), t)) :
    Continues m :=
  fun _ _ _ _ _ hs hrun => hs.after levels op (h _ _ _ _ hrun)

end Continues

theorem runWith_continues (levels : Nat) (p : Program) :
    Continues (runWith (apply levels) p) := by
  induction p with
  | done suppress => exact .pure suppress
  | look next ih => exact .bind .get fun s => ih s.graph
  | add st next ih =>
    refine .bind (.ofTell levels (.add st) fun s t e ds hrun => ?_) fun e => ih e
    exact bind_eq_some.mpr ⟨e, t, ds, [], hrun, rfl, (List.append_nil ds).symm⟩
  | equate a b next ih =>
    exact .bind (.ofTell levels (.equate a b) fun s t _ ds hrun => hrun) fun _ => ih
  | remove target next ih =>
    refine .bind (.ofTell levels (.remove target) fun s t found ds hrun => ?_) fun b => ih b
    obtain ⟨hremove, rfl⟩ := record_eq_some.mp hrun
    obtain ⟨-, rfl⟩ := Prod.mk.inj (Option.some.inj hremove)
    refine record_eq_some.mpr ⟨?_, rfl⟩
    change some ((), (s.remove? target).getD s) = _
    cases s.remove? target <;> rfl
  | removeMany mask limit next ih =>
    refine .bind (.ofTell levels (.removeMany mask limit) fun s t n ds hrun => ?_) fun n => ih n
    obtain ⟨hremove, rfl⟩ := record_eq_some.mp hrun
    obtain ⟨-, rfl⟩ := Prod.mk.inj (Option.some.inj hremove)
    rfl
  | onProperty predicate action next _ ih =>
    refine .bind (.ofTell levels (.onProperty predicate action) fun s t b ds hrun => ?_)
      fun b => ih b
    exact bind_eq_some.mpr ⟨b, t, ds, [], hrun, rfl, (List.append_nil ds).symm⟩
  | onClass type action next _ ih =>
    refine .bind (.ofTell levels (.onClass type action) fun s t b ds hrun => ?_) fun b => ih b
    exact bind_eq_some.mpr ⟨b, t, ds, [], hrun, rfl, (List.append_nil ds).symm⟩
  | fresh next ih =>
    refine .bind (.ofTell levels .fresh fun s t x ds hrun => ?_) fun x => ih x
    obtain ⟨hfresh, rfl⟩ := record_eq_some.mp hrun
    obtain ⟨-, rfl⟩ := Prod.mk.inj (Option.some.inj hfresh)
    rfl
  | note label st next ih =>
    exact .bind (.ofTell levels (.note label st) fun s t _ ds hrun => hrun) fun _ => ih

end Telling

/-! ## The main result -/

namespace Store

theorem History.canon_same_iff {s : Store} {es : List Event} (h : s.History es) (a b : Term) :
    (s.graph.canon a).same (s.graph.canon b) = true ↔ Equated (Event.equated es) a b :=
  Term.same_iff_key.trans h.represents.canonKey_eq_iff

theorem History.canon_same_mono {s t : Store} {es ds : List Event} (h : s.History es)
    (h' : t.History (es ++ ds)) {a b : Term}
    (hab : (s.graph.canon a).same (s.graph.canon b) = true) :
    (t.graph.canon a).same (t.graph.canon b) = true := by
  rw [h.canon_same_iff] at hab
  rw [h'.canon_same_iff, Event.equated_append]
  exact hab.mono fun x y hmem => .of_mem (List.mem_append_left _ hmem)

/-- The term that stands for a term is the lowest of those that were equated with it, directly or
by way of others. So terms are stood for by the same one just when they were equated; no operation
undoes that, nor does a program that an action runs; and in which order the terms of a pair, or the
pairs, were given makes no difference. -/
theorem Reachable.canon_least {s : Store} (h : s.Reachable) :
    (∃ es, s.History es) ∧ ∀ es, s.History es →
      (∀ t, Equated (Event.equated es) t (s.graph.canon t) ∧
        ∀ u, Equated (Event.equated es) t u → (s.graph.canon t).le u = true) ∧
      (∀ a b, (s.graph.canon a).same (s.graph.canon b) = true ↔
        Equated (Event.equated es) a b) ∧
      (∀ levels (op : Operation) t, op.run levels s = some ((), t) →
        ∀ a b, (s.graph.canon a).same (s.graph.canon b) = true →
          (t.graph.canon a).same (t.graph.canon b) = true) ∧
      (∀ levels p suppressed ds (t : Store),
        Telling.runWith (Telling.apply levels) p s = some ((suppressed, ds), t) →
          t.History (es ++ ds) ∧
          ∀ a b, (s.graph.canon a).same (s.graph.canon b) = true →
            (t.graph.canon a).same (t.graph.canon b) = true) ∧
      (∀ a b, s.equate a b = s.equate b a) ∧
      ∀ (t : Store) ds, t.History ds →
        (∀ a b, ((a, b) ∈ Event.equated es ∨ (b, a) ∈ Event.equated es) ↔
          ((a, b) ∈ Event.equated ds ∨ (b, a) ∈ Event.equated ds)) →
        ∀ x, (s.graph.canon x).same (t.graph.canon x) = true := by
  refine ⟨reachable_iff_history.mp h, fun es hes => ⟨fun t => ?_, hes.canon_same_iff, ?_, ?_,
    s.equate_swap, ?_⟩⟩
  · exact ⟨hes.represents.equated t, fun u htu => hes.represents.least htu⟩
  · intro levels op t hrun a b hab
    obtain ⟨ds, hds⟩ := op.run_eq_some.mp hrun
    exact hes.canon_same_mono (hes.after levels op hds) hab
  · intro levels p suppressed ds t hrun
    have hafter := Telling.runWith_continues levels p hes hrun
    exact ⟨hafter, fun a b hab => hes.canon_same_mono hafter hab⟩
  · intro t ds hds hpairs x
    -- a pair generates the same equivalence either way round
    have hturned : ∀ {ps qs : List (Term × Term)},
        (∀ a b, (a, b) ∈ ps ∨ (b, a) ∈ ps → (a, b) ∈ qs ∨ (b, a) ∈ qs) →
        ∀ {a b}, Equated ps a b → Equated qs a b := by
      intro ps qs hsub a b hab
      refine hab.mono fun a b hmem => ?_
      rcases hsub a b (.inl hmem) with hmem | hmem
      · exact .of_mem hmem
      · exact (Equated.of_mem hmem).symm
    refine Term.same_iff_key.mpr (hes.represents.canonKey_eq hds.represents (fun a b => ?_) x)
    exact ⟨hturned fun a b => (hpairs a b).mp, hturned fun a b => (hpairs a b).mpr⟩

theorem canon_least_after_equates :
    let a := Term.named "a"
    let b := Term.named "b"
    let c := Term.named "c"
    let s := (bare.equate c b).equate a c
    s.Reachable ∧ s.History [.changed (.equate c b), .changed (.equate a c)] ∧
      (s.graph.canon b).le a = true ∧ (s.graph.canon a).same (s.graph.canon b) = true ∧
      s.equate b a = s.equate a b := by
  intro a b c s
  have hstart : bare.History [] := .start { builtinActions := false }
  have hs : s.History [.changed (.equate c b), .changed (.equate a c)] :=
    (hstart.after 0 (.equate c b) rfl).after 0 (.equate a c) rfl
  have hreach : s.Reachable := reachable_iff_history.mpr ⟨_, hs⟩
  obtain ⟨-, hleast⟩ := hreach.canon_least
  obtain ⟨hmin, hsame, -, -, hswap, -⟩ := hleast _ hs
  have hcb : Equated [(c, b), (a, c)] c b := .of_mem (by simp)
  have hac : Equated [(c, b), (a, c)] a c := .of_mem (by simp)
  have hab := hac.trans hcb
  exact ⟨hreach, hs, (hmin b).2 a hab.symm, (hsame a b).mpr hab, hswap b a⟩

end Store

end QuadGraph
