import QuadGraph.Proofs.Smushing
import QuadGraph.Proofs.Registrations

/-!
# What actions are handed

An action is written for a statement whose terms stand for themselves. The terms of a stored statement
are looked up just before an action is run on it. Those of a statement that is added are looked up
once, when the addition begins, and all of its actions are run on what was found then (`Origin`). So
wherever an action is applied in the course of an operation, each term of the statement stands for
itself unless a merge gave it up since (`Reachable.handed_canonical`). To the action of a functional
property a term that was given up is another value, even if it was merged with the value that is
stored (`handed_stale`).
-/

namespace QuadGraph

/-! ## Terms that are given up -/

/-- A term stands for itself as soon as its key does. -/
theorem Graph.canon_eq_self_iff {g : Graph} (hwf : g.WellFormed) {t : Term} :
    g.canon t = t ↔ g.canonKey t = t.key := by
  constructor
  · exact congrArg Term.key
  · intro hkey
    rw [canonKey, canon, hwf.flat.find_eq] at hkey
    rw [canon, hwf.flat.find_eq]
    cases hr : g.equivalence.redirections[t.key]? with
    | none => rfl
    | some r =>
      rw [hr, Option.getD_some] at hkey
      have hnone := hwf.flat.target _ _ hr
      rw [hkey, hr] at hnone
      cases hnone

namespace Store

variable {s t u : Store} {c : Change} {cs : List Change} {x : Term}

/-- The change is a merge of two terms, and this is the one that does not stay. -/
def GivesUp (s : Store) (x : Term) : Change → Prop
  | .equate a b => ∃ big small,
    Graph.mergeOrder? (s.graph.canon a) (s.graph.canon b) = some (big, small) ∧ big.key = x.key
  | _ => False

def Displaces (s : Store) (cs : List Change) (x : Term) : Prop :=
  ∃ before c after u, cs = before ++ c :: after ∧ s.Evolves before u ∧ u.GivesUp x c

theorem not_displaces_nil : ¬ s.Displaces [] x := by
  rintro ⟨before, c, after, u, heq, -⟩
  exact absurd heq.symm (List.append_ne_nil_of_right_ne_nil before (List.cons_ne_nil c after))

theorem displaces_cons (hc : s.Allows c) :
    s.Displaces (c :: cs) x ↔ s.GivesUp x c ∨ (s.change c).Displaces cs x := by
  constructor
  · rintro ⟨before, d, after, u, heq, hbefore, hgives⟩
    cases hbefore with
    | nil s =>
      obtain ⟨rfl, -⟩ := List.cons.inj heq
      exact .inl hgives
    | @cons _ _ e before he hbefore =>
      obtain ⟨rfl, rfl⟩ := List.cons.inj heq
      exact .inr ⟨before, d, after, u, rfl, hbefore, hgives⟩
  · rintro (hgives | ⟨before, d, after, u, rfl, hbefore, hgives⟩)
    · exact ⟨[], c, cs, s, rfl, .nil s, hgives⟩
    · exact ⟨c :: before, d, after, u, rfl, .cons hc hbefore, hgives⟩

theorem canonKey_of_change (hwf : s.graph.WellFormed) (c : Change)
    (h : (s.change c).graph.canonKey x = x.key) : s.graph.canonKey x = x.key := by
  cases c with
  | equate a b => exact canonKey_of_equate hwf h
  | _ => exact h

/-- A term that stands for itself goes on to do so unless it is given up. -/
theorem canonKey_change_iff (hwf : s.graph.WellFormed) (c : Change)
    (h : s.graph.canonKey x = x.key) :
    (s.change c).graph.canonKey x = x.key ↔ ¬ s.GivesUp x c := by
  cases c with
  | equate a b =>
    change (s.equate a b).graph.canonKey x = x.key ↔ _
    cases hmerge : Graph.mergeOrder? (s.graph.canon a) (s.graph.canon b) with
    | none =>
      rw [show s.equate a b = s by rw [equate, hmerge]]
      refine iff_of_true h ?_
      rintro ⟨big, small, hsome, -⟩
      cases hmerge.symm.trans hsome
    | some merged =>
      rw [canonKey_equate hwf hmerge, h]
      by_cases hbig : x.key = merged.1.key
      · rw [if_pos hbig]
        refine iff_of_false (fun hsmall => mergeOrder?_key_ne hmerge (hbig.symm.trans hsmall.symm)) ?_
        exact not_not_intro ⟨merged.1, merged.2, hmerge, hbig.symm⟩
      · rw [if_neg hbig]
        refine iff_of_true rfl ?_
        rintro ⟨big, small, hsome, hkey⟩
        obtain rfl := Option.some.inj (hmerge.symm.trans hsome)
        exact hbig hkey.symm
  | _ => exact iff_of_true h not_false

theorem Evolves.canonKey_of (he : s.Evolves cs t) (hwf : s.graph.WellFormed)
    (h : t.graph.canonKey x = x.key) : s.graph.canonKey x = x.key := by
  induction he with
  | nil s => exact h
  | cons hc _ ih => exact canonKey_of_change hwf _ (ih (wellFormed_change hwf hc) h)

theorem Evolves.canonKey_iff (he : s.Evolves cs t) (hwf : s.graph.WellFormed)
    (h : s.graph.canonKey x = x.key) : t.graph.canonKey x = x.key ↔ ¬ s.Displaces cs x := by
  induction he with
  | nil s => exact iff_of_true h not_displaces_nil
  | @cons s t c cs hc hcs ih =>
    have hwf' := wellFormed_change hwf hc
    rw [displaces_cons hc, not_or, ← canonKey_change_iff hwf c h]
    by_cases hnext : (s.change c).graph.canonKey x = x.key
    · rw [ih hwf' hnext, and_iff_right hnext]
    · exact iff_of_false (fun hlast => hnext (hcs.canonKey_of hwf' hlast)) fun hboth => hnext hboth.1

end Store

/-! ## Where actions are applied -/

/-- An action comes to be run on a statement. The terms of the statement were looked up in the first
store, the events were told since, and the action is handed the second store. -/
inductive Origin (a : Action) (q : Statement) : Store → List Event → Store → Prop
  /-- It is run at once, as on each stored statement when it is registered. -/
  | stored (u : Store) (st : Statement) (hq : u.graph.canonStatement st = q) : Origin a q u [] u
  /-- It has its turn in an addition, after the actions before it. -/
  | added {v u : Store} {st : Statement} {bs as : List Action} {since : List Event} (levels : Nat)
      (hq : v.graph.canonStatement st = q) (hactions : v.actionsFor q = bs ++ a :: as)
      (hturns : Telling.InTurn levels q v bs since u) : Origin a q v since u

/-- An element of two lists on end is in the one or in the other. -/
theorem append_eq_append_cons {α : Type} {xs ys before after : List α} {x : α}
    (h : xs ++ ys = before ++ x :: after) :
    (∃ zs, xs = before ++ x :: zs ∧ after = zs ++ ys) ∨
      ∃ zs, before = xs ++ zs ∧ ys = zs ++ x :: after := by
  rcases List.append_eq_append_iff.mp h with ⟨zs, hbefore, hys⟩ | ⟨zs, hxs, hcons⟩
  · exact .inr ⟨zs, hbefore, hys⟩
  · rcases List.cons_eq_append_iff.mp hcons with ⟨rfl, hys⟩ | ⟨zs', rfl, hafter⟩
    · exact .inr ⟨[], by rw [hxs, List.append_nil, List.append_nil], hys⟩
    · exact .inl ⟨zs', hxs, hafter⟩

namespace Store

variable {s t u v : Store} {a : Action} {q : Statement} {past rest since es ds : List Event} {b : Bool}

/-- The events of the past lead from `s` to `v`, where the terms of the statement were looked up, and on
to `u`, which the action is handed. What it does is told next. -/
structure Handed (s : Store) (past : List Event) (a : Action) (q : Statement) (rest : List Event)
    (v : Store) (since : List Event) (u : Store) (suppress : Bool) : Prop where
  origin : Origin a q v since u
  before : ∃ ds, past = ds ++ since ∧ s.Evolves (Event.changes ds) v
  evolves : v.Evolves (Event.changes since) u
  applied : ∃ levels ds t later,
    Telling.apply levels a q u = some ((suppress, .applied a q :: ds), t) ∧ rest = ds ++ later

theorem Handed.before_events (h : t.Handed past a q rest v since u b)
    (he : s.Evolves (Event.changes es) t) : s.Handed (es ++ past) a q rest v since u b where
  origin := h.origin
  before := by
    obtain ⟨ds, rfl, hds⟩ := h.before
    refine ⟨es ++ ds, (List.append_assoc ..).symm, ?_⟩
    rw [Event.changes_append]
    exact he.append hds
  evolves := h.evolves
  applied := h.applied

theorem Handed.after_events (h : s.Handed past a q rest v since u b) (es : List Event) :
    s.Handed past a q (rest ++ es) v since u b where
  origin := h.origin
  before := h.before
  evolves := h.evolves
  applied := by
    obtain ⟨levels, ds, t, later, hrun, rfl⟩ := h.applied
    exact ⟨levels, ds, t, later ++ es, hrun, List.append_assoc ..⟩

def Traced (s : Store) (es : List Event) : Prop :=
  ∀ past a q rest, es = past ++ .applied a q :: rest →
    ∃ v since u suppress, s.Handed past a q rest v since u suppress

theorem traced_changed (s : Store) (cs : List Change) : s.Traced (cs.map .changed) := by
  intro past a q rest heq
  have hmem : Event.applied a q ∈ cs.map Event.changed := by
    rw [heq]
    exact List.mem_append_cons_self
  obtain ⟨c, -, hc⟩ := List.mem_map.mp hmem
  cases hc

theorem Traced.append (h : s.Traced es) (he : s.Evolves (Event.changes es) t) (h' : t.Traced ds) :
    s.Traced (es ++ ds) := by
  intro past a q rest heq
  rcases append_eq_append_cons heq with ⟨later, rfl, rfl⟩ | ⟨past', rfl, rfl⟩
  · obtain ⟨v, since, u, suppress, hhanded⟩ := h past a q later rfl
    exact ⟨v, since, u, suppress, hhanded.after_events ds⟩
  · obtain ⟨v, since, u, suppress, hhanded⟩ := h' past' a q rest rfl
    exact ⟨v, since, u, suppress, hhanded.before_events he⟩

/-- An action is applied after the events since the look-up. -/
theorem Traced.applied {levels : Nat} (h : v.Traced since) (he : v.Evolves (Event.changes since) u)
    (horigin : Origin a q v since u)
    (hrun : Telling.apply levels a q u = some ((b, .applied a q :: ds), t)) (hds : u.Traced ds) :
    v.Traced (since ++ .applied a q :: ds) := by
  intro past a' q' rest heq
  rcases append_eq_append_cons heq with ⟨later, rfl, rfl⟩ | ⟨past', rfl, htail⟩
  · obtain ⟨v', since', u', suppress, hhanded⟩ := h past a' q' later rfl
    exact ⟨v', since', u', suppress, hhanded.after_events _⟩
  · rcases List.cons_eq_append_iff.mp htail with ⟨rfl, hcons⟩ | ⟨past'', rfl, rfl⟩
    · -- this is the application itself
      obtain ⟨hevent, rfl⟩ := List.cons.inj hcons
      obtain ⟨rfl, rfl⟩ := Event.applied.inj hevent
      rw [List.append_nil]
      exact ⟨v, since, u, b, horigin, ⟨[], rfl, .nil v⟩, he, levels, _, t, [], hrun,
        (List.append_nil _).symm⟩
    · obtain ⟨v', since', u', suppress, hhanded⟩ := hds past'' a' q' rest rfl
      have htold : v.Evolves (Event.changes (since ++ [.applied a q])) u := by
        rw [Event.changes_append]
        exact he.append (.nil u)
      rw [List.append_cons]
      exact ⟨v', since', u', suppress, hhanded.before_events htold⟩

end Store

/-! ## Where operations apply actions -/

namespace Telling

variable {α β : Type}

def Traces (m : Telling α) : Prop :=
  ∀ ⦃s t : Store⦄ ⦃x : α⦄ ⦃es : List Event⦄, s.graph.WellFormed → m s = some ((x, es), t) →
    s.Traced es

namespace Traces

theorem record {events : Store → List Event} {m : StoreM α}
    (h : ∀ s, ∃ cs : List Change, events s = cs.map .changed) : Traces (record events m) := by
  intro s t x es _ hrun
  obtain ⟨-, rfl⟩ := record_eq_some.mp hrun
  obtain ⟨cs, hcs⟩ := h s
  rw [hcs]
  exact s.traced_changed cs

theorem pure (x : α) : Traces (pure x : Telling α) := by
  intro s t y es _ hrun
  obtain ⟨-, rfl, -⟩ := pure_eq_some hrun
  exact s.traced_changed []

theorem bind {m : Telling α} {f : α → Telling β} (hm : Traces m) (hm' : Faithful m)
    (hf : ∀ x, Traces (f x)) : Traces (m >>= f) := by
  intro s u y es hs hrun
  obtain ⟨x, t, ds, ds', hmt, hfu, rfl⟩ := bind_eq_some.mp hrun
  have hfirst := hm' hs hmt
  exact (hm hs hmt).append hfirst (hf x (hfirst.wellFormed hs) hfu)

theorem get : Traces (Telling.record (fun _ => []) (get : StoreM Store)) := record fun _ => ⟨[], rfl⟩

theorem make (c : Change) : Traces (Telling.make c) := record fun _ => ⟨[c], rfl⟩

end Traces

theorem traces_removed (target : Target) {m : StoreM α} : Traces (record (removed target) m) :=
  .record fun s => ⟨(s.find? target).toList.map .drop, (List.map_map ..).symm⟩

theorem traces_removedMany (mask : Mask) (limit : Option Nat) {m : StoreM α} :
    Traces (record (removedMany mask limit) m) :=
  .record fun _ => ⟨_, rfl⟩

theorem InTurn.append {levels : Nat} {q : Statement} {s t u : Store} {as bs : List Action}
    {es ds : List Event} (h : InTurn levels q s as es t) (h' : InTurn levels q t bs ds u) :
    InTurn levels q s (as ++ bs) (es ++ ds) u := by
  induction h with
  | nil s => exact h'
  | cons suppress hfirst _ ih =>
    rw [List.append_assoc]
    exact .cons suppress hfirst (ih h')

section
variable {levels : Nat} (happly : ∀ ⦃s t : Store⦄ ⦃a : Action⦄ ⦃q : Statement⦄ ⦃b : Bool⦄
  ⦃ds : List Event⦄, s.graph.WellFormed →
    apply levels a q s = some ((b, .applied a q :: ds), t) → s.Traced ds)
include happly

/-- The actions of an addition are run on what was looked up when it began. -/
theorem traced_applyAll {v s t : Store} {st q : Statement} {bs as : List Action}
    {since es : List Event} {b : Bool} (hwf : v.graph.WellFormed) (hq : v.graph.canonStatement st = q)
    (hactions : v.actionsFor q = bs ++ as) (hturns : InTurn levels q v bs since s)
    (he : v.Evolves (Event.changes since) s) (h : v.Traced since)
    (hrun : applyAll (apply levels) as q s = some ((b, es), t)) : v.Traced (since ++ es) := by
  induction as generalizing s bs since b es with
  | nil =>
    obtain ⟨-, rfl, -⟩ := pure_eq_some hrun
    rw [List.append_nil]
    exact h
  | cons a as ih =>
    obtain ⟨first, others, u, ds, ds', hfirst, hothers, -, rfl⟩ := applyAll_cons hrun
    have hwf' := he.wellFormed hwf
    have hstep := faithful_apply levels a q hwf' hfirst
    obtain ⟨n, ds₁, -, -, rfl⟩ := apply_eq_some hfirst
    have htraced := h.applied he (.added levels hq hactions hturns) hfirst (happly hwf' hfirst)
    have hturn : InTurn levels q s [a] (.applied a q :: ds₁ ++ []) u := .cons first hfirst (.nil u)
    rw [List.append_nil] at hturn
    rw [← List.append_assoc]
    refine ih ?_ (hturns.append hturn) ?_ htraced hothers
    · rw [hactions, List.append_assoc, List.singleton_append]
    · rw [Event.changes_append]
      exact he.append hstep

/-- An action is run on stored statements as they are looked up one after the other. -/
theorem traces_applyToEach (a : Action) (entries : List Entry) :
    Traces (applyToEach (apply levels) a entries) := by
  induction entries with
  | nil => exact .pure false
  | cons e rest ih =>
    intro s t b es hwf hrun
    obtain ⟨first, others, u, ds, ds', hfirst, hothers, rfl⟩ := applyToEach_cons hrun
    have hstep := faithful_apply levels a _ hwf hfirst
    obtain ⟨n, ds₁, -, -, rfl⟩ := apply_eq_some hfirst
    have htraced := (s.traced_changed []).applied (.nil s) (.stored s e.statement rfl) hfirst
      (happly hwf hfirst)
    exact htraced.append hstep (ih (hstep.wellFormed hwf) hothers)

theorem traces_addWith (st : Statement) : Traces (addWith (apply levels) st) := by
  intro s t r es hwf hrun
  obtain ⟨suppressed, u, ds, hactions, hend⟩ := addWith_eq_some hrun
  have htraced := traced_applyAll happly hwf rfl (List.nil_append _).symm (.nil s) (.nil s)
    (s.traced_changed []) hactions
  have hall := faithful_applyAll (faithful_apply levels) _ _ hwf hactions
  rcases hend with ⟨-, -, -, rfl⟩ | ⟨-, -, -, rfl⟩
  · exact htraced
  · exact htraced.append hall (u.traced_changed [.insert st])

theorem traces_onPropertyWith (predicate : Term) (a : Action) :
    Traces (onPropertyWith (apply levels) predicate a) :=
  .bind (.make _) (.make fun _ => trivial) fun _ => .bind .get .get fun _ =>
    traces_applyToEach happly a _

theorem traces_onClassWith (type : Term) (a : Action) :
    Traces (onClassWith (apply levels) type a) :=
  .bind (.make _) (.make fun _ => trivial) fun _ => .bind .get .get fun _ =>
    traces_applyToEach happly a _

theorem traces_runWith (p : Program) : Traces (runWith (apply levels) p) := by
  have hfaithful := faithful_apply levels
  induction p with
  | done suppress => exact .pure suppress
  | look next ih => exact .bind .get .get fun s => ih s.graph
  | add st next ih =>
    exact .bind (traces_addWith happly st) (faithful_addWith hfaithful st) fun e => ih e
  | equate a b next ih => exact .bind (.make _) (.make fun _ => trivial) fun _ => ih
  | remove target next ih =>
    exact .bind (traces_removed target) (faithful_remove target) fun found => ih found
  | removeMany mask limit next ih =>
    exact .bind (traces_removedMany mask limit) (faithful_removeMany mask limit) fun n => ih n
  | onProperty predicate action next _ ih =>
    exact .bind (traces_onPropertyWith happly predicate action)
      (faithful_onPropertyWith hfaithful predicate action) fun b => ih b
  | onClass type action next _ ih =>
    exact .bind (traces_onClassWith happly type action)
      (faithful_onClassWith hfaithful type action) fun b => ih b
  | fresh next ih =>
    exact .bind (.record fun _ => ⟨[.fresh], rfl⟩) (.modifyGet fun s _ => .single (c := .fresh) trivial)
      fun t => ih t
  | note label st next ih => exact .bind (.make _) (.make fun _ => trivial) fun _ => ih

end

theorem traced_apply (levels : Nat) ⦃s t : Store⦄ ⦃a : Action⦄ ⦃q : Statement⦄ ⦃b : Bool⦄
    ⦃ds : List Event⦄ (hwf : s.graph.WellFormed)
    (hrun : apply levels a q s = some ((b, .applied a q :: ds), t)) : s.Traced ds := by
  induction levels generalizing s t a q b ds with
  | zero => cases hrun
  | succ levels ih =>
    obtain ⟨n, ds', hlevels, hprogram, hes⟩ := apply_eq_some hrun
    obtain rfl := Nat.succ.inj hlevels
    obtain ⟨-, rfl⟩ := List.cons.inj hes
    exact traces_runWith ih (a q) hwf hprogram

end Telling

theorem Operation.traces_tell (levels : Nat) (op : Operation) : (op.tell levels).Traces := by
  have happly := Telling.traced_apply levels
  have hfaithful := Telling.faithful_apply levels
  cases op with
  | add st =>
    exact .bind (Telling.traces_addWith happly st) (Telling.faithful_addWith hfaithful st) fun _ =>
      .pure ()
  | equate a b => exact .make _
  | remove target => exact Telling.traces_removed target
  | removeMany mask limit => exact Telling.traces_removedMany mask limit
  | removeContext context => exact Telling.traces_removedMany _ none
  | onProperty predicate a =>
    exact .bind (Telling.traces_onPropertyWith happly predicate a)
      (Telling.faithful_onPropertyWith hfaithful predicate a) fun _ => .pure ()
  | onClass type a =>
    exact .bind (Telling.traces_onClassWith happly type a)
      (Telling.faithful_onClassWith hfaithful type a) fun _ => .pure ()
  | fresh => exact .record fun _ => ⟨[.fresh], rfl⟩
  | note label st => exact .make _

/-! ## What an action finds -/

/-- What was looked up stands for itself. -/
theorem Origin.canon {a : Action} {q : Statement} {v u : Store} {since : List Event}
    (h : Origin a q v since u) (hwf : v.graph.WellFormed) (p : Position) :
    v.graph.canon (q.get p) = q.get p := by
  obtain ⟨st, rfl⟩ : ∃ st, v.graph.canonStatement st = q := by
    rcases h with ⟨st, hq⟩ | ⟨_, hq, -, -⟩
    · exact ⟨st, hq⟩
    · exact ⟨_, hq⟩
  rw [Graph.canonStatement, Quad.get_map]
  exact hwf.canon_canon _

/-- The action of a functional property asks for suppression just when the first rival has another
term for a value. -/
theorem Telling.apply_action_verdict {levels : Nat} {σ : Sense} {q : Statement} {s t : Store} {b : Bool}
    {es : List Event} (h : apply levels σ.action q s = some ((b, es), t)) :
    b = true ↔ ∃ m, σ.first? s.graph q = some m ∧
      (s.graph.canon (m.statement.get σ.value)).same (q.get σ.value) = false := by
  obtain ⟨n, ds, -, hrun⟩ := apply_action_run h
  cases hm : σ.first? s.graph q with
  | none =>
    rw [hm] at hrun
    obtain ⟨rfl, -, -⟩ := runWith_done hrun
    exact iff_of_false Bool.false_ne_true fun ⟨m, hsome, _⟩ => nomatch hsome
  | some m =>
    simp only [hm] at hrun
    simp only [Option.some.injEq, exists_eq_left']
    split at hrun
    case isTrue hsame =>
      obtain ⟨rfl, -, -⟩ := runWith_done hrun
      exact iff_of_false Bool.false_ne_true fun hdiffer => Bool.false_ne_true (hdiffer.symm.trans hsame)
    case isFalse hsame =>
      obtain ⟨rfl, -, -⟩ := runWith_merge hrun
      exact iff_of_true rfl (Bool.eq_false_iff.mpr hsame)

theorem Graph.same_canon_iff {g : Graph} (hwf : g.WellFormed) {x y : Term} :
    (g.canon x).same y = true ↔ g.alike x y = true ∧ g.canonKey y = y.key := by
  rw [Term.same_iff_key, alike, beq_iff_eq]
  constructor
  · intro hkey
    have hy : g.canonKey y = g.canonKey x := by
      rw [← canonKey_congr hkey, canonKey_canon hwf]
    exact ⟨hy.symm, hy.trans hkey⟩
  · rintro ⟨hxy, hy⟩
    exact hxy.trans hy

/-- Each term of the statement that an action is run on stands for itself in the store that the action
is handed unless a merge gave it up since the terms were looked up. The action of a functional or
inverse functional property asks for suppression just when the value of the first rival was not the
same by then, or the value of the statement was given up. -/
theorem Store.Reachable.handed_canonical {s t : Store} (h : s.Reachable) {levels : Nat}
    {op : Operation} {past rest : List Event} {a : Action} {q : Statement}
    (hrun : op.tell levels s = some (((), past ++ .applied a q :: rest), t)) :
    ∃ v since u suppress, s.Handed past a q rest v since u suppress ∧
      (∀ p, u.graph.canon (q.get p) = q.get p ↔ ¬ v.Displaces (Event.changes since) (q.get p)) ∧
      ∀ σ : Sense, a = σ.action →
        (suppress = true ↔ ∃ m, σ.first? u.graph q = some m ∧
          (u.graph.alike (m.statement.get σ.value) (q.get σ.value) = false ∨
            v.Displaces (Event.changes since) (q.get σ.value))) := by
  obtain ⟨v, since, u, suppress, hhanded⟩ := op.traces_tell levels h.wellFormed hrun past a q rest rfl
  obtain ⟨ds, -, hbefore⟩ := hhanded.before
  have hwf : v.graph.WellFormed := hbefore.wellFormed h.wellFormed
  have hwf' : u.graph.WellFormed := hhanded.evolves.wellFormed hwf
  have hkey : ∀ p, u.graph.canonKey (q.get p) = (q.get p).key ↔
      ¬ v.Displaces (Event.changes since) (q.get p) := fun p =>
    hhanded.evolves.canonKey_iff hwf (congrArg Term.key (hhanded.origin.canon hwf p))
  refine ⟨v, since, u, suppress, hhanded, fun p => ?_, fun σ hσ => ?_⟩
  · rw [Graph.canon_eq_self_iff hwf', hkey]
  · obtain ⟨n, ds', w, later, happlied, -⟩ := hhanded.applied
    rw [hσ] at happlied
    rw [Telling.apply_action_verdict happlied]
    refine exists_congr fun m => and_congr_right fun _ => ?_
    rw [← Bool.not_eq_true, Graph.same_canon_iff hwf', hkey, not_and_or, not_not, Bool.not_eq_true]

/-! ## Additions of a functional property -/

namespace Telling

variable {told : Action → Statement → Telling Bool} {s t u : Store} {st : Statement}
  {es ds : List Event} {a : Action} {b c : Bool}

theorem applyAll_of_cons {as : List Action}
    (hfirst : told a st s = some ((b, ds), u)) (hrest : applyAll told as st u = some ((c, es), t)) :
    applyAll told (a :: as) st s = some ((b || c, ds ++ es), t) :=
  bind_eq_some.mpr ⟨b, u, ds, es, hfirst,
    bind_eq_some.mpr ⟨c, t, es, [], hrest, rfl, (List.append_nil _).symm⟩, rfl⟩

theorem applyAll_of_single (h : told a st s = some ((b, es), t)) :
    applyAll told [a] st s = some ((b, es), t) := by
  have hall : applyAll told [a] st s = some ((b || false, es ++ []), t) := applyAll_of_cons h rfl
  rw [Bool.or_false, List.append_nil] at hall
  exact hall

theorem addWith_of_suppressed (h : applyAll told (s.actionsFor (s.graph.canonStatement st))
      (s.graph.canonStatement st) s = some ((true, es), t)) :
    addWith told st s = some ((none, es), t) :=
  bind_eq_some.mpr ⟨s, s, [], es, rfl,
    bind_eq_some.mpr ⟨true, t, es, [], h, rfl, (List.append_nil _).symm⟩, rfl⟩

end Telling

namespace Store

theorem get_onProperty (s : Store) (p : Term) (a : Action) :
    (s.change (.onProperty p a)).propertyActions.get (s.graph.canonKey p) =
      s.propertyActions.get (s.graph.canonKey p) ++ [a] :=
  (Registry.get_register ..).trans (if_pos rfl)

/-- The only action of an addition is handed what was looked up. -/
theorem handed_canonical_in_add :
    let said : String → Statement := fun x => ⟨.named "a", .named "p", .named x, .named "g"⟩
    let s := (ofStatement (said "x")).change (.onProperty (.named "p") Action.functional)
    ∃ t rest, (Operation.add (said "y")).tell 1 s =
        some (((), .applied Action.functional (said "y") :: rest), t) ∧
      s.Handed [] Action.functional (said "y") rest s [] s true ∧
      ∀ p, s.graph.canon ((said "y").get p) = (said "y").get p := by
  intro said s
  have hs : s.Reachable := (reachable_ofStatement (said "x")).registered (.named "p") Action.functional
  have hactions : s.actionsFor (said "y") = [Action.functional] := by
    rw [actionsFor, if_neg (by decide), List.append_nil]
    exact get_onProperty (ofStatement (said "x")) (.named "p") Action.functional
  have hrun : (Telling.apply 1 Action.functional (said "y") s).any (fun r => r.1.1 &&
      (Sense.functional.first? s.graph (said "y")).any fun m =>
        !s.graph.alike (m.statement.get Sense.functional.value) (.named "y")) = true := by decide +kernel
  obtain ⟨⟨⟨b, es⟩, t⟩, happly, hend⟩ := (Option.any_eq_true ..).mp hrun
  obtain ⟨rfl, hfirst⟩ := Bool.and_eq_true_iff.mp hend
  obtain ⟨m, hm, hdiffer⟩ := (Option.any_eq_true ..).mp hfirst
  rw [Bool.not_eq_true'] at hdiffer
  obtain ⟨n, ds, -, -, rfl⟩ := Telling.apply_eq_some happly
  have hall := Telling.applyAll_of_single happly
  rw [← hactions] at hall
  have htell : (Operation.add (said "y")).tell 1 s =
      some (((), [] ++ .applied Action.functional (said "y") :: ds), t) :=
    Telling.bind_eq_some.mpr ⟨none, t, _, [], Telling.addWith_of_suppressed hall, rfl,
      (List.append_nil _).symm⟩
  refine ⟨t, ds, htell, ?_⟩
  obtain ⟨v, since, u, suppress, hhanded, hcanon, hverdict⟩ := hs.handed_canonical htell
  -- nothing came before, so the statement was looked up in the store itself
  obtain ⟨before, hnil, hbefore⟩ := hhanded.before
  obtain ⟨rfl, rfl⟩ := List.append_eq_nil_iff.mp hnil.symm
  have hsince := hhanded.evolves
  cases hbefore
  cases hsince
  obtain rfl := (hverdict .functional rfl).mpr ⟨m, hm, .inl hdiffer⟩
  exact ⟨hhanded, fun p => (hcanon p).mpr not_displaces_nil⟩

/-- The first action of an addition merges a term of the statement away. The second is handed the
statement as it was before, and it asks for suppression although the value is the one that is stored. -/
theorem handed_stale :
    let said : String → Statement := fun x => ⟨.named "a", .named "p", .named x, .named "g"⟩
    let merge : Action := fun st => .equate st.object (.named "x") (.done false)
    let s := ((ofStatement (said "x")).change (.onProperty (.named "p") merge)).change
      (.onProperty (.named "p") Action.functional)
    let u := s.equate (.named "y") (.named "x")
    s.Reachable ∧ ∃ ds t,
      Telling.addWith (Telling.apply 1) (said "y") s =
        some ((none, .applied merge (said "y") :: .changed (.equate (.named "y") (.named "x")) ::
          .applied Action.functional (said "y") :: ds), t) ∧
      Telling.apply 1 Action.functional (said "y") u =
        some ((true, .applied Action.functional (said "y") :: ds), t) ∧
      u.graph.canon (.named "y") ≠ .named "y" ∧
      ∃ m, Sense.functional.first? u.graph (said "y") = some m ∧
        u.graph.alike m.statement.object (.named "y") = true := by
  intro said merge s u
  have hs : s.Reachable :=
    ((reachable_ofStatement (said "x")).registered (.named "p") merge).registered (.named "p") _
  have hactions : s.actionsFor (said "y") = [merge, Action.functional] := by
    rw [actionsFor, if_neg (by decide), List.append_nil]
    refine (get_onProperty _ (.named "p") Action.functional).trans ?_
    exact congrArg (· ++ [Action.functional]) (get_onProperty _ (.named "p") merge)
  have hrun : (Telling.apply 1 Action.functional (said "y") u).any
      (fun r => r.1.1 && u.graph.canonKey (.named "y") != (Term.named "y").key &&
        (Sense.functional.first? u.graph (said "y")).any fun m =>
          u.graph.alike m.statement.object (.named "y")) = true := by decide +kernel
  obtain ⟨⟨⟨b, es⟩, t⟩, happly, hend⟩ := (Option.any_eq_true ..).mp hrun
  simp only [Bool.and_eq_true, bne_iff_ne] at hend
  obtain ⟨⟨rfl, hcanon⟩, hfirst⟩ := hend
  obtain ⟨m, hm, halike⟩ := (Option.any_eq_true ..).mp hfirst
  obtain ⟨n, ds, -, -, rfl⟩ := Telling.apply_eq_some happly
  have hmerge : Telling.apply 1 merge (said "y") s =
      some ((false, [.applied merge (said "y"), .changed (.equate (.named "y") (.named "x"))]), u) := rfl
  have hall := Telling.applyAll_of_cons hmerge (Telling.applyAll_of_single happly)
  rw [← hactions] at hall
  exact ⟨hs, ds, t, Telling.addWith_of_suppressed hall, happly,
    fun heq => hcanon (congrArg Term.key heq), m, hm, halike⟩

end Store

end QuadGraph
