import QuadGraph.Proofs.Changes

/-!
# Reachable stores

A store is reachable when operations took an empty one to it. The actions that an operation runs
may themselves operate on the store, and so a store may also be seen while an action is being
registered. The graph of a reachable store is well-formed (`Reachable.wellFormed`), so it is
indexed (`Reachable.indexed_and_kept`) whatever was merged, dropped or done by actions.
-/

namespace QuadGraph

inductive Operation where
  | add (st : Statement)
  | equate (a b : Term)
  | remove (target : Target)
  | removeMany (mask : Mask) (limit : Option Nat)
  | removeContext (context : Term)
  | onProperty (predicate : Term) (a : Action)
  | onClass (type : Term) (a : Action)
  | fresh
  | note (label : String) (st : Statement)

/-- An operation for its effect. Actions are nested in at most that many levels. -/
def Operation.run (levels : Nat) : Operation → StoreM Unit
  | .add st => do
    let _ ← StoreM.add levels st
  | .equate a b => modify fun s => s.equate a b
  | .remove target => modify fun s => (s.remove? target).getD s
  | .removeMany mask limit => modify fun s => (s.removeMany mask limit).2
  | .removeContext context => modify fun s => (s.removeContext context).2
  | .onProperty predicate a => do
    let _ ← StoreM.onProperty levels predicate a
  | .onClass type a => do
    let _ ← StoreM.onClass levels type a
  | .fresh => modify fun s => s.fresh.2
  | .note label st => modify fun s => s.addNote label st

theorem Operation.run_byChanges (levels : Nat) (op : Operation) :
    StoreM.ByChanges (op.run levels) := by
  have happly := StoreM.apply_byChanges levels
  cases op with
  | add st => exact .bind (StoreM.addWith_byChanges happly st) fun _ => .pure ()
  | equate a b => exact .modify (.equate a b) (fun _ => trivial) fun _ => rfl
  | remove target =>
    refine .modifyGet fun s _ => ?_
    change ∃ cs, s.Evolves cs ((s.remove? target).getD s)
    cases hremove : s.remove? target with
    | none => exact ⟨[], .nil s⟩
    | some t => exact Store.evolves_remove hremove
  | removeMany mask limit => exact .modifyGet fun s hs => Store.evolves_removeMany hs mask limit
  | removeContext context => exact .modifyGet fun s hs => Store.evolves_removeMany hs _ none
  | onProperty predicate a =>
    exact .bind (StoreM.onPropertyWith_byChanges happly predicate a) fun _ => .pure ()
  | onClass type a => exact .bind (StoreM.onClassWith_byChanges happly type a) fun _ => .pure ()
  | fresh => exact .modify .fresh (fun _ => trivial) fun _ => rfl
  | note label st => exact .modify (.note label st) (fun _ => trivial) fun _ => rfl

namespace Store

inductive Reachable : Store → Prop
  | start (options : StoreOptions) : Reachable (ofOptions options)
  | after {s t : Store} (h : Reachable s) (levels : Nat) (op : Operation)
      (hrun : op.run levels s = some ((), t)) : Reachable t
  /-- An action is registered and was not run yet. -/
  | registered {s : Store} (h : Reachable s) (predicate : Term) (a : Action) :
      Reachable (s.change (.onProperty predicate a))
  | registeredClass {s : Store} (h : Reachable s) (type : Term) (a : Action) :
      Reachable (s.change (.onClass type a))

theorem Reachable.wellFormed {s : Store} (h : s.Reachable) : s.graph.WellFormed := by
  induction h with
  | start options => exact Graph.wellFormed_empty
  | after h levels op hrun ih =>
    obtain ⟨cs, hcs⟩ := op.run_byChanges levels ih hrun
    exact hcs.wellFormed ih
  | registered h predicate a ih => exact wellFormed_change ih trivial
  | registeredClass h type a ih => exact wellFormed_change ih trivial

end Store

/-! ## Programs -/

namespace StoreM

def StaysReachable {α : Type} (m : StoreM α) : Prop :=
  ∀ ⦃s t : Store⦄ ⦃a : α⦄, s.Reachable → m s = some (a, t) → t.Reachable

namespace StaysReachable

variable {α β : Type}

theorem pure (a : α) : StaysReachable (pure a : StoreM α) := by
  intro s t b hs hrun
  obtain ⟨-, rfl⟩ := Prod.mk.inj (Option.some.inj hrun)
  exact hs

theorem bind {m : StoreM α} {f : α → StoreM β} (hm : StaysReachable m)
    (hf : ∀ a, StaysReachable (f a)) : StaysReachable (m >>= f) := by
  intro s t b hs hrun
  obtain ⟨a, u, hmu, hft⟩ := bind_eq_some.mp hrun
  exact hf a (hm hs hmu) hft

theorem get : StaysReachable (get : StoreM Store) := by
  intro s t b hs hrun
  obtain ⟨-, rfl⟩ := Prod.mk.inj (Option.some.inj hrun)
  exact hs

/-- An operation that differs from one of those that can be asked for in its answer only. -/
theorem ofRun {m : StoreM α} (levels : Nat) (op : Operation)
    (h : ∀ s t a, m s = some (a, t) → op.run levels s = some ((), t)) : StaysReachable m :=
  fun _ _ _ hs hrun => .after hs levels op (h _ _ _ hrun)

end StaysReachable

/-- Wherever a program is run, every store that it comes by is reachable. -/
theorem runWith_staysReachable (levels : Nat) (p : Program) :
    StaysReachable (runWith (apply levels) p) := by
  induction p with
  | done suppress => exact .pure suppress
  | look next ih => exact .bind .get fun s => ih s.graph
  | add st next ih =>
    refine .bind (.ofRun levels (.add st) fun s t e hrun => ?_) fun e => ih e
    exact bind_eq_some.mpr ⟨e, t, hrun, rfl⟩
  | equate a b next ih =>
    exact .bind (.ofRun levels (.equate a b) fun s t _ hrun => hrun) fun _ => ih
  | remove target next ih =>
    refine .bind (.ofRun levels (.remove target) fun s t found hrun => ?_) fun b => ih b
    obtain ⟨-, rfl⟩ := Prod.mk.inj (Option.some.inj hrun)
    change some ((), (s.remove? target).getD s) = _
    cases s.remove? target <;> rfl
  | removeMany mask limit next ih =>
    refine .bind (.ofRun levels (.removeMany mask limit) fun s t n hrun => ?_)
      fun n => ih n
    obtain ⟨-, rfl⟩ := Prod.mk.inj (Option.some.inj hrun)
    rfl
  | onProperty predicate action next _ ih =>
    refine .bind (.ofRun levels (.onProperty predicate action)
      fun s t b hrun => ?_) fun b => ih b
    exact bind_eq_some.mpr ⟨b, t, hrun, rfl⟩
  | onClass type action next _ ih =>
    refine .bind (.ofRun levels (.onClass type action) fun s t b hrun => ?_)
      fun b => ih b
    exact bind_eq_some.mpr ⟨b, t, hrun, rfl⟩
  | fresh next ih =>
    refine .bind (.ofRun levels .fresh fun s t x hrun => ?_) fun x => ih x
    obtain ⟨-, rfl⟩ := Prod.mk.inj (Option.some.inj hrun)
    rfl
  | note label st next ih =>
    exact .bind (.ofRun levels (.note label st) fun s t _ hrun => hrun) fun _ => ih

end StoreM

/-! ## The graph of a reachable store -/

/-- Every index lists under a key just the entries whose component is now stood for by a term of
that key, each of them once. -/
structure Graph.Indexed (g : Graph) : Prop where
  distinct : (g.entries.map Entry.id).Nodup
  bucket_perm : ∀ p key, ((g.indexes.get p).bucket key).Perm
    (g.entries.filter fun e => (g.canon (e.statement.get p)).key == key)
  bucket_distinct : ∀ p key, (((g.indexes.get p).bucket key).map Entry.id).Nodup
  bucket_ne_nil : ∀ p key, key ∈ g.indexes.get p → (g.indexes.get p).bucket key ≠ []
  current : ∀ p key, key ∈ g.indexes.get p → ∃ t, g.canon t = t ∧ t.key = key

theorem Graph.WellFormed.indexed {g : Graph} (h : g.WellFormed) : g.Indexed where
  distinct := h.distinct
  bucket_perm := h.filed
  bucket_distinct := h.bucket_distinct
  bucket_ne_nil := by
    intro p key hk
    obtain ⟨es, hes⟩ := Option.isSome_iff_exists.mp (Std.ExtTreeMap.isSome_getElem?_iff_mem.mpr hk)
    rw [Index.bucket_eq, hes]
    exact h.filled p key es hes
  current := fun _ _ hk => h.current hk

namespace Store

def ofStatement (st : Statement) : Store := { bare with graph := (bare.graph.insert st).2 }

theorem actionsFor_bare (st : Statement) : bare.actionsFor st = [] := by
  have hnone : ∀ key, (Registry.get {} key : List Action) = [] := fun _ => rfl
  unfold actionsFor bare ofOptions
  simp [hnone]

theorem reachable_ofStatement (st : Statement) : (ofStatement st).Reachable := by
  refine .after (.start { builtinActions := false }) 0 (.add st) ?_
  change (StoreM.addWith (StoreM.apply 0) st >>= fun _ => pure ()) bare = _
  refine StoreM.bind_eq_some.mpr ⟨some (bare.graph.insert st).1, _, ?_, rfl⟩
  refine StoreM.bind_eq_some.mpr ⟨bare, bare, rfl, ?_⟩
  rw [actionsFor_bare]
  rfl

theorem Reachable.equate {s : Store} (h : s.Reachable) (a b : Term) : (s.equate a b).Reachable :=
  .after h 0 (.equate a b) rfl

/-- Through merges, removals and whatever actions do in the middle of an operation, the indexes
list what they should. No operation changes an entry or the order of the entries that it leaves,
and merging two terms leaves them all. -/
theorem Reachable.indexed_and_kept {s : Store} (h : s.Reachable) :
    s.graph.Indexed ∧
    (∀ a b, (s.equate a b).graph.entries = s.graph.entries) ∧
    (∀ levels (op : Operation) t, op.run levels s = some ((), t) → s.graph.Keeps t.graph) ∧
    ∀ levels p t suppressed, StoreM.runWith (StoreM.apply levels) p s = some (suppressed, t) →
      t.Reachable ∧ s.graph.Keeps t.graph := by
  refine ⟨h.wellFormed.indexed, entries_equate s, fun levels op t hrun => ?_,
    fun levels p t suppressed hrun => ⟨?_, ?_⟩⟩
  · obtain ⟨cs, hcs⟩ := op.run_byChanges levels h.wellFormed hrun
    exact hcs.keeps
  · exact StoreM.runWith_staysReachable levels p h hrun
  · have happly := StoreM.apply_byChanges levels
    obtain ⟨cs, hcs⟩ := StoreM.runWith_byChanges happly p h.wellFormed hrun
    exact hcs.keeps

theorem indexed_and_kept_after_equate :
    let s := (ofStatement ⟨.named "a", .named "p", .named "b", .named "g"⟩).equate
      (.named "a") (.named "b")
    s.Reachable ∧ s.graph.Indexed ∧
    (∀ a b, (s.equate a b).graph.entries = s.graph.entries) ∧
    (∀ levels (op : Operation) t, op.run levels s = some ((), t) → s.graph.Keeps t.graph) ∧
    ∀ levels p t suppressed, StoreM.runWith (StoreM.apply levels) p s = some (suppressed, t) →
      t.Reachable ∧ s.graph.Keeps t.graph :=
  have h := (reachable_ofStatement ⟨.named "a", .named "p", .named "b", .named "g"⟩).equate _ _
  ⟨h, h.indexed_and_kept⟩

/-! ## Looking statements up in a reachable store -/

/-- What is found for a pattern is what a scan of the whole list finds, in the order of the list
until terms are merged; the other ways to ask are about the same entries. -/
theorem Reachable.matching_eq_scan {s : Store} (h : s.Reachable) (m : Mask) :
    (s.graph.matching m).Perm (s.graph.entries.filter (s.graph.meets m)) ∧
    (s.graph.Unmerged → s.graph.matching m = s.graph.entries.filter (s.graph.meets m)) ∧
    s.graph.firstMatching? m = (s.graph.matching m).head? ∧
    (s.graph.holds m = true ↔ s.graph.matching m ≠ []) ∧
    s.graph.count m = (s.graph.matching m).length ∧
    s.graph.any? m = (s.graph.each m).head? ∧
    s.graph.the? m = (s.graph.each m).head? := by
  have hwf := h.wellFormed
  refine ⟨hwf.matching_perm m, fun hun => hwf.matching_eq_filter hun m,
    Graph.firstMatching?_eq m, ?_, rfl, Graph.any?_eq m, rfl⟩
  rw [Graph.holds_eq]
  simp

theorem matching_eq_scan_around_equate :
    let m : Mask := ⟨some (.named "b"), some (.named "p"), none, none⟩
    let s := ofStatement ⟨.named "a", .named "p", .named "b", .named "g"⟩
    let t := s.equate (.named "a") (.named "b")
    (s.Reachable ∧ s.graph.Unmerged ∧ s.graph.matching m = s.graph.entries.filter (s.graph.meets m)) ∧
    t.Reachable ∧ (t.graph.matching m).Perm (t.graph.entries.filter (t.graph.meets m)) ∧
      t.graph.firstMatching? m = (t.graph.matching m).head? := by
  intro m s t
  have hs := reachable_ofStatement ⟨.named "a", .named "p", .named "b", .named "g"⟩
  have ht : t.Reachable := hs.equate _ _
  have hun : s.graph.Unmerged := (hs.wellFormed.unmerged_iff).mpr (by rfl)
  obtain ⟨hperm, -, hfirst, -⟩ := ht.matching_eq_scan m
  exact ⟨⟨hs, hun, (hs.matching_eq_scan m).2.1 hun⟩, ht, hperm, hfirst⟩

end Store

end QuadGraph
