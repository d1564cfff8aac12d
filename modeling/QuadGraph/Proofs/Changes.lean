import QuadGraph.Proofs.Lookup
import QuadGraph.Store.Run

/-!
# Operations as changes

Whatever an operation does to a store, with all the actions that it sets off and those that these
set off in turn, is a list of single changes (`StoreM.apply_byChanges`). So what each change keeps
every operation keeps: well-formed graphs stay so (`Evolves.wellFormed`), and the entries of a
graph stay as they are, in their order, until they are dropped (`Evolves.keeps`).
-/

namespace QuadGraph

inductive Change where
  | insert (st : Statement)
  | drop (e : Entry)
  | equate (a b : Term)
  | onProperty (predicate : Term) (a : Action)
  | onClass (type : Term) (a : Action)
  | fresh
  | note (label : String) (st : Statement)

namespace Store

def change (s : Store) : Change → Store
  | .insert st => { s with graph := (s.graph.insert st).2 }
  | .drop e => { s with graph := s.graph.drop e }
  | .equate a b => s.equate a b
  | .onProperty predicate a =>
    { s with propertyActions := s.propertyActions.register (s.graph.canonKey predicate) a }
  | .onClass type a =>
    { s with classActions := s.classActions.register (s.graph.canonKey type) a }
  | .fresh => s.fresh.2
  | .note label st => s.addNote label st

def Allows (s : Store) : Change → Prop
  | .drop e => e ∈ s.graph.entries
  | _ => True

inductive Evolves : Store → List Change → Store → Prop
  | nil (s : Store) : Evolves s [] s
  | cons {s t : Store} {c : Change} {cs : List Change} (hc : s.Allows c)
      (hcs : Evolves (s.change c) cs t) : Evolves s (c :: cs) t

theorem Evolves.append {s t u : Store} {cs ds : List Change} (hs : s.Evolves cs t)
    (ht : t.Evolves ds u) : s.Evolves (cs ++ ds) u := by
  induction hs with
  | nil s => exact ht
  | cons hc _ ih => exact .cons hc (ih ht)

theorem Evolves.single {s : Store} {c : Change} (hc : s.Allows c) : s.Evolves [c] (s.change c) :=
  .cons hc (.nil _)

/-! ## Graphs stay well-formed -/

theorem mergeOrder?_key_ne {a b big small : Term}
    (h : Graph.mergeOrder? a b = some (big, small)) : big.key ≠ small.key := by
  unfold Graph.mergeOrder? at h
  intro hkey
  split at h
  case h_1 => cases h
  case h_2 hlt =>
    obtain ⟨rfl, rfl⟩ := Prod.mk.inj (Option.some.inj h)
    rw [Term.cmp_eq_iff_key.mpr hkey.symm] at hlt
    cases hlt
  case h_3 hgt =>
    obtain ⟨rfl, rfl⟩ := Prod.mk.inj (Option.some.inj h)
    rw [Term.cmp_eq_iff_key.mpr hkey] at hgt
    cases hgt

theorem mergeOrder?_mem {a b big small : Term}
    (h : Graph.mergeOrder? a b = some (big, small)) :
    (big = a ∧ small = b) ∨ (big = b ∧ small = a) := by
  unfold Graph.mergeOrder? at h
  split at h
  case h_1 => cases h
  case h_2 =>
    obtain ⟨rfl, rfl⟩ := Prod.mk.inj (Option.some.inj h)
    exact .inr ⟨rfl, rfl⟩
  case h_3 =>
    obtain ⟨rfl, rfl⟩ := Prod.mk.inj (Option.some.inj h)
    exact .inl ⟨rfl, rfl⟩

/-- Merging puts what stays in the place of what is merged away. -/
theorem canon_redirect {g : Graph} (h : g.WellFormed) {a b big small : Term}
    (hmerge : Graph.mergeOrder? (g.canon a) (g.canon b) = some (big, small)) (t : Term) :
    (g.redirect big small).canon t = if g.canonKey t = big.key then small else g.canon t := by
  have ha := h.flat.redirections_find a
  have hb := h.flat.redirections_find b
  rcases mergeOrder?_mem hmerge with ⟨rfl, rfl⟩ | ⟨rfl, rfl⟩
  · exact h.flat.find_union ha hb (mergeOrder?_key_ne hmerge) t
  · exact h.flat.find_union hb ha (mergeOrder?_key_ne hmerge) t

theorem wellFormed_equate {s : Store} (h : s.graph.WellFormed) (a b : Term) :
    (s.equate a b).graph.WellFormed := by
  unfold equate
  split
  case h_1 => exact h
  case h_2 big small hmerge =>
    have ha := h.flat.redirections_find a
    have hb := h.flat.redirections_find b
    rcases mergeOrder?_mem hmerge with ⟨rfl, rfl⟩ | ⟨rfl, rfl⟩
    · exact h.redirect ha hb (mergeOrder?_key_ne hmerge)
    · exact h.redirect hb ha (mergeOrder?_key_ne hmerge)

theorem wellFormed_change {s : Store} (h : s.graph.WellFormed) {c : Change} (hc : s.Allows c) :
    (s.change c).graph.WellFormed := by
  cases c with
  | insert st => exact h.insert st
  | drop e => exact h.drop hc
  | equate a b => exact wellFormed_equate h a b
  | onProperty predicate a => exact h
  | onClass type a => exact h
  | fresh => exact h
  | note label st => exact h

theorem Evolves.wellFormed {s t : Store} {cs : List Change} (he : s.Evolves cs t)
    (h : s.graph.WellFormed) : t.graph.WellFormed := by
  induction he with
  | nil s => exact h
  | cons hc _ ih => exact ih (wellFormed_change h hc)

end Store

/-! ## Entries are kept -/

/-- The entries of the second graph are entries of the first, with the same statements and in the
same order, followed by entries made since. -/
structure Graph.Keeps (g g' : Graph) : Prop where
  nextId_le : g.nextId ≤ g'.nextId
  entries : ∃ kept added, g'.entries = kept ++ added ∧ kept.Sublist g.entries ∧
    ∀ e ∈ added, g.nextId ≤ e.id

theorem Graph.Keeps.of_eq {g g' : Graph} (hid : g'.nextId = g.nextId)
    (h : g'.entries = g.entries) : g.Keeps g' := by
  refine ⟨Nat.le_of_eq hid.symm, g'.entries, [], by simp, ?_, by simp⟩
  rw [h]

theorem Graph.Keeps.trans {g g' g'' : Graph} (h : g.Keeps g') (h' : g'.Keeps g'') :
    g.Keeps g'' := by
  obtain ⟨hid, kept, added, heq, hsub, hnew⟩ := h
  obtain ⟨hid', kept', added', heq', hsub', hnew'⟩ := h'
  rw [heq] at hsub'
  obtain ⟨a, b, rfl, ha, hb⟩ := List.sublist_append_iff.mp hsub'
  refine ⟨Nat.le_trans hid hid', a, b ++ added', by rw [heq', List.append_assoc], ha.trans hsub, ?_⟩
  intro e he
  rcases List.mem_append.mp he with he | he
  · exact hnew e (hb.subset he)
  · exact Nat.le_trans hid (hnew' e he)

namespace Store

theorem entries_equate (s : Store) (a b : Term) : (s.equate a b).graph.entries = s.graph.entries := by
  unfold equate
  split <;> rfl

theorem nextId_equate (s : Store) (a b : Term) : (s.equate a b).graph.nextId = s.graph.nextId := by
  unfold equate
  split <;> rfl

theorem keeps_change (s : Store) (c : Change) : s.graph.Keeps (s.change c).graph := by
  cases c with
  | insert st =>
    refine ⟨Nat.le_succ _, s.graph.entries, [⟨s.graph.nextId, st⟩], rfl, .refl _, ?_⟩
    intro e he
    obtain rfl := List.mem_singleton.mp he
    exact Nat.le_refl _
  | drop e =>
    refine ⟨Nat.le_refl _, (s.graph.drop e).entries, [], (List.append_nil _).symm, ?_, by simp⟩
    exact List.eraseP_sublist
  | equate a b => exact .of_eq (nextId_equate s a b) (entries_equate s a b)
  | onProperty predicate a => exact .of_eq rfl rfl
  | onClass type a => exact .of_eq rfl rfl
  | fresh => exact .of_eq rfl rfl
  | note label st => exact .of_eq rfl rfl

theorem Evolves.keeps {s t : Store} {cs : List Change} (he : s.Evolves cs t) :
    s.graph.Keeps t.graph := by
  induction he with
  | nil s => exact .of_eq rfl rfl
  | cons _ _ ih => exact (keeps_change _ _).trans ih

end Store

/-! ## What operations are made of -/

namespace StoreM

theorem bind_eq_some {α β : Type} {m : StoreM α} {f : α → StoreM β} {s t : Store} {b : β} :
    (m >>= f) s = some (b, t) ↔ ∃ a u, m s = some (a, u) ∧ f a u = some (b, t) := by
  change (m s).bind (fun r => f r.1 r.2) = some (b, t) ↔ _
  rw [Option.bind_eq_some_iff, Prod.exists]

def ByChanges {α : Type} (m : StoreM α) : Prop :=
  ∀ ⦃s t : Store⦄ ⦃a : α⦄, s.graph.WellFormed → m s = some (a, t) → ∃ cs, s.Evolves cs t

namespace ByChanges

variable {α β : Type}

theorem pure (a : α) : ByChanges (pure a : StoreM α) := by
  intro s t b _ hrun
  obtain ⟨-, rfl⟩ := Prod.mk.inj (Option.some.inj hrun)
  exact ⟨[], .nil s⟩

theorem endless : ByChanges (endless : StoreM α) := by
  intro s t b _ hrun
  cases hrun

theorem bind {m : StoreM α} {f : α → StoreM β} (hm : ByChanges m) (hf : ∀ a, ByChanges (f a)) :
    ByChanges (m >>= f) := by
  intro s t b hs hrun
  obtain ⟨a, u, hmu, hft⟩ := bind_eq_some.mp hrun
  obtain ⟨cs, hcs⟩ := hm hs hmu
  obtain ⟨ds, hds⟩ := hf a (hcs.wellFormed hs) hft
  exact ⟨cs ++ ds, hcs.append hds⟩

theorem get : ByChanges (get : StoreM Store) := by
  intro s t b _ hrun
  obtain ⟨-, rfl⟩ := Prod.mk.inj (Option.some.inj hrun)
  exact ⟨[], .nil s⟩

theorem modifyGet {f : Store → α × Store}
    (hf : ∀ s : Store, s.graph.WellFormed → ∃ cs, s.Evolves cs (f s).2) :
    ByChanges (modifyGet f : StoreM α) := by
  intro s t b hs hrun
  obtain ⟨-, rfl⟩ := Prod.mk.inj (Option.some.inj hrun)
  exact hf s hs

theorem modify {f : Store → Store} (c : Change) (hc : ∀ s : Store, s.Allows c)
    (hf : ∀ s, f s = s.change c) : ByChanges (modify f : StoreM PUnit) :=
  modifyGet fun s _ => ⟨[c], by rw [hf]; exact .single (hc s)⟩

end ByChanges

end StoreM

namespace Store

theorem find?_mem {s : Store} {target : Target} {e : Entry} (h : s.find? target = some e) :
    e ∈ s.graph.entries := by
  unfold find? at h
  cases target with
  | entry x =>
    rcases Option.or_eq_some_iff.mp h with h | ⟨-, h⟩
    · exact List.mem_of_find?_eq_some h
    · exact List.mem_of_find?_eq_some h
  | statement st => exact List.mem_of_find?_eq_some h

theorem evolves_remove {s t : Store} {target : Target} (h : s.remove? target = some t) :
    ∃ cs, s.Evolves cs t := by
  obtain ⟨e, he, rfl⟩ := Option.map_eq_some_iff.mp h
  exact ⟨[.drop e], .single (c := .drop e) (find?_mem he)⟩

theorem evolves_dropAll {s : Store} {es : List Entry} (hmem : ∀ e ∈ es, e ∈ s.graph.entries)
    (hes : (es.map Entry.id).Nodup) :
    s.Evolves (es.map Change.drop) { s with graph := es.foldl Graph.drop s.graph } := by
  induction es generalizing s with
  | nil => exact .nil s
  | cons e es ih =>
    rw [List.map_cons, List.nodup_cons] at hes
    refine .cons (hmem e (by simp)) (ih (fun x hx => ?_) hes.2)
    refine Graph.mem_drop (hmem x (by simp [hx])) fun hid => hes.1 ?_
    rw [← hid]
    exact List.mem_map_of_mem hx

theorem evolves_removeMany {s : Store} (h : s.graph.WellFormed) (mask : Mask)
    (limit : Option Nat) : ∃ cs, s.Evolves cs (s.removeMany mask limit).2 := by
  have htaken : ∀ n, ((s.graph.matching mask).take n).Sublist (s.graph.matching mask) :=
    fun n => List.take_sublist n _
  refine ⟨_, evolves_dropAll (fun e he => ?_) ?_⟩
  · exact h.mem_matching ((htaken _).subset he)
  · exact (h.matching_distinct mask).sublist ((htaken _).map Entry.id)

end Store

namespace StoreM

variable {apply : Action → Statement → StoreM Bool} (happly : ∀ a st, ByChanges (apply a st))
include happly

theorem applyAll_byChanges (as : List Action) (st : Statement) :
    ByChanges (applyAll apply as st) := by
  induction as with
  | nil => exact .pure false
  | cons a as ih => exact .bind (happly a st) fun _ => .bind ih fun _ => .pure _

theorem applyToEach_byChanges (a : Action) (es : List Entry) :
    ByChanges (applyToEach apply a es) := by
  induction es with
  | nil => exact .pure false
  | cons e es ih =>
    exact .bind .get fun s => .bind (happly a _) fun _ => .bind ih fun _ => .pure _

theorem addWith_byChanges (st : Statement) : ByChanges (addWith apply st) := by
  refine .bind .get fun s => .bind (applyAll_byChanges happly _ _) fun suppressed => ?_
  cases suppressed with
  | true => exact .pure none
  | false => exact .modifyGet fun s _ => ⟨[.insert st], .single trivial⟩

theorem onPropertyWith_byChanges (predicate : Term) (a : Action) :
    ByChanges (onPropertyWith apply predicate a) :=
  .bind (.modify (.onProperty predicate a) (fun _ => trivial) fun _ => rfl) fun _ =>
    .bind .get fun _ => applyToEach_byChanges happly a _

theorem onClassWith_byChanges (type : Term) (a : Action) :
    ByChanges (onClassWith apply type a) :=
  .bind (.modify (.onClass type a) (fun _ => trivial) fun _ => rfl) fun _ =>
    .bind .get fun _ => applyToEach_byChanges happly a _

/-- One case for each operation that a program can begin with. -/
theorem runWith_byChanges (p : Program) : ByChanges (runWith apply p) := by
  induction p with
  | done suppress => exact .pure suppress
  | look next ih => exact .bind .get fun s => ih s.graph
  | add st next ih => exact .bind (addWith_byChanges happly st) fun e => ih e
  | equate a b next ih =>
    exact .bind (.modify (.equate a b) (fun _ => trivial) fun _ => rfl) fun _ => ih
  | remove target next ih =>
    refine .bind (.modifyGet fun s _ => ?_) fun found => ih found
    cases hremove : s.remove? target with
    | none => exact ⟨[], .nil s⟩
    | some t => exact Store.evolves_remove hremove
  | removeMany mask limit next ih =>
    exact .bind (.modifyGet fun s hs => Store.evolves_removeMany hs mask limit) fun n => ih n
  | onProperty predicate action next _ ih =>
    exact .bind (onPropertyWith_byChanges happly predicate action) fun b => ih b
  | onClass type action next _ ih =>
    exact .bind (onClassWith_byChanges happly type action) fun b => ih b
  | fresh next ih => exact .bind (.modifyGet fun s _ => ⟨[.fresh], .single trivial⟩) fun t => ih t
  | note label st next ih =>
    exact .bind (.modify (.note label st) (fun _ => trivial) fun _ => rfl) fun _ => ih

omit happly in
/-- Actions come down to changes however deep they are nested. -/
theorem apply_byChanges (levels : Nat) (a : Action) (st : Statement) :
    ByChanges (StoreM.apply levels a st) := by
  induction levels generalizing a st with
  | zero => exact .endless
  | succ levels ih => exact runWith_byChanges ih (a st)

end StoreM

end QuadGraph
