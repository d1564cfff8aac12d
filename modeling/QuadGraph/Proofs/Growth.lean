import QuadGraph.Proofs.Reachable
import QuadGraph.Query.Execution

/-!
# Stores that only grow

The built-in actions merge terms and register one another; none of them removes anything. So while
no other actions are registered, whatever is added, merged or fetched leaves every entry where it was
and parts no two terms that are alike (`StoreM.addWith_adds`, `Execution.checkDocuments_adds`). None of
them asks for anything either, so what is added to such a store ends (`StoreM.addAll_ends`).
-/

namespace QuadGraph

/-! ## Growing graphs -/

structure Graph.Grows (g g' : Graph) : Prop where
  entries : ∀ e ∈ g.entries, e ∈ g'.entries
  alike : ∀ t u : Term, g.alike t u = true → g'.alike t u = true

namespace Graph.Grows

variable {g g' g'' : Graph}

theorem refl (g : Graph) : g.Grows g := ⟨fun _ h => h, fun _ _ h => h⟩

theorem trans (h : g.Grows g') (h' : g'.Grows g'') : g.Grows g'' :=
  ⟨fun e he => h'.entries e (h.entries e he), fun t u htu => h'.alike t u (h.alike t u htu)⟩

theorem insert (g : Graph) (st : Statement) : g.Grows (g.insert st).2 :=
  ⟨fun _ he => List.mem_append_left _ he, fun _ _ h => h⟩

theorem equate {s : Store} (h : s.graph.WellFormed) (a b : Term) :
    s.graph.Grows (s.equate a b).graph := by
  refine ⟨fun e he => by rw [Store.entries_equate]; exact he, fun t u htu => ?_⟩
  unfold Store.equate
  split
  case h_1 => exact htu
  case h_2 big small hmerge =>
    have hkeys : s.graph.canonKey t = s.graph.canonKey u := beq_iff_eq.mp htu
    have hcanon := Store.canon_redirect h hmerge
    rw [Graph.alike, beq_iff_eq, Graph.canonKey, Graph.canonKey, hcanon, hcanon, hkeys]
    split
    · rfl
    · exact hkeys

end Graph.Grows

/-! ## Built-in actions -/

/-- A functional property has one value for each subject, an inverse functional one for each object. -/
inductive Sense where
  | functional
  | inverse

namespace Sense

def key : Sense → Position
  | .functional => .subject
  | .inverse => .object

def value : Sense → Position
  | .functional => .object
  | .inverse => .subject

def type : Sense → Term
  | .functional => .named Owl.functionalProperty
  | .inverse => .named Owl.inverseFunctionalProperty

def action : Sense → Action
  | .functional => Action.functional
  | .inverse => Action.inverseFunctional

def typeAction : Sense → Action
  | .functional => Action.functionalClass
  | .inverse => Action.inverseFunctionalClass

def mask (σ : Sense) (st : Statement) : Mask :=
  match σ with
  | .functional => ⟨some st.subject, some st.predicate, none, none⟩
  | .inverse => ⟨none, some st.predicate, some st.object, none⟩

theorem action_eq (σ : Sense) (st : Statement) : σ.action st =
    .look fun g => match g.any? (σ.mask st) with
      | none => .done false
      | some known =>
        if (g.canon known).same (st.get σ.value) then .done false
        else .equate known (st.get σ.value) (.done true) := by
  cases σ <;> rfl

theorem typeAction_eq (σ : Sense) (st : Statement) :
    σ.typeAction st = .onProperty st.subject σ.action fun _ => .done false := by
  cases σ <;> rfl

end Sense

inductive Action.Builtin : Action → Prop
  | sameAs : Builtin Action.sameAs
  | functional : Builtin Action.functional
  | inverseFunctional : Builtin Action.inverseFunctional
  | functionalClass : Builtin Action.functionalClass
  | inverseFunctionalClass : Builtin Action.inverseFunctionalClass

namespace Registry

variable {α : Type} {r : Registry α} {a x : α} {key k source target : String}

theorem get_register (r : Registry α) (key : String) (x : α) (k : String) :
    (r.register key x).get k = if k = key then r.get k ++ [x] else r.get k :=
  getD_append r.table key [x] k

theorem get_migrate (r : Registry α) (hne : source ≠ target) (k : String) :
    (r.migrate source target).get k =
      if k = target then r.get target ++ r.get source
      else if k = source then [] else r.get k := by
  refine getD_moved r.table (fun hnone => ?_) (fun moved hmoved => ?_) hne k
  · rw [migrate, hnone]
  · rw [migrate, hmoved]
    rfl

theorem mem_get_register : a ∈ (r.register key x).get k ↔ a ∈ r.get k ∨ (k = key ∧ a = x) := by
  rw [get_register]
  by_cases hk : k = key <;> simp [hk]

theorem mem_get_migrate (hne : source ≠ target) (h : a ∈ (r.migrate source target).get k) :
    a ∈ r.get k ∨ (k = target ∧ a ∈ r.get source) := by
  rw [get_migrate r hne] at h
  split at h
  case isTrue hk =>
    subst hk
    rcases List.mem_append.mp h with h | h
    · exact .inl h
    · exact .inr ⟨rfl, h⟩
  case isFalse =>
    split at h
    · cases h
    · exact .inl h

end Registry

namespace Store

structure Builtin (s : Store) : Prop where
  property : ∀ key, ∀ a ∈ s.propertyActions.get key, a.Builtin
  type : ∀ key, ∀ a ∈ s.classActions.get key, a.Builtin

theorem Builtin.actionsFor {s : Store} (h : s.Builtin) {st : Statement} {a : Action}
    (ha : a ∈ s.actionsFor st) : a.Builtin := by
  rw [Store.actionsFor, List.mem_append] at ha
  rcases ha with ha | ha
  · exact h.property _ a ha
  · split at ha
    · exact h.type _ a ha
    · cases ha

/-- What a merge does to a registry: all that is under the key given up goes to the other one. -/
def moved {α : Type} (s : Store) (a b : Term) (r : Registry α) : Registry α :=
  match Graph.mergeOrder? (s.graph.canon a) (s.graph.canon b) with
  | none => r
  | some (big, small) => r.migrate big.key small.key

theorem propertyActions_equate (s : Store) (a b : Term) :
    (s.equate a b).propertyActions = s.moved a b s.propertyActions := by
  unfold equate moved
  cases Graph.mergeOrder? (s.graph.canon a) (s.graph.canon b) <;> rfl

theorem classActions_equate (s : Store) (a b : Term) :
    (s.equate a b).classActions = s.moved a b s.classActions := by
  unfold equate moved
  cases Graph.mergeOrder? (s.graph.canon a) (s.graph.canon b) <;> rfl

theorem exists_get_of_moved {α : Type} {s : Store} {a b : Term} {r : Registry α} {x : α}
    {key : String} (h : x ∈ (s.moved a b r).get key) : ∃ k, x ∈ r.get k := by
  unfold moved at h
  split at h
  case h_1 => exact ⟨key, h⟩
  case h_2 hmerge =>
    rcases Registry.mem_get_migrate (mergeOrder?_key_ne hmerge) h with h | ⟨-, h⟩
    · exact ⟨_, h⟩
    · exact ⟨_, h⟩

theorem Builtin.equate {s : Store} (h : s.Builtin) (a b : Term) : (s.equate a b).Builtin where
  property := by
    intro key x hx
    rw [propertyActions_equate] at hx
    obtain ⟨k, hk⟩ := exists_get_of_moved hx
    exact h.property k x hk
  type := by
    intro key x hx
    rw [classActions_equate] at hx
    obtain ⟨k, hk⟩ := exists_get_of_moved hx
    exact h.type k x hk

structure Grows (s t : Store) : Prop where
  wellFormed : t.graph.WellFormed
  builtin : t.Builtin
  graph : s.graph.Grows t.graph

theorem Grows.refl {s : Store} (hwf : s.graph.WellFormed) (h : s.Builtin) : s.Grows s :=
  ⟨hwf, h, .refl _⟩

theorem Grows.trans {s t u : Store} (h : s.Grows t) (h' : t.Grows u) : s.Grows u :=
  ⟨h'.wellFormed, h'.builtin, h.graph.trans h'.graph⟩

theorem grows_equate {s : Store} (hwf : s.graph.WellFormed) (h : s.Builtin) (a b : Term) :
    s.Grows (s.equate a b) :=
  ⟨wellFormed_equate hwf a b, h.equate a b, .equate hwf a b⟩

theorem builtin_ofOptions (options : StoreOptions) : (ofOptions options).Builtin := by
  have hempty : ∀ {a : Action} {key : String}, a ∉ (Registry.empty : Registry Action).get key := by
    intro a key
    simp [Registry.get, Registry.empty]
  refine ⟨fun key a ha => ?_, fun key a ha => ?_⟩
  · rw [ofOptions] at ha
    split at ha
    · rcases Registry.mem_get_register.mp ha with ha | ⟨-, rfl⟩
      · exact absurd ha hempty
      · exact .sameAs
    · exact absurd ha hempty
  · rw [ofOptions] at ha
    split at ha
    · rcases Registry.mem_get_register.mp ha with ha | ⟨-, rfl⟩
      · rcases Registry.mem_get_register.mp ha with ha | ⟨-, rfl⟩
        · exact absurd ha hempty
        · exact .functionalClass
      · exact .inverseFunctionalClass
    · exact absurd ha hempty

end Store

/-! ## Operations that add -/

namespace StoreM

variable {α β : Type}

def Adds (m : StoreM α) : Prop :=
  ∀ ⦃s t : Store⦄ ⦃a : α⦄, s.graph.WellFormed → s.Builtin → m s = some (a, t) → s.Grows t

namespace Adds

theorem pure (a : α) : Adds (pure a : StoreM α) := by
  intro s t b hwf hs hrun
  obtain ⟨-, rfl⟩ := Prod.mk.inj (Option.some.inj hrun)
  exact .refl hwf hs

theorem bind {m : StoreM α} {f : α → StoreM β} (hm : Adds m) (hf : ∀ a, Adds (f a)) :
    Adds (m >>= f) := by
  intro s t b hwf hs hrun
  obtain ⟨a, u, hmu, hft⟩ := bind_eq_some.mp hrun
  have hfirst := hm hwf hs hmu
  exact hfirst.trans (hf a hfirst.wellFormed hfirst.builtin hft)

theorem bindGet {f : Store → StoreM β} (hf : ∀ s : Store, s.Builtin → Adds (f s)) :
    Adds (get >>= f) := by
  intro s t b hwf hs hrun
  obtain ⟨a, u, hget, hft⟩ := bind_eq_some.mp hrun
  obtain ⟨rfl, rfl⟩ := Prod.mk.inj (Option.some.inj hget)
  exact hf s hs hwf hs hft

theorem modifyGet {f : Store → α × Store}
    (hf : ∀ s : Store, s.graph.WellFormed → s.Builtin → s.Grows (f s).2) :
    Adds (modifyGet f : StoreM α) := by
  intro s t b hwf hs hrun
  obtain ⟨-, rfl⟩ := Prod.mk.inj (Option.some.inj hrun)
  exact hf s hwf hs

theorem equate (a b : Term) : Adds (modify fun s => s.equate a b) :=
  modifyGet fun _ hwf hs => Store.grows_equate hwf hs a b

end Adds

section
variable {apply : Action → Statement → StoreM Bool}
  (happly : ∀ a, a.Builtin → ∀ st, Adds (apply a st))
include happly

theorem applyAll_adds (as : List Action) (has : ∀ a ∈ as, a.Builtin) (st : Statement) :
    Adds (applyAll apply as st) := by
  induction as with
  | nil => exact .pure false
  | cons a as ih =>
    rw [List.forall_mem_cons] at has
    exact .bind (happly a has.1 st) fun _ => .bind (ih has.2) fun _ => .pure _

theorem applyToEach_adds {a : Action} (ha : a.Builtin) (es : List Entry) :
    Adds (applyToEach apply a es) := by
  induction es with
  | nil => exact .pure false
  | cons e es ih =>
    exact .bindGet fun s _ => .bind (happly a ha _) fun _ => .bind ih fun _ => .pure _

theorem addWith_adds (st : Statement) : Adds (addWith apply st) := by
  refine .bindGet fun s hs => .bind (applyAll_adds happly _ (fun a => hs.actionsFor) _)
    fun suppressed => ?_
  cases suppressed with
  | true => exact .pure none
  | false => exact .modifyGet fun s hwf hs => ⟨hwf.insert st, ⟨hs.property, hs.type⟩, .insert _ st⟩

theorem onPropertyWith_adds {a : Action} (ha : a.Builtin) (predicate : Term) :
    Adds (onPropertyWith apply predicate a) := by
  refine .bind (.modifyGet fun s hwf hs => ⟨hwf, ⟨fun key x hx => ?_, hs.type⟩, .refl _⟩) fun _ =>
    .bindGet fun s _ => applyToEach_adds happly ha _
  rcases Registry.mem_get_register.mp hx with hx | ⟨-, rfl⟩
  · exact hs.property key x hx
  · exact ha

omit happly in
theorem action_adds (σ : Sense) (st : Statement) : Adds (runWith apply (σ.action st)) := by
  rw [σ.action_eq]
  refine .bindGet fun s _ => ?_
  beta_reduce
  split
  · exact .pure false
  · split
    · exact .pure false
    · exact .bind (.equate _ _) fun _ => .pure true

theorem typeAction_adds (σ : Sense) (hσ : σ.action.Builtin) (st : Statement) :
    Adds (runWith apply (σ.typeAction st)) := by
  rw [σ.typeAction_eq]
  exact .bind (onPropertyWith_adds happly hσ _) fun _ => .pure false

theorem runWith_adds {a : Action} (ha : a.Builtin) (st : Statement) :
    Adds (runWith apply (a st)) := by
  cases ha with
  | sameAs => exact .bind (.equate _ _) fun _ => .pure true
  | functional => exact action_adds .functional st
  | inverseFunctional => exact action_adds .inverse st
  | functionalClass => exact typeAction_adds happly .functional .functional st
  | inverseFunctionalClass => exact typeAction_adds happly .inverse .inverseFunctional st

end

theorem apply_adds (levels : Nat) (a : Action) (ha : a.Builtin) (st : Statement) :
    Adds (apply levels a st) := by
  induction levels generalizing a st with
  | zero => exact fun s t b _ _ hrun => nomatch hrun
  | succ levels ih => exact runWith_adds (fun a ha st => ih a ha st) ha st

theorem add_adds (levels : Nat) (st : Statement) : Adds (add levels st) :=
  addWith_adds (apply_adds levels) st

theorem addAll_adds (levels : Nat) (sts : List Statement) : Adds (addAll levels sts) := by
  induction sts with
  | nil => exact .pure 0
  | cons st sts ih => exact .bind (add_adds levels st) fun _ => .bind ih fun _ => .pure _

/-! ## Additions end -/

def Ends (m : StoreM α) : Prop := ∀ s : Store, ∃ a t, m s = some (a, t)

namespace Ends

theorem pure (a : α) : Ends (pure a : StoreM α) := fun s => ⟨a, s, rfl⟩

theorem bind {m : StoreM α} {f : α → StoreM β} (hm : Ends m) (hf : ∀ a, Ends (f a)) :
    Ends (m >>= f) := by
  intro s
  obtain ⟨a, t, hmt⟩ := hm s
  obtain ⟨b, u, hfu⟩ := hf a t
  exact ⟨b, u, bind_eq_some.mpr ⟨a, t, hmt, hfu⟩⟩

theorem get : Ends (get : StoreM Store) := fun s => ⟨s, s, rfl⟩

theorem modifyGet (f : Store → α × Store) : Ends (modifyGet f : StoreM α) :=
  fun s => ⟨(f s).1, (f s).2, rfl⟩

end Ends

theorem applyToEach_ends {apply : Action → Statement → StoreM Bool} {a : Action}
    (happly : ∀ st, Ends (apply a st)) (es : List Entry) : Ends (applyToEach apply a es) := by
  induction es with
  | nil => exact .pure false
  | cons e es ih =>
    exact .bind .get fun s => .bind (happly _) fun _ => .bind ih fun _ => .pure _

theorem action_ends (levels : Nat) (σ : Sense) (st : Statement) :
    Ends (apply (levels + 1) σ.action st) := by
  rw [apply, σ.action_eq]
  refine .bind .get fun s => ?_
  beta_reduce
  split
  · exact .pure false
  · split
    · exact .pure false
    · exact .bind (.modifyGet _) fun _ => .pure true

/-- The action of a class runs that of a property, which runs none. -/
theorem typeAction_ends (levels : Nat) (σ : Sense) (st : Statement) :
    Ends (apply (levels + 2) σ.typeAction st) := by
  rw [apply, σ.typeAction_eq]
  refine .bind (.bind (.modifyGet _) fun _ => .bind .get fun s => ?_) fun _ => .pure false
  exact applyToEach_ends (action_ends levels σ) _

theorem apply_ends (levels : Nat) {a : Action} (ha : a.Builtin) (st : Statement) :
    Ends (apply (levels + 2) a st) := by
  cases ha with
  | sameAs => exact .bind (.modifyGet _) fun _ => .pure true
  | functional => exact action_ends (levels + 1) .functional st
  | inverseFunctional => exact action_ends (levels + 1) .inverse st
  | functionalClass => exact typeAction_ends levels .functional st
  | inverseFunctionalClass => exact typeAction_ends levels .inverse st

theorem applyAll_ends (levels : Nat) {as : List Action} (has : ∀ a ∈ as, a.Builtin)
    (st : Statement) : Ends (applyAll (apply (levels + 2)) as st) := by
  induction as with
  | nil => exact .pure false
  | cons a as ih =>
    rw [List.forall_mem_cons] at has
    exact .bind (apply_ends levels has.1 st) fun _ => .bind (ih has.2) fun _ => .pure _

theorem add_ends (levels : Nat) (st : Statement) {s : Store} (hs : s.Builtin) :
    ∃ e t, add (levels + 2) st s = some (e, t) := by
  obtain ⟨suppressed, u, hall⟩ :=
    applyAll_ends levels (fun a => hs.actionsFor) (s.graph.canonStatement st) s
  have hget : (get : StoreM Store) s = some (s, s) := rfl
  cases suppressed with
  | true =>
    exact ⟨none, u, bind_eq_some.mpr ⟨s, s, hget, bind_eq_some.mpr ⟨true, u, hall, rfl⟩⟩⟩
  | false =>
    exact ⟨some (u.graph.insert st).1, { u with graph := (u.graph.insert st).2 },
      bind_eq_some.mpr ⟨s, s, hget, bind_eq_some.mpr ⟨false, u, hall, rfl⟩⟩⟩

theorem addAll_ends (levels : Nat) (sts : List Statement) {s : Store} (hwf : s.graph.WellFormed)
    (hs : s.Builtin) : ∃ n t, addAll (levels + 2) sts s = some (n, t) := by
  induction sts generalizing s with
  | nil => exact ⟨0, s, rfl⟩
  | cons st sts ih =>
    obtain ⟨e, u, hadd⟩ := add_ends levels st hs
    have hgrows := add_adds (levels + 2) st hwf hs hadd
    obtain ⟨n, t, hall⟩ := ih hgrows.wellFormed hgrows.builtin
    exact ⟨_, t, bind_eq_some.mpr ⟨e, u, hadd, bind_eq_some.mpr ⟨n, t, hall, rfl⟩⟩⟩

end StoreM

/-! ## Fetching -/

theorem MemoryFetcher.complete_adds (levels : Nat) (f : MemoryFetcher) (document : Term) :
    StoreM.Adds (f.complete levels document) := by
  unfold complete
  split
  · exact .pure _
  · exact .bind (StoreM.addAll_adds levels _) fun _ => .pure _

theorem MemoryFetcher.fetch_adds (levels : Nat) (f : MemoryFetcher) (document : Term) :
    StoreM.Adds (f.fetch levels document) := by
  cases hdeferred : f.deferred with
  | true =>
    simp only [fetch, hdeferred, if_true]
    exact .pure _
  | false =>
    simp only [fetch, hdeferred, Bool.false_eq_true, if_false]
    exact complete_adds levels _ document

def Fetcher.OnlyAdds (φ : Type) [Fetcher φ] : Prop :=
  ∀ (levels : Nat) (f : φ) (document requestedBy : Term),
    StoreM.Adds (Fetcher.fetch levels f document requestedBy)

theorem MemoryFetcher.onlyAdds : Fetcher.OnlyAdds MemoryFetcher :=
  fun levels f document _ => f.fetch_adds levels document

theorem NoDocuments.onlyAdds : Fetcher.OnlyAdds NoDocuments := fun _ _ _ _ => .pure _

theorem Execution.checkDocuments_adds {φ : Type} [Fetcher φ] (h : Fetcher.OnlyAdds φ) (levels : Nat)
    (f : φ) (ts : List Term) : StoreM.Adds (checkDocuments levels f ts) := by
  induction ts with
  | nil => exact .pure _
  | cons t ts ih =>
    rw [checkDocuments]
    split
    · exact ih
    · split
      · exact ih
      · exact ih
      · exact .pure _
      · exact .bind (h levels f _ t) fun _ => .pure _

end QuadGraph
