import QuadGraph.Proofs.Reachable

/-!
# The events of an operation

An operation may set off actions, and these may operate on the store in turn. `Telling` runs an
operation and lists, in order, each single change that is made in its course and each action that is
applied. Whoever does not listen sees the plain operation (`Operation.mute_tell`), and the changes
told are what leads from the store before to the store after (`Operation.evolves_tell`).
-/

namespace QuadGraph

inductive Event where
  | changed (c : Change)
  | applied (a : Action) (st : Statement)

namespace Event

def change? : Event → Option Change
  | changed c => some c
  | applied _ _ => none

def changes (es : List Event) : List Change := es.filterMap change?

theorem changes_append (es ds : List Event) : changes (es ++ ds) = changes es ++ changes ds :=
  List.filterMap_append

theorem changes_map_changed (cs : List Change) : changes (cs.map changed) = cs := by
  induction cs with
  | nil => rfl
  | cons c cs ih => exact congrArg (c :: ·) ih

end Event

/-- A change of a store that also tells its events. -/
def Telling (α : Type) : Type := StoreM (α × List Event)

namespace Telling

variable {α β : Type}

instance : Monad Telling where
  pure a := (pure (a, []) : StoreM (_ × List Event))
  bind m f := fun s => do
    let ((a, es), t) ← m s
    let ((b, ds), u) ← f a t
    return ((b, es ++ ds), u)

def record (events : Store → List Event) (m : StoreM α) : Telling α :=
  fun s => (m s).map fun r => ((r.1, events s), r.2)

/-- Runs an operation without listening. -/
def mute (m : Telling α) : StoreM α := fun s => (m s).map fun r => (r.1.1, r.2)

/-! ## Operations, told -/

def applyAll (apply : Action → Statement → Telling Bool) : List Action → Statement → Telling Bool
  | [], _ => pure false
  | a :: as, st => do
    let first ← apply a st
    let others ← applyAll apply as st
    return first || others

def applyToEach (apply : Action → Statement → Telling Bool) (a : Action) :
    List Entry → Telling Bool
  | [] => pure false
  | e :: es => do
    let s ← record (fun _ => []) get
    let first ← apply a (s.graph.canonStatement e.statement)
    let others ← applyToEach apply a es
    return first || others

def addWith (apply : Action → Statement → Telling Bool) (st : Statement) :
    Telling (Option Entry) := do
  let s ← record (fun _ => []) get
  let canonical := s.graph.canonStatement st
  let suppressed ← applyAll apply (s.actionsFor canonical) canonical
  if suppressed then return none
  record (fun _ => [.changed (.insert st)]) (modifyGet fun s =>
    let (e, graph) := s.graph.insert st
    (some e, { s with graph }))

def make (c : Change) : Telling Unit :=
  record (fun _ => [.changed c]) (modify fun s => s.change c)

def onPropertyWith (apply : Action → Statement → Telling Bool) (predicate : Term) (a : Action) :
    Telling Bool := do
  make (.onProperty predicate a)
  let s ← record (fun _ => []) get
  applyToEach apply a (s.graph.matching ⟨none, some predicate, none, none⟩)

def onClassWith (apply : Action → Statement → Telling Bool) (type : Term) (a : Action) :
    Telling Bool := do
  make (.onClass type a)
  let s ← record (fun _ => []) get
  applyToEach apply a (s.graph.matching ⟨none, some (.named Rdf.type), some type, none⟩)

def removed (target : Target) (s : Store) : List Event :=
  (s.find? target).toList.map fun e => .changed (.drop e)

def removedMany (mask : Mask) (limit : Option Nat) (s : Store) : List Event :=
  (((s.graph.matching mask).take (limit.getD (s.graph.matching mask).length)).map Change.drop).map
    .changed

def runWith (apply : Action → Statement → Telling Bool) : Program → Telling Bool
  | .done suppress => pure suppress
  | .look next => do
    let s ← record (fun _ => []) get
    runWith apply (next s.graph)
  | .add st next => do
    let e ← addWith apply st
    runWith apply (next e)
  | .equate a b next => do
    make (.equate a b)
    runWith apply next
  | .remove target next => do
    let found ← record (removed target) (modifyGet fun s =>
      match s.remove? target with
      | some s' => (true, s')
      | none => (false, s))
    runWith apply (next found)
  | .removeMany mask limit next => do
    let n ← record (removedMany mask limit) (modifyGet fun s => s.removeMany mask limit)
    runWith apply (next n)
  | .onProperty predicate action next => do
    let suppressed ← onPropertyWith apply predicate action
    runWith apply (next suppressed)
  | .onClass type action next => do
    let suppressed ← onClassWith apply type action
    runWith apply (next suppressed)
  | .fresh next => do
    let t ← record (fun _ => [.changed .fresh]) (modifyGet Store.fresh)
    runWith apply (next t)
  | .note label st next => do
    make (.note label st)
    runWith apply next

def apply : Nat → Action → Statement → Telling Bool
  | 0, _, _ => record (fun _ => []) StoreM.endless
  | levels + 1, a, st => do
    record (fun _ => [.applied a st]) (pure ())
    runWith (apply levels) (a st)

def addAll (levels : Nat) : List Statement → Telling Nat
  | [] => pure 0
  | st :: sts => do
    let e ← addWith (apply levels) st
    let n ← addAll levels sts
    return if e.isSome then n + 1 else n

end Telling

def Operation.tell (levels : Nat) : Operation → Telling Unit
  | .add st => do
    let _ ← Telling.addWith (Telling.apply levels) st
  | .equate a b => Telling.make (.equate a b)
  | .remove target =>
    Telling.record (Telling.removed target) (modify fun s => (s.remove? target).getD s)
  | .removeMany mask limit =>
    Telling.record (Telling.removedMany mask limit) (modify fun s => (s.removeMany mask limit).2)
  | .removeContext context =>
    Telling.record (Telling.removedMany ⟨none, none, none, some context⟩ none)
      (modify fun s => (s.removeContext context).2)
  | .onProperty predicate a => do
    let _ ← Telling.onPropertyWith (Telling.apply levels) predicate a
  | .onClass type a => do
    let _ ← Telling.onClassWith (Telling.apply levels) type a
  | .fresh => Telling.record (fun _ => [.changed .fresh]) (modify fun s => s.fresh.2)
  | .note label st => Telling.make (.note label st)

namespace Telling

variable {α β : Type}

theorem bind_eq_some {m : Telling α} {f : α → Telling β} {s u : Store} {b : β} {es : List Event} :
    (m >>= f) s = some ((b, es), u) ↔ ∃ a t ds ds', m s = some ((a, ds), t) ∧
      f a t = some ((b, ds'), u) ∧ es = ds ++ ds' := by
  change (m s).bind (fun r => (f r.1.1 r.2).bind fun x => some ((x.1.1, r.1.2 ++ x.1.2), x.2)) =
    some ((b, es), u) ↔ _
  simp only [Option.bind_eq_some_iff, Prod.exists, Option.some.injEq, Prod.mk.injEq]
  constructor
  · rintro ⟨a, ds, t, hm, b', ds', u', hf, ⟨rfl, rfl⟩, rfl⟩
    exact ⟨a, t, ds, ds', hm, hf, rfl⟩
  · rintro ⟨a, t, ds, ds', hm, hf, rfl⟩
    exact ⟨a, ds, t, hm, b, ds', u, hf, ⟨rfl, rfl⟩, rfl⟩

theorem record_eq_some {events : Store → List Event} {m : StoreM α} {s t : Store} {a : α}
    {es : List Event} :
    record events m s = some ((a, es), t) ↔ m s = some (a, t) ∧ es = events s := by
  simp only [record, Option.map_eq_some_iff, Prod.exists, Prod.mk.injEq]
  constructor
  · rintro ⟨a', t', hm, ⟨rfl, rfl⟩, rfl⟩
    exact ⟨hm, rfl⟩
  · rintro ⟨hm, rfl⟩
    exact ⟨a, t, hm, ⟨rfl, rfl⟩, rfl⟩

theorem pure_eq_some {x y : α} {s t : Store} {es : List Event}
    (h : (pure x : Telling α) s = some ((y, es), t)) : y = x ∧ es = [] ∧ s = t := by
  obtain ⟨hres, rfl⟩ := Prod.mk.inj (Option.some.inj h)
  obtain ⟨rfl, rfl⟩ := Prod.mk.inj hres
  exact ⟨rfl, rfl, rfl⟩

/-! ## What was told -/

section
variable {levels : Nat} {told : Action → Statement → Telling Bool} {s t : Store} {st : Statement}
  {b : Bool} {es : List Event}

theorem apply_eq_some {a : Action} (h : apply levels a st s = some ((b, es), t)) :
    ∃ n ds, levels = n + 1 ∧ runWith (apply n) (a st) s = some ((b, ds), t) ∧
      es = .applied a st :: ds := by
  cases levels with
  | zero => cases h
  | succ n =>
    obtain ⟨_, u, ds, ds', hrecord, hrun, rfl⟩ := bind_eq_some.mp h
    obtain ⟨hpure, rfl⟩ := record_eq_some.mp hrecord
    obtain ⟨-, rfl⟩ := Prod.mk.inj (Option.some.inj hpure)
    exact ⟨n, ds', rfl, hrun, rfl⟩

theorem get_eq_some {u : Store} (h : record (fun _ => []) get s = some ((u, es), t)) :
    s = u ∧ es = [] ∧ s = t := by
  obtain ⟨hget, rfl⟩ := record_eq_some.mp h
  obtain ⟨rfl, rfl⟩ := Prod.mk.inj (Option.some.inj hget)
  exact ⟨rfl, rfl, rfl⟩

theorem runWith_done {c : Bool} (h : runWith told (.done c) s = some ((b, es), t)) :
    b = c ∧ es = [] ∧ t = s := by
  obtain ⟨rfl, rfl, rfl⟩ := pure_eq_some h
  exact ⟨rfl, rfl, rfl⟩

theorem runWith_look {next : Graph → Program} (h : runWith told (.look next) s = some ((b, es), t)) :
    runWith told (next s.graph) s = some ((b, es), t) := by
  obtain ⟨u, v, ds, ds', hget, hrun, rfl⟩ := bind_eq_some.mp h
  obtain ⟨rfl, rfl, rfl⟩ := get_eq_some hget
  exact hrun

theorem make_eq_some {c : Change} {u : Unit} (h : make c s = some ((u, es), t)) :
    es = [.changed c] ∧ t = s.change c := by
  obtain ⟨hmodify, rfl⟩ := record_eq_some.mp h
  obtain ⟨-, rfl⟩ := Prod.mk.inj (Option.some.inj hmodify)
  exact ⟨rfl, rfl⟩

theorem applyAll_cons {a : Action} {as : List Action}
    (h : applyAll told (a :: as) st s = some ((b, es), t)) : ∃ first others u ds ds',
      told a st s = some ((first, ds), u) ∧ applyAll told as st u = some ((others, ds'), t) ∧
      b = (first || others) ∧ es = ds ++ ds' := by
  obtain ⟨first, u, ds, ds₁, hfirst, hrest, rfl⟩ := bind_eq_some.mp h
  obtain ⟨others, v, ds', ds₂, hothers, hend, rfl⟩ := bind_eq_some.mp hrest
  obtain ⟨rfl, rfl, rfl⟩ := pure_eq_some hend
  exact ⟨first, others, u, ds, ds', hfirst, hothers, rfl, by rw [List.append_nil]⟩

theorem applyToEach_cons {a : Action} {e : Entry} {rest : List Entry}
    (h : applyToEach told a (e :: rest) s = some ((b, es), t)) : ∃ first others u ds ds',
      told a (s.graph.canonStatement e.statement) s = some ((first, ds), u) ∧
      applyToEach told a rest u = some ((others, ds'), t) ∧ es = ds ++ ds' := by
  obtain ⟨v, w, ds₁, ds₂, hget, happly, rfl⟩ := bind_eq_some.mp h
  obtain ⟨rfl, rfl, rfl⟩ := get_eq_some hget
  obtain ⟨first, u, ds, ds₃, hfirst, hrest, rfl⟩ := bind_eq_some.mp happly
  obtain ⟨others, x, ds', ds₄, hothers, hend, rfl⟩ := bind_eq_some.mp hrest
  obtain ⟨-, rfl, rfl⟩ := pure_eq_some hend
  exact ⟨first, others, u, ds, ds', hfirst, hothers, by rw [List.nil_append, List.append_nil]⟩

/-- The statement is stored after its actions unless one of them suppressed it. -/
theorem addWith_eq_some {r : Option Entry} (h : addWith told st s = some ((r, es), t)) :
    ∃ suppressed u ds, applyAll told (s.actionsFor (s.graph.canonStatement st))
        (s.graph.canonStatement st) s = some ((suppressed, ds), u) ∧
      ((suppressed = true ∧ r = none ∧ t = u ∧ es = ds) ∨
        (suppressed = false ∧ r = some (u.graph.insert st).1 ∧ t = u.change (.insert st) ∧
          es = ds ++ [.changed (.insert st)])) := by
  obtain ⟨_, _, ds₁, ds₂, hget, happly, rfl⟩ := bind_eq_some.mp h
  obtain ⟨rfl, rfl, rfl⟩ := get_eq_some hget
  obtain ⟨suppressed, u, ds, ds', hactions, hend, rfl⟩ := bind_eq_some.mp happly
  refine ⟨suppressed, u, ds, hactions, ?_⟩
  cases suppressed with
  | true =>
    obtain ⟨rfl, rfl, rfl⟩ := pure_eq_some hend
    exact .inl ⟨rfl, rfl, rfl, List.append_nil ds⟩
  | false =>
    rw [if_neg Bool.false_ne_true] at hend
    obtain ⟨hinsert, rfl⟩ := record_eq_some.mp hend
    obtain ⟨rfl, rfl⟩ := Prod.mk.inj (Option.some.inj hinsert)
    exact .inr ⟨rfl, rfl, rfl, rfl⟩

end

/-! ## Without listening -/

theorem mute_pure (a : α) : mute (pure a) = pure a := rfl

theorem mute_record (events : Store → List Event) (m : StoreM α) : mute (record events m) = m := by
  funext s
  simp [mute, record, Function.comp_def]

theorem mute_bind (m : Telling α) (f : α → Telling β) :
    mute (m >>= f) = mute m >>= fun a => mute (f a) := by
  funext s
  change ((m s).bind fun r : (α × List Event) × Store =>
      (f r.1.1 r.2).bind fun x : (β × List Event) × Store =>
        some ((x.1.1, r.1.2 ++ x.1.2), x.2)).map _ =
    ((m s).map _).bind fun r : α × Store => (f r.1 r.2).map _
  cases hm : m s with
  | none => rfl
  | some r =>
    simp only [Option.bind_some, Option.map_some]
    cases f r.1.1 r.2 <;> rfl

section
variable {told : Action → Statement → Telling Bool} {plain : Action → Statement → StoreM Bool}
  (h : ∀ a st, mute (told a st) = plain a st)
include h

theorem mute_applyAll (as : List Action) (st : Statement) :
    mute (applyAll told as st) = StoreM.applyAll plain as st := by
  induction as with
  | nil => rfl
  | cons a as ih => simp only [applyAll, StoreM.applyAll, mute_bind, mute_pure, h, ih]

theorem mute_applyToEach (a : Action) (es : List Entry) :
    mute (applyToEach told a es) = StoreM.applyToEach plain a es := by
  induction es with
  | nil => rfl
  | cons e es ih =>
    simp only [applyToEach, StoreM.applyToEach, mute_bind, mute_pure, mute_record, h, ih]

theorem mute_addWith (st : Statement) : mute (addWith told st) = StoreM.addWith plain st := by
  simp only [addWith, StoreM.addWith, mute_bind, mute_record, mute_applyAll h]
  congr
  funext s
  congr
  funext suppressed
  cases suppressed <;> rfl

theorem mute_onPropertyWith (predicate : Term) (a : Action) :
    mute (onPropertyWith told predicate a) = StoreM.onPropertyWith plain predicate a := by
  simp only [onPropertyWith, StoreM.onPropertyWith, make, mute_bind, mute_record, mute_applyToEach h]
  rfl

theorem mute_onClassWith (type : Term) (a : Action) :
    mute (onClassWith told type a) = StoreM.onClassWith plain type a := by
  simp only [onClassWith, StoreM.onClassWith, make, mute_bind, mute_record, mute_applyToEach h]
  rfl

theorem mute_runWith (p : Program) : mute (runWith told p) = StoreM.runWith plain p := by
  induction p with
  | done suppress => rfl
  | look next ih => simp only [runWith, StoreM.runWith, mute_bind, mute_record, ih]
  | add st next ih => simp only [runWith, StoreM.runWith, mute_bind, mute_addWith h, ih]
  | equate a b next ih =>
    simp only [runWith, StoreM.runWith, make, mute_bind, mute_record, ih]
    rfl
  | remove target next ih =>
    rw [runWith, mute_bind, mute_record, funext ih]
    rfl
  | removeMany mask limit next ih =>
    simp only [runWith, StoreM.runWith, mute_bind, mute_record, ih]
  | onProperty predicate action next _ ih =>
    simp only [runWith, StoreM.runWith, mute_bind, mute_onPropertyWith h, ih]
  | onClass type action next _ ih =>
    simp only [runWith, StoreM.runWith, mute_bind, mute_onClassWith h, ih]
  | fresh next ih => simp only [runWith, StoreM.runWith, mute_bind, mute_record, ih]
  | note label st next ih =>
    simp only [runWith, StoreM.runWith, make, mute_bind, mute_record, ih]
    rfl

end

theorem mute_apply (levels : Nat) (a : Action) (st : Statement) :
    mute (apply levels a st) = StoreM.apply levels a st := by
  induction levels generalizing a st with
  | zero => rfl
  | succ levels ih =>
    rw [apply, mute_bind, mute_record, mute_runWith ih]
    rfl

theorem mute_addAll (levels : Nat) (sts : List Statement) :
    mute (addAll levels sts) = StoreM.addAll levels sts := by
  induction sts with
  | nil => rfl
  | cons st sts ih =>
    simp only [addAll, mute_bind, mute_addWith (mute_apply levels), mute_pure, ih]
    rfl

/-! ## The changes told -/

def Faithful (m : Telling α) : Prop :=
  ∀ ⦃s t : Store⦄ ⦃a : α⦄ ⦃es : List Event⦄, s.graph.WellFormed → m s = some ((a, es), t) →
    s.Evolves (Event.changes es) t

namespace Faithful

theorem pure (a : α) : Faithful (pure a : Telling α) := by
  intro s t b es _ hrun
  obtain ⟨-, rfl, rfl⟩ := pure_eq_some hrun
  exact .nil s

theorem bind {m : Telling α} {f : α → Telling β} (hm : Faithful m) (hf : ∀ a, Faithful (f a)) :
    Faithful (m >>= f) := by
  intro s u b es hs hrun
  obtain ⟨a, t, ds, ds', hmt, hfu, rfl⟩ := bind_eq_some.mp hrun
  have hfirst := hm hs hmt
  rw [Event.changes_append]
  exact hfirst.append (hf a (hfirst.wellFormed hs) hfu)

theorem record {events : Store → List Event} {m : StoreM α}
    (h : ∀ (s t : Store) (a : α), s.graph.WellFormed → m s = some (a, t) →
      s.Evolves (Event.changes (events s)) t) : Faithful (record events m) := by
  intro s t a es hs hrun
  obtain ⟨hm, rfl⟩ := record_eq_some.mp hrun
  exact h s t a hs hm

theorem get : Faithful (Telling.record (fun _ => []) (get : StoreM Store)) := by
  refine .record fun s t a _ hrun => ?_
  obtain ⟨-, rfl⟩ := Prod.mk.inj (Option.some.inj hrun)
  exact .nil s

theorem make {c : Change} (hc : ∀ s : Store, s.Allows c) : Faithful (Telling.make c) := by
  refine .record fun s t a _ hrun => ?_
  obtain ⟨-, rfl⟩ := Prod.mk.inj (Option.some.inj hrun)
  exact .single (hc s)

theorem modifyGet {events : Store → List Event} {f : Store → α × Store}
    (h : ∀ s : Store, s.graph.WellFormed → s.Evolves (Event.changes (events s)) (f s).2) :
    Faithful (Telling.record events (modifyGet f : StoreM α)) := by
  refine .record fun s t a hs hrun => ?_
  obtain ⟨-, rfl⟩ := Prod.mk.inj (Option.some.inj hrun)
  exact h s hs

end Faithful

theorem evolves_removed (s : Store) (target : Target) :
    s.Evolves (Event.changes (removed target s)) ((s.remove? target).getD s) := by
  cases hfind : s.find? target with
  | none =>
    simp only [removed, Store.remove?, hfind]
    exact .nil s
  | some e =>
    simp only [removed, Store.remove?, hfind]
    exact .single (c := .drop e) (Store.find?_mem hfind)

theorem evolves_removedMany {s : Store} (h : s.graph.WellFormed) (mask : Mask) (limit : Option Nat) :
    s.Evolves (Event.changes (removedMany mask limit s)) (s.removeMany mask limit).2 := by
  have htaken : ((s.graph.matching mask).take (limit.getD (s.graph.matching mask).length)).Sublist
      (s.graph.matching mask) := List.take_sublist _ _
  rw [removedMany, Event.changes_map_changed]
  exact Store.evolves_dropAll (fun e he => h.mem_matching (htaken.subset he))
    ((h.matching_distinct mask).sublist (htaken.map Entry.id))

theorem faithful_remove (target : Target) :
    Faithful (record (removed target) (modifyGet fun s =>
      match s.remove? target with
      | some s' => (true, s')
      | none => (false, s))) := by
  refine .modifyGet fun s _ => ?_
  have hremoved := evolves_removed s target
  cases hremove : s.remove? target with
  | none =>
    rw [hremove] at hremoved
    exact hremoved
  | some t =>
    rw [hremove] at hremoved
    exact hremoved

theorem faithful_removeMany (mask : Mask) (limit : Option Nat) :
    Faithful (record (removedMany mask limit) (modifyGet fun s => s.removeMany mask limit)) :=
  .modifyGet fun _ hs => evolves_removedMany hs mask limit

section
variable {apply : Action → Statement → Telling Bool} (happly : ∀ a st, Faithful (apply a st))
include happly

theorem faithful_applyAll (as : List Action) (st : Statement) :
    Faithful (applyAll apply as st) := by
  induction as with
  | nil => exact .pure false
  | cons a as ih => exact .bind (happly a st) fun _ => .bind ih fun _ => .pure _

theorem faithful_applyToEach (a : Action) (es : List Entry) :
    Faithful (applyToEach apply a es) := by
  induction es with
  | nil => exact .pure false
  | cons e es ih =>
    exact .bind .get fun s => .bind (happly a _) fun _ => .bind ih fun _ => .pure _

theorem faithful_addWith (st : Statement) : Faithful (addWith apply st) := by
  refine .bind .get fun s => .bind (faithful_applyAll happly _ _) fun suppressed => ?_
  cases suppressed with
  | true => exact .pure none
  | false => exact .modifyGet fun s _ => .single (c := .insert st) trivial

theorem faithful_onPropertyWith (predicate : Term) (a : Action) :
    Faithful (onPropertyWith apply predicate a) :=
  .bind (.make fun _ => trivial) fun _ => .bind .get fun _ => faithful_applyToEach happly a _

theorem faithful_onClassWith (type : Term) (a : Action) :
    Faithful (onClassWith apply type a) :=
  .bind (.make fun _ => trivial) fun _ => .bind .get fun _ => faithful_applyToEach happly a _

theorem faithful_runWith (p : Program) : Faithful (runWith apply p) := by
  induction p with
  | done suppress => exact .pure suppress
  | look next ih => exact .bind .get fun s => ih s.graph
  | add st next ih => exact .bind (faithful_addWith happly st) fun e => ih e
  | equate a b next ih => exact .bind (.make fun _ => trivial) fun _ => ih
  | remove target next ih => exact .bind (faithful_remove target) fun found => ih found
  | removeMany mask limit next ih =>
    exact .bind (faithful_removeMany mask limit) fun n => ih n
  | onProperty predicate action next _ ih =>
    exact .bind (faithful_onPropertyWith happly predicate action) fun b => ih b
  | onClass type action next _ ih =>
    exact .bind (faithful_onClassWith happly type action) fun b => ih b
  | fresh next ih =>
    exact .bind (.modifyGet fun s _ => .single (c := .fresh) trivial) fun t => ih t
  | note label st next ih => exact .bind (.make fun _ => trivial) fun _ => ih

end

theorem faithful_apply (levels : Nat) (a : Action) (st : Statement) :
    Faithful (apply levels a st) := by
  induction levels generalizing a st with
  | zero => exact .record fun s t b _ hrun => nomatch hrun
  | succ levels ih =>
    refine .bind (.record fun s t b _ hrun => ?_) fun _ => faithful_runWith ih (a st)
    obtain ⟨-, rfl⟩ := Prod.mk.inj (Option.some.inj hrun)
    exact .nil s

end Telling

namespace Operation

theorem mute_tell (levels : Nat) (op : Operation) : (op.tell levels).mute = op.run levels := by
  have happly := Telling.mute_apply levels
  cases op with
  | add st =>
    rw [tell, Telling.mute_bind, Telling.mute_addWith happly]
    rfl
  | equate a b =>
    rw [tell, Telling.make, Telling.mute_record]
    rfl
  | remove target => exact Telling.mute_record _ _
  | removeMany mask limit => exact Telling.mute_record _ _
  | removeContext context => exact Telling.mute_record _ _
  | onProperty predicate a =>
    rw [tell, Telling.mute_bind, Telling.mute_onPropertyWith happly]
    rfl
  | onClass type a =>
    rw [tell, Telling.mute_bind, Telling.mute_onClassWith happly]
    rfl
  | fresh => exact Telling.mute_record _ _
  | note label st =>
    rw [tell, Telling.make, Telling.mute_record]
    rfl

theorem faithful_tell (levels : Nat) (op : Operation) : (op.tell levels).Faithful := by
  have happly := Telling.faithful_apply levels
  cases op with
  | add st => exact .bind (Telling.faithful_addWith happly st) fun _ => .pure ()
  | equate a b => exact .make fun _ => trivial
  | remove target => exact .modifyGet fun s _ => Telling.evolves_removed s target
  | removeMany mask limit => exact .modifyGet fun s hs => Telling.evolves_removedMany hs mask limit
  | removeContext context => exact .modifyGet fun s hs => Telling.evolves_removedMany hs _ none
  | onProperty predicate a =>
    exact .bind (Telling.faithful_onPropertyWith happly predicate a) fun _ => .pure ()
  | onClass type a => exact .bind (Telling.faithful_onClassWith happly type a) fun _ => .pure ()
  | fresh => exact .modifyGet fun s _ => .single (c := .fresh) trivial
  | note label st => exact .make fun _ => trivial

theorem run_eq_some {levels : Nat} {op : Operation} {s t : Store} :
    op.run levels s = some ((), t) ↔ ∃ es, op.tell levels s = some (((), es), t) := by
  rw [← mute_tell, Telling.mute]
  simp only [Option.map_eq_some_iff, Prod.exists, Prod.mk.injEq, true_and]
  constructor
  · rintro ⟨⟨⟩, es, t', h, rfl⟩
    exact ⟨es, h⟩
  · rintro ⟨es, h⟩
    exact ⟨(), es, t, h, rfl⟩

theorem evolves_tell {levels : Nat} {op : Operation} {s t : Store} {es : List Event}
    (hs : s.graph.WellFormed) (h : op.tell levels s = some (((), es), t)) :
    s.Evolves (Event.changes es) t :=
  op.faithful_tell levels hs h

end Operation

end QuadGraph
