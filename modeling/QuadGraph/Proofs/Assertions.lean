import QuadGraph.Proofs.Suppression

/-!
# Assertions of sameness

A store with the built-in actions merges the subject and the object of a statement whose predicate
is, by whatever name, `owl:sameAs`, and does not store it (`Equipped.add_sameAs`). A merge runs no
action. So a statement stays stored when its predicate is merged with `owl:sameAs` (`sameAs_kept`), and
that is the only way in which one comes to have this predicate (`Runs.sameAs_consumed`).
-/

namespace QuadGraph

def Operation.Plain : Operation → Prop
  | .onProperty _ _ => False
  | .onClass _ _ => False
  | _ => True

namespace Store

/-! ## Runs -/

inductive Runs : Store → List Operation → List Event → Store → Prop
  | nil (s : Store) : Runs s [] [] s
  | cons {s t u : Store} {op : Operation} {ops : List Operation} {ds es : List Event} (levels : Nat)
      (htell : op.tell levels s = some (((), ds), t)) (hrest : Runs t ops es u) :
      Runs s (op :: ops) (ds ++ es) u

/-- In the course of a run an addition makes the entry. The store is the one that it begins with, and
the events are those from then on. -/
inductive Makes (s t : Store) (e : Entry) : List Operation → List Event → Store → List Event → Prop
  | intro {before after : List Operation} {cs ds es : List Event} {u v : Store} (levels : Nat)
      (hbefore : s.Runs before cs u)
      (hadd : Telling.addWith (Telling.apply levels) e.statement u = some ((some e, ds), v))
      (hafter : v.Runs after es t) :
      Makes s t e (before ++ .add e.statement :: after) (cs ++ (ds ++ es)) u (ds ++ es)

variable {s t u : Store} {ops : List Operation} {es : List Event} {cs : List Change}

theorem Runs.evolves (h : s.Runs ops es t) (hwf : s.graph.WellFormed) :
    s.Evolves (Event.changes es) t := by
  induction h with
  | nil s => exact .nil s
  | @cons s t u op ops ds es levels htell hrest ih =>
    have hfirst := op.evolves_tell hwf htell
    rw [Event.changes_append]
    exact hfirst.append (ih (hfirst.wellFormed hwf))

/-! ## Terms that become alike -/

theorem alike_change (hwf : s.graph.WellFormed) (c : Change) {x y : Term}
    (h : s.graph.alike x y = true) : (s.change c).graph.alike x y = true := by
  cases c with
  | equate a b => exact (Graph.Grows.equate hwf a b).alike x y h
  | _ => exact h

theorem Evolves.alike (he : s.Evolves cs t) (hwf : s.graph.WellFormed) {x y : Term}
    (h : s.graph.alike x y = true) : t.graph.alike x y = true := by
  induction he with
  | nil s => exact h
  | cons hc _ ih => exact ih (wellFormed_change hwf hc) (alike_change hwf _ h)

/-- One of the changes is a merge, before which the terms were not alike and after which they are. -/
def Joins (s : Store) (cs : List Change) (t : Store) (x y : Term) : Prop :=
  ∃ before a b after u, cs = before ++ .equate a b :: after ∧ s.Evolves before u ∧
    (u.equate a b).Evolves after t ∧ u.graph.alike x y = false ∧
    (u.equate a b).graph.alike x y = true

/-- Only a merge makes terms alike. -/
theorem Evolves.joins (he : s.Evolves cs t) {x y : Term} (h : s.graph.alike x y = false)
    (h' : t.graph.alike x y = true) : s.Joins cs t x y := by
  induction he with
  | nil s => exact absurd (h.symm.trans h') Bool.false_ne_true
  | @cons s t c cs hc hcs ih =>
    -- either this change is the one, or the terms are still apart after it
    cases hnext : (s.change c).graph.alike x y with
    | false =>
      obtain ⟨before, a, b, after, u, rfl, hbefore, hafter, hapart, hjoined⟩ := ih hnext h'
      exact ⟨c :: before, a, b, after, u, rfl, .cons hc hbefore, hafter, hapart, hjoined⟩
    | true =>
      cases c with
      | equate a b => exact ⟨[], a, b, cs, s, rfl, .nil s, hcs, h, hnext⟩
      | _ => exact absurd (h.symm.trans hnext) Bool.false_ne_true

/-! ## Stores that know `owl:sameAs` -/

structure Equipped (s : Store) : Prop where
  wellFormed : s.graph.WellFormed
  builtin : s.Builtin
  registered : Action.sameAs ∈ s.propertyActions.get (s.graph.canonKey (.named Owl.sameAs))

theorem equipped_ofOptions {options : StoreOptions} (h : options.builtinActions = true) :
    (ofOptions options).Equipped where
  wellFormed := Graph.wellFormed_empty
  builtin := builtin_ofOptions options
  registered := by
    rw [Sense.canonKey_ofOptions, ofOptions, if_pos h]
    exact Registry.mem_get_register.mpr (.inr ⟨rfl, rfl⟩)

theorem mem_get_change (hwf : s.graph.WellFormed) (c : Change) {a : Action} {p : Term}
    (h : a ∈ s.propertyActions.get (s.graph.canonKey p)) :
    a ∈ (s.change c).propertyActions.get ((s.change c).graph.canonKey p) := by
  cases c with
  | equate x y =>
    show a ∈ (s.equate x y).propertyActions.get _
    rw [propertyActions_equate]
    exact mem_get_moved hwf x y h
  | onProperty q b => exact Registry.mem_get_register.mpr (.inl h)
  | _ => exact h

theorem Evolves.mem_get (he : s.Evolves cs t) (hwf : s.graph.WellFormed) {a : Action} {p : Term}
    (h : a ∈ s.propertyActions.get (s.graph.canonKey p)) :
    a ∈ t.propertyActions.get (t.graph.canonKey p) := by
  induction he with
  | nil s => exact h
  | cons hc _ ih => exact ih (wellFormed_change hwf hc) (mem_get_change hwf _ h)

section
variable {levels : Nat} {st : Statement} {r : Option Entry}

/-- A statement that asserts, by whatever name, that two terms are the same is not stored, and the
terms are the same from then on. -/
theorem Equipped.add_sameAs (h : s.Equipped)
    (hpredicate : s.graph.alike st.predicate (.named Owl.sameAs) = true)
    (hadd : Telling.addWith (Telling.apply levels) st s = some ((r, es), t)) :
    r = none ∧ t.graph.entries = s.graph.entries ∧ t.graph.alike st.subject st.object = true := by
  obtain ⟨suppressed, u, ds, hactions, hend⟩ := Telling.addWith_eq_some hadd
  obtain ⟨habsorbs, hturns, -⟩ :=
    Telling.applyAll_turns h.wellFormed (fun _ ha => h.builtin.actionsFor ha) hactions
  have hmem : Action.sameAs ∈ s.actionsFor (s.graph.canonStatement st) := by
    refine List.mem_append_left _ ?_
    show Action.sameAs ∈ s.propertyActions.get (s.graph.canonKey st.predicate)
    rw [beq_iff_eq.mp hpredicate]
    exact h.registered
  -- the other actions may run before it and after it, and what it merges stays merged
  obtain ⟨first, v, w, cs, hv, hrun, hw, hfirst⟩ := hturns _ hmem
  obtain ⟨rfl, rfl⟩ := Telling.apply_sameAs hrun
  obtain rfl : suppressed = true := hfirst rfl
  rcases hend with ⟨-, rfl, rfl, -⟩ | ⟨hfalse, -⟩
  · have hmerged := hw.alike _ _ (alike_equate hv.wellFormed _ _)
    exact ⟨rfl, habsorbs.entries, habsorbs.alike_of_canon h.wellFormed hmerged⟩
  · cases hfalse

/-- What is stored after an addition was stored before it or is the statement that was added. -/
theorem Equipped.mem_of_add (h : s.Equipped)
    (hadd : Telling.addWith (Telling.apply levels) st s = some ((r, es), t)) {e : Entry}
    (he : e ∈ t.graph.entries) : e ∈ s.graph.entries ∨ (r = some e ∧ e.statement = st) := by
  obtain ⟨suppressed, u, ds, hactions, hend⟩ := Telling.addWith_eq_some hadd
  obtain ⟨habsorbs, -⟩ :=
    Telling.applyAll_turns h.wellFormed (fun _ ha => h.builtin.actionsFor ha) hactions
  rcases hend with ⟨-, -, rfl, -⟩ | ⟨-, rfl, rfl, -⟩
  · exact .inl (habsorbs.entries ▸ he)
  · rcases List.mem_append.mp he with he | he
    · exact .inl (habsorbs.entries ▸ he)
    · obtain rfl := List.mem_singleton.mp he
      exact .inr ⟨rfl, rfl⟩

end

end Store

/-! ## Operations -/

theorem Graph.mem_of_mem_dropAll {g : Graph} {es : List Entry} {e : Entry}
    (he : e ∈ (es.foldl Graph.drop g).entries) : e ∈ g.entries := by
  induction es generalizing g with
  | nil => exact he
  | cons x es ih => exact List.mem_of_mem_eraseP (ih he)

theorem Store.mem_of_mem_remove {s : Store} {target : Target} {e : Entry}
    (he : e ∈ ((s.remove? target).getD s).graph.entries) : e ∈ s.graph.entries := by
  unfold remove? at he
  cases hfind : s.find? target with
  | none =>
    rw [hfind] at he
    exact he
  | some x =>
    rw [hfind] at he
    exact List.mem_of_mem_eraseP he

theorem Store.builtin_remove {s : Store} (h : s.Builtin) (target : Target) :
    ((s.remove? target).getD s).Builtin := by
  unfold remove?
  cases s.find? target with
  | none => exact h
  | some x => exact ⟨h.property, h.type⟩

/-- An operation that registers nothing either adds a statement or stores none, and then it changes
registrations only by merging. -/
theorem Operation.Plain.cases {op : Operation} (hop : op.Plain) {levels : Nat} {s t : Store}
    {es : List Event} (htell : op.tell levels s = some (((), es), t)) :
    (∃ st r, op = .add st ∧ Telling.addWith (Telling.apply levels) st s = some ((r, es), t)) ∨
      ((∀ e ∈ t.graph.entries, e ∈ s.graph.entries) ∧ (s.Builtin → t.Builtin)) := by
  cases op with
  | add st =>
    obtain ⟨r, u, ds, ds', hadd, hend, rfl⟩ := Telling.bind_eq_some.mp htell
    obtain ⟨-, rfl, rfl⟩ := Telling.pure_eq_some hend
    rw [List.append_nil]
    exact .inl ⟨st, r, rfl, hadd⟩
  | equate a b =>
    obtain ⟨-, rfl⟩ := Telling.make_eq_some htell
    refine .inr ⟨fun e he => ?_, fun h => h.equate a b⟩
    rw [← Store.entries_equate s a b]
    exact he
  | remove target =>
    obtain ⟨hrun, -⟩ := Telling.record_eq_some.mp htell
    obtain ⟨-, rfl⟩ := Prod.mk.inj (Option.some.inj hrun)
    exact .inr ⟨fun e he => Store.mem_of_mem_remove he, fun h => Store.builtin_remove h target⟩
  | removeMany mask limit =>
    obtain ⟨hrun, -⟩ := Telling.record_eq_some.mp htell
    obtain ⟨-, rfl⟩ := Prod.mk.inj (Option.some.inj hrun)
    exact .inr ⟨fun e he => Graph.mem_of_mem_dropAll he, fun h => ⟨h.property, h.type⟩⟩
  | removeContext context =>
    obtain ⟨hrun, -⟩ := Telling.record_eq_some.mp htell
    obtain ⟨-, rfl⟩ := Prod.mk.inj (Option.some.inj hrun)
    exact .inr ⟨fun e he => Graph.mem_of_mem_dropAll he, fun h => ⟨h.property, h.type⟩⟩
  | onProperty predicate a => exact hop.elim
  | onClass type a => exact hop.elim
  | fresh =>
    rw [Operation.tell] at htell
    obtain ⟨hrun, -⟩ := Telling.record_eq_some.mp htell
    obtain ⟨-, rfl⟩ := Prod.mk.inj (Option.some.inj hrun)
    exact .inr ⟨fun e he => he, fun h => ⟨h.property, h.type⟩⟩
  | note label st =>
    obtain ⟨-, rfl⟩ := Telling.make_eq_some htell
    exact .inr ⟨fun e he => he, fun h => ⟨h.property, h.type⟩⟩

namespace Store

variable {s t u : Store} {ops : List Operation} {es : List Event}

theorem Equipped.after (h : s.Equipped) {op : Operation} (hop : op.Plain) {levels : Nat}
    (htell : op.tell levels s = some (((), es), t)) : t.Equipped := by
  have hevolves := op.evolves_tell h.wellFormed htell
  refine ⟨hevolves.wellFormed h.wellFormed, ?_, hevolves.mem_get h.wellFormed h.registered⟩
  rcases hop.cases htell with ⟨st, r, rfl, hadd⟩ | ⟨-, hbuiltin⟩
  · have hmuted : StoreM.add levels st s = some (r, t) := by
      rw [StoreM.add, ← Telling.mute_addWith (Telling.mute_apply levels), Telling.mute, hadd]
      rfl
    exact (StoreM.add_adds levels st h.wellFormed h.builtin hmuted).builtin
  · exact hbuiltin h.builtin

theorem Runs.equipped (h : s.Runs ops es t) (hs : s.Equipped) (hplain : ∀ op ∈ ops, op.Plain) :
    t.Equipped := by
  induction h with
  | nil s => exact hs
  | cons levels htell hrest ih =>
    rw [List.forall_mem_cons] at hplain
    exact ih (hs.after hplain.1 htell) hplain.2

/-- What is stored after a run was stored before it or was made by one of its additions. -/
theorem Runs.made (h : s.Runs ops es t) (hs : s.Equipped) (hplain : ∀ op ∈ ops, op.Plain) {e : Entry}
    (he : e ∈ t.graph.entries) : e ∈ s.graph.entries ∨ ∃ u since, u.Equipped ∧
      s.Makes t e ops es u since := by
  induction h with
  | nil s => exact .inl he
  | @cons s t w op ops ds es levels htell hrest ih =>
    rw [List.forall_mem_cons] at hplain
    rcases ih (hs.after hplain.1 htell) hplain.2 he with hold | ⟨u, since, hu, hmade⟩
    · rcases hplain.1.cases htell with ⟨st, r, rfl, hadd⟩ | ⟨hkept, -⟩
      · rcases hs.mem_of_add hadd hold with hold | ⟨rfl, rfl⟩
        · exact .inl hold
        · exact .inr ⟨s, ds ++ es, hs, .intro levels (.nil s) hadd hrest⟩
      · exact .inl (hkept e hold)
    · -- the addition that made the entry comes later, and this operation is one of those before it
      cases hmade with
      | intro levels' hbefore hadd hafter =>
        rw [← List.cons_append, ← List.append_assoc]
        exact .inr ⟨u, _, hu, .intro levels' (.cons levels htell hbefore) hadd hafter⟩

theorem Makes.evolves {e : Entry} {since : List Event} (h : s.Makes t e ops es u since)
    (hwf : u.graph.WellFormed) : u.Evolves (Event.changes since) t := by
  cases h with
  | intro levels hbefore hadd hafter =>
    have hadded := Telling.faithful_addWith (Telling.faithful_apply levels) e.statement hwf hadd
    rw [Event.changes_append]
    exact hadded.append (hafter.evolves (hadded.wellFormed hwf))

theorem Makes.unasserted {e : Entry} {since : List Event} (h : s.Makes t e ops es u since)
    (hu : u.Equipped) : u.graph.alike e.statement.predicate (.named Owl.sameAs) = false := by
  -- otherwise the addition that made the entry would have returned nothing
  by_contra hnot
  cases h with
  | intro levels hbefore hadd hafter =>
    have hnone := (hu.add_sameAs (Bool.eq_true_of_not_eq_false hnot) hadd).1
    cases hnone

/-- Whatever is added, merged and removed: a statement is stored only if its predicate does not mean
`owl:sameAs` when it is added, and it comes to mean that only by a merge since then. While it does, to
add a statement with this predicate stores nothing and makes its subject and object the same for
good. -/
theorem Runs.sameAs_consumed {options : StoreOptions} (hoptions : options.builtinActions = true)
    (h : (ofOptions options).Runs ops es t) (hplain : ∀ op ∈ ops, op.Plain) :
    (∀ e ∈ t.graph.entries, ∃ u since, (ofOptions options).Makes t e ops es u since ∧
      u.graph.alike e.statement.predicate (.named Owl.sameAs) = false ∧
      (t.graph.alike e.statement.predicate (.named Owl.sameAs) = true →
        u.Joins (Event.changes since) t e.statement.predicate (.named Owl.sameAs))) ∧
    ∀ st, t.graph.alike st.predicate (.named Owl.sameAs) = true →
      (∀ levels, ∃ u, StoreM.add (levels + 2) st t = some (none, u)) ∧
      ∀ levels r u, StoreM.add levels st t = some (r, u) →
        r = none ∧ u.graph.entries = t.graph.entries ∧
        ∀ ops' es' v, u.Runs ops' es' v → v.graph.alike st.subject st.object = true := by
  have hstart := equipped_ofOptions hoptions
  have ht := h.equipped hstart hplain
  refine ⟨fun e he => ?_, fun st hst => ?_⟩
  · rcases h.made hstart hplain he with hempty | ⟨u, since, hu, hmade⟩
    · exact absurd hempty List.not_mem_nil
    · have hapart := hmade.unasserted hu
      exact ⟨u, since, hmade, hapart, fun hjoined =>
        (hmade.evolves hu.wellFormed).joins hapart hjoined⟩
  · have hadds : ∀ levels r u, StoreM.add levels st t = some (r, u) →
        r = none ∧ u.graph.entries = t.graph.entries ∧
        ∀ ops' es' v, u.Runs ops' es' v → v.graph.alike st.subject st.object = true := by
      intro levels r u hadd
      obtain ⟨ds, htold⟩ := Telling.addWith_of_add hadd
      obtain ⟨hr, hentries, hmerged⟩ := ht.add_sameAs hst htold
      have hwf := (Telling.faithful_addWith (Telling.faithful_apply levels) st ht.wellFormed
        htold).wellFormed ht.wellFormed
      exact ⟨hr, hentries, fun ops' es' v hlater => (hlater.evolves hwf).alike hwf hmerged⟩
    refine ⟨fun levels => ?_, hadds⟩
    obtain ⟨r, u, hadd⟩ := StoreM.add_ends levels st ht.builtin
    obtain ⟨rfl, -⟩ := hadds _ r u hadd
    exact ⟨u, hadd⟩

/-- A statement that calls no action is stored, and terms are merged then. -/
theorem runs_add_equate {st : Statement} (h : s.actionsFor (s.graph.canonStatement st) = [])
    (a b : Term) : s.Runs [.add st, .equate a b] [.changed (.insert st), .changed (.equate a b)]
      ((s.change (.insert st)).equate a b) := by
  have hadd : (Operation.add st).tell 0 s =
      some (((), [.changed (.insert st)]), s.change (.insert st)) := by
    refine Telling.bind_eq_some.mpr
      ⟨some (s.graph.insert st).1, _, [.changed (.insert st)], [], ?_, rfl, rfl⟩
    refine Telling.bind_eq_some.mpr ⟨s, s, [], _, rfl, ?_, rfl⟩
    rw [h]
    rfl
  have hequate : (Operation.equate a b).tell 0 (s.change (.insert st)) =
      some (((), [.changed (.equate a b)]), (s.change (.insert st)).equate a b) := rfl
  exact .cons 0 hadd (.cons 0 hequate (.nil _))

/-- A statement is stored, and then its predicate is merged with `owl:sameAs`. The next one that has
this predicate is not stored. -/
theorem sameAs_consumed_after_equate :
    let said : String → String → Statement := fun x y =>
      ⟨.named x, .named "same", .named y, .named "g"⟩
    let t := (new.change (.insert (said "a" "b"))).equate (.named "same") (.named Owl.sameAs)
    ∃ es, new.Runs [.add (said "a" "b"), .equate (.named "same") (.named Owl.sameAs)] es t ∧
      (∀ e ∈ t.graph.entries, ∃ u since,
        new.Makes t e [.add (said "a" "b"), .equate (.named "same") (.named Owl.sameAs)] es u since ∧
        u.Joins (Event.changes since) t e.statement.predicate (.named Owl.sameAs)) ∧
      ∃ v, StoreM.add 2 (said "c" "d") t = some (none, v) ∧
        v.graph.alike (.named "c") (.named "d") = true := by
  intro said t
  have hactions : new.actionsFor (new.graph.canonStatement (said "a" "b")) = [] :=
    List.isEmpty_iff.mp (by decide +kernel)
  have hruns := runs_add_equate hactions (.named "same") (.named Owl.sameAs)
  have hplain : ∀ op ∈ [Operation.add (said "a" "b"), .equate (.named "same") (.named Owl.sameAs)],
      op.Plain := by simp [Operation.Plain]
  have hsame : t.graph.alike (.named "same") (.named Owl.sameAs) = true := by decide +kernel
  have hbuiltin : StoreOptions.builtinActions {} = true := rfl
  obtain ⟨hstored, hadding⟩ := Runs.sameAs_consumed hbuiltin hruns hplain
  refine ⟨_, hruns, fun e he => ?_, ?_⟩
  · obtain ⟨u, since, hmade, -, hjoins⟩ := hstored e he
    have hstatement : e.statement = said "a" "b" := by
      rw [entries_equate] at he
      rw [List.mem_singleton.mp he]
    refine ⟨u, since, hmade, hjoins ?_⟩
    rw [hstatement]
    exact hsame
  · obtain ⟨hends, hadds⟩ := hadding (said "c" "d") hsame
    obtain ⟨v, hadd⟩ := hends 0
    exact ⟨v, hadd, (hadds 2 none v hadd).2.2 [] [] v (.nil v)⟩

/-- The statement that was stored before the merge stays, and its subject and object stay apart. -/
theorem sameAs_kept :
    let st : Statement := ⟨.named "a", .named "same", .named "b", .named "g"⟩
    let t := (new.change (.insert st)).equate (.named "same") (.named Owl.sameAs)
    (∃ es, new.Runs [.add st, .equate (.named "same") (.named Owl.sameAs)] es t) ∧
      ∃ e ∈ t.graph.entries, t.graph.alike e.statement.predicate (.named Owl.sameAs) = true ∧
        t.graph.alike e.statement.subject e.statement.object = false := by
  intro st t
  have hactions : new.actionsFor (new.graph.canonStatement st) = [] :=
    List.isEmpty_iff.mp (by decide +kernel)
  refine ⟨⟨_, runs_add_equate hactions _ _⟩, ⟨0, st⟩, ?_, ?_, ?_⟩
  · rw [entries_equate]
    exact List.mem_singleton_self _
  · decide +kernel
  · decide +kernel

end Store

end QuadGraph
