import QuadGraph.Proofs.Registrations

/-!
# Actions of classes

The action of a class is run on type statements: on those that are stored when it is registered, and
on those that are added later. The stored ones are looked up in the indexes, and so up to merging
(`Telling.onClassWith_onEach`). Of a statement that is added the predicate that stands for its own is
compared with the type predicate itself (`Graph.iri?_canon_iff`). As long as the type predicate stands
for itself these are the same statements (`Reachable.typed_either_way`). Once it is merged away an
addition runs no action of a class (`typed_apart`).
-/

namespace QuadGraph

def Graph.types (g : Graph) (st : Statement) (type : Term) : Bool :=
  g.alike st.predicate (.named Rdf.type) && g.alike st.object type

/-! ## Running an action on stored statements -/

namespace Telling

/-- The action is applied to the entries one after the other, to each of them once and in the terms
that stand for its own by then. -/
inductive OnEach (levels : Nat) (a : Action) : Store → List Entry → List Event → Store → Prop
  | nil (s : Store) : OnEach levels a s [] [] s
  | cons {s t u : Store} {e : Entry} {rest : List Entry} {ds es : List Event} (suppress : Bool)
      (hfirst : apply levels a (s.graph.canonStatement e.statement) s =
        some ((suppress, .applied a (s.graph.canonStatement e.statement) :: ds), t))
      (hrest : OnEach levels a t rest es u) :
      OnEach levels a s (e :: rest) (.applied a (s.graph.canonStatement e.statement) :: ds ++ es) u

variable {levels : Nat} {s t : Store} {st : Statement} {a : Action} {b : Bool} {es : List Event}

theorem applyToEach_onEach {entries : List Entry}
    (h : applyToEach (apply levels) a entries s = some ((b, es), t)) :
    OnEach levels a s entries es t := by
  induction entries generalizing s b es with
  | nil =>
    obtain ⟨-, rfl, rfl⟩ := pure_eq_some h
    exact .nil s
  | cons e rest ih =>
    obtain ⟨first, others, u, ds, ds', hfirst, hothers, rfl⟩ := applyToEach_cons h
    obtain ⟨n, ds₁, -, -, rfl⟩ := apply_eq_some hfirst
    exact .cons first hfirst (ih hothers)

/-- An action that is registered for a class is run on the statements that give this type. -/
theorem onClassWith_onEach {type : Term} (hwf : s.graph.WellFormed)
    (h : onClassWith (apply levels) type a s = some ((b, es), t)) : ∃ entries ds,
      OnEach levels a (s.change (.onClass type a)) entries ds t ∧
      es = .changed (.onClass type a) :: ds ∧
      entries.Perm (s.graph.entries.filter fun e => s.graph.types e.statement type) := by
  obtain ⟨_, u, ds₁, ds₂, hmake, hrest, rfl⟩ := bind_eq_some.mp h
  obtain ⟨rfl, rfl⟩ := make_eq_some hmake
  obtain ⟨_, _, ds₃, ds₄, hget, heach, rfl⟩ := bind_eq_some.mp hrest
  obtain ⟨rfl, rfl, rfl⟩ := get_eq_some hget
  refine ⟨_, ds₄, applyToEach_onEach heach, rfl, (hwf.matching_perm _).trans (.of_eq ?_)⟩
  refine List.filter_congr fun e _ => ?_
  rw [Bool.eq_iff_iff, Graph.meets_iff, Graph.types, Bool.and_eq_true, Graph.alike, Graph.alike,
    beq_iff_eq, beq_iff_eq]
  simp [Graph.given, Position.all, Quad.get]

/-- An addition runs the actions that were registered when it began, and then stores the statement or
not. -/
theorem addWith_inTurn {r : Option Entry}
    (h : addWith (apply levels) st s = some ((r, es), t)) : ∃ ds u,
      InTurn levels (s.graph.canonStatement st) s (s.actionsFor (s.graph.canonStatement st)) ds u ∧
      ((r = none ∧ t = u ∧ es = ds) ∨
        (r = some (u.graph.insert st).1 ∧ t = u.change (.insert st) ∧
          es = ds ++ [.changed (.insert st)])) := by
  obtain ⟨suppressed, u, ds, hactions, hend⟩ := addWith_eq_some h
  refine ⟨ds, u, applyAll_inTurn hactions, ?_⟩
  rcases hend with ⟨-, hr, ht, hes⟩ | ⟨-, hr, ht, hes⟩
  · exact .inl ⟨hr, ht, hes⟩
  · exact .inr ⟨hr, ht, hes⟩

end Telling

/-! ## Type statements -/

/-- The term that stands for a predicate is the type predicate itself only if that one was not merged
away. -/
theorem Graph.iri?_canon_iff {g : Graph} (hwf : g.WellFormed) (p : Term) :
    (g.canon p).iri? = some Rdf.type ↔
      g.canonKey (.named Rdf.type) = (Term.named Rdf.type).key ∧
        g.alike p (.named Rdf.type) = true := by
  constructor
  · intro hiri
    have hcanon : g.canon p = .named Rdf.type := Term.eq_named_of_iri? hiri
    have hself : g.canonKey (.named Rdf.type) = g.canonKey p := by
      rw [← hcanon, canonKey_canon hwf]
    refine ⟨hself.trans (congrArg Term.key hcanon), beq_iff_eq.mpr hself.symm⟩
  · rintro ⟨hself, halike⟩
    have hsame : (g.canon p).same (.named Rdf.type) = true :=
      Term.same_iff_key.mpr ((beq_iff_eq.mp halike).trans hself)
    exact Term.iri?_congr hsame

namespace Store

def classActionsFor (s : Store) (st : Statement) : List Action :=
  if (s.graph.canon st.predicate).iri? = some Rdf.type then
    s.classActions.get (s.graph.canonKey st.object)
  else []

theorem actionsFor_canonStatement (s : Store) (st : Statement) :
    s.actionsFor (s.graph.canonStatement st) =
      s.propertyActions.get (s.graph.canonKey st.predicate) ++ s.classActionsFor st := rfl

variable {s : Store} {es : List Event}

theorem History.classActionsFor_perm (h : s.History es)
    (htype : s.graph.canonKey (.named Rdf.type) = (Term.named Rdf.type).key) (st : Statement) :
    (s.classActionsFor st).Perm
      (((s.classes es).filter fun x => s.graph.types st x.1).map Prod.snd) := by
  rw [classActionsFor]
  by_cases hpredicate : s.graph.alike st.predicate (.named Rdf.type) = true
  · rw [if_pos ((Graph.iri?_canon_iff h.wellFormed _).mpr ⟨htype, hpredicate⟩)]
    refine (perm_registeredFor h.registrations.type st.object).trans (.of_eq ?_)
    refine congrArg (List.map Prod.snd) (List.filter_congr fun x _ => ?_)
    rw [Bool.eq_iff_iff, Graph.types, hpredicate, Bool.true_and, Term.same_iff_key, Graph.alike,
      beq_iff_eq]
    exact eq_comm
  · -- neither the addition nor the list of registrations has a class for this statement
    have hiri := mt (Graph.iri?_canon_iff h.wellFormed st.predicate).mp fun hboth => hpredicate hboth.2
    rw [if_neg hiri, List.filter_eq_nil_iff.mpr fun x _ => ?_]
    · exact .refl _
    · rw [Graph.types, Bool.eq_false_iff.mpr hpredicate]
      exact Bool.false_ne_true

theorem classActionsFor_of_merged (hwf : s.graph.WellFormed)
    (htype : s.graph.canonKey (.named Rdf.type) ≠ (Term.named Rdf.type).key) (st : Statement) :
    s.classActionsFor st = [] :=
  if_neg fun hiri => htype ((Graph.iri?_canon_iff hwf st.predicate).mp hiri).1

/-- An addition runs the actions of just those classes that the statement gives its subject as a type,
up to merging, and an action that is registered when the statement is stored already is run on it under
the same condition. This holds while the type predicate stands for itself; once it was merged away an
addition runs no action of a class. -/
theorem Reachable.typed_either_way {s : Store} (h : s.Reachable) (st : Statement) :
    (∀ es, s.History es → ∃ as bs : List Action,
      s.actionsFor (s.graph.canonStatement st) = as ++ bs ∧
      as.Perm (s.graph.registeredFor (s.properties es) st.predicate) ∧
      (s.graph.canonKey (.named Rdf.type) = (Term.named Rdf.type).key →
        bs.Perm (((s.classes es).filter fun x => s.graph.types st x.1).map Prod.snd)) ∧
      (s.graph.canonKey (.named Rdf.type) ≠ (Term.named Rdf.type).key → bs = []) ∧
      ∀ levels r ds t, Telling.addWith (Telling.apply levels) st s = some ((r, ds), t) →
        ∃ cs u, Telling.InTurn levels (s.graph.canonStatement st) s (as ++ bs) cs u ∧
          ((r = none ∧ t = u ∧ ds = cs) ∨
            (r = some (u.graph.insert st).1 ∧ t = u.change (.insert st) ∧
              ds = cs ++ [.changed (.insert st)]))) ∧
    ∀ levels type a suppressed ds t,
      Telling.onClassWith (Telling.apply levels) type a (s.change (.insert st)) =
        some ((suppressed, ds), t) →
      ∃ entries cs,
        Telling.OnEach levels a ((s.change (.insert st)).change (.onClass type a)) entries cs t ∧
        ds = .changed (.onClass type a) :: cs ∧ (entries.map Entry.id).Nodup ∧
        (∀ e, e ∈ entries ↔ (e ∈ s.graph.entries ∨ e = (s.graph.insert st).1) ∧
          s.graph.types e.statement type = true) ∧
        ((s.graph.insert st).1 ∈ entries ↔ s.graph.types st type = true) := by
  have hwf := h.wellFormed
  refine ⟨fun es hes => ?_, fun levels type a suppressed ds t hrun => ?_⟩
  · refine ⟨_, _, s.actionsFor_canonStatement st, perm_registeredFor hes.registrations.property _,
      fun htype => hes.classActionsFor_perm htype st, fun htype => classActionsFor_of_merged hwf htype st,
      fun levels r ds t hadd => ?_⟩
    exact Telling.addWith_inTurn hadd
  · have hwf' : (s.change (.insert st)).graph.WellFormed := hwf.insert st
    obtain ⟨entries, cs, heach, hds, hperm⟩ := Telling.onClassWith_onEach hwf' hrun
    have hmem : ∀ e, e ∈ entries ↔ (e ∈ s.graph.entries ∨ e = (s.graph.insert st).1) ∧
        s.graph.types e.statement type = true := by
      intro e
      rw [hperm.mem_iff, List.mem_filter]
      exact and_congr_left' (List.mem_append.trans (or_congr_right List.mem_singleton))
    refine ⟨entries, cs, heach, hds, ?_, hmem, ?_⟩
    · rw [(hperm.map Entry.id).nodup_iff]
      exact hwf'.distinct.sublist (List.filter_sublist.map Entry.id)
    · rw [hmem]
      exact and_iff_right (.inr rfl)

/-- The class and the type predicate have other names by now. -/
theorem typed_either_way_after_equates :
    let act : Action := fun _ => .done true
    let s := ((bare.change (.onClass (.named "c") act)).equate (.named "c") (.named "d")).equate
      (.named Rdf.type) (.named "kind")
    let st : Statement := ⟨.named "x", .named "kind", .named "d", .named "g"⟩
    s.Reachable ∧ s.graph.canonKey (.named Rdf.type) = (Term.named Rdf.type).key ∧
      s.graph.types st (.named "c") = true ∧ s.actionsFor (s.graph.canonStatement st) = [act] ∧
      ∃ entries t cs,
        Telling.onClassWith (Telling.apply 1) (.named "c") act (s.change (.insert st)) =
          some ((true, .changed (.onClass (.named "c") act) :: cs), t) ∧
        Telling.OnEach 1 act ((s.change (.insert st)).change (.onClass (.named "c") act)) entries cs t ∧
        (s.graph.insert st).1 ∈ entries := by
  intro act s st
  let es := [Event.changed (.onClass (.named "c") act), .changed (.equate (.named "c") (.named "d")),
    .changed (.equate (.named Rdf.type) (.named "kind"))]
  have hs : s.History es :=
    (((History.start { builtinActions := false }).registeredClass (.named "c") act).after 0
      (.equate (.named "c") (.named "d")) rfl).after 0 (.equate (.named Rdf.type) (.named "kind")) rfl
  have hoptions : s.options = bare.options :=
    (options_change _ (.equate _ _)).trans (options_change _ (.equate _ _))
  have hproperties : s.properties es = [] := by rw [properties, hoptions]; rfl
  have hclasses : s.classes es = [(.named "c", act)] := by rw [classes, hoptions]; rfl
  have hreachable : s.Reachable := reachable_iff_history.mpr ⟨es, hs⟩
  have htype : s.graph.canonKey (.named Rdf.type) = (Term.named Rdf.type).key := by decide +kernel
  have hempty : (bare.change (.onClass (.named "c") act)).graph.WellFormed := Graph.wellFormed_empty
  have hwf := wellFormed_equate hempty (.named "c") (.named "d")
  have hclass := Graph.alike_symm (alike_equate hempty (.named "c") (.named "d"))
  have htypes : s.graph.types st (.named "c") = true := Bool.and_eq_true_iff.mpr
    ⟨Graph.alike_symm (alike_equate hwf _ _), (Graph.Grows.equate hwf _ _).alike _ _ hclass⟩
  obtain ⟨hadding, hregistering⟩ := hreachable.typed_either_way st
  refine ⟨hreachable, htype, htypes, ?_, ?_⟩
  · obtain ⟨as, bs, hactions, has, hbs, -, -⟩ := hadding es hs
    have hbs := hbs htype
    rw [hproperties] at has
    rw [hclasses, List.filter_singleton, htypes] at hbs
    rw [hactions, has.eq_nil, List.perm_singleton.mp hbs, List.nil_append]
  · have hrun : (Telling.onClassWith (Telling.apply 1) (.named "c") act (s.change (.insert st))).any
        fun r => r.1.1 := by decide +kernel
    obtain ⟨⟨⟨suppressed, ds⟩, t⟩, htold, hsuppressed⟩ := (Option.any_eq_true ..).mp hrun
    obtain rfl : suppressed = true := hsuppressed
    obtain ⟨entries, cs, heach, rfl, -, -, hnew⟩ := hregistering 1 _ act true ds t htold
    exact ⟨entries, t, cs, htold, heach, hnew.mpr htypes⟩

/-- The type predicate is merged away. A statement that gives its subject a type by that predicate is
then added without the action of its class, which is run on it when it is registered afterwards. -/
theorem typed_apart :
    let act : Action := fun _ => .done true
    let s := (bare.change (.onClass (.named "c") act)).equate (.named "a") (.named Rdf.type)
    let st : Statement := ⟨.named "x", .named Rdf.type, .named "c", .named "g"⟩
    s.Reachable ∧ act ∈ s.classActions.get (s.graph.canonKey (.named "c")) ∧
      s.graph.types st (.named "c") = true ∧
      Telling.addWith (Telling.apply 1) st s =
        some ((some (s.graph.insert st).1, [.changed (.insert st)]), s.change (.insert st)) ∧
      ∃ ds t, Telling.onClassWith (Telling.apply 1) (.named "c") act (s.change (.insert st)) =
          some ((true, ds), t) ∧
        .applied act (s.graph.canonStatement st) ∈ ds := by
  intro act s st
  let es := [Event.changed (.onClass (.named "c") act),
    .changed (.equate (.named "a") (.named Rdf.type))]
  have hs : s.History es :=
    ((History.start { builtinActions := false }).registeredClass (.named "c") act).after 0
      (.equate (.named "a") (.named Rdf.type)) rfl
  have hwf := hs.wellFormed
  have hoptions : s.options = bare.options := options_change _ (.equate _ _)
  have hproperties : s.properties es = [] := by rw [properties, hoptions]; rfl
  have hclasses : s.classes es = [(.named "c", act)] := by rw [classes, hoptions]; rfl
  have htypes : s.graph.types st (.named "c") = true :=
    Bool.and_eq_true_iff.mpr ⟨beq_self_eq_true _, beq_self_eq_true _⟩
  have hmerged : s.graph.canonKey (.named Rdf.type) ≠ (Term.named Rdf.type).key := by decide +kernel
  refine ⟨reachable_iff_history.mpr ⟨es, hs⟩, ?_, htypes, ?_, ?_⟩
  · have hclass := perm_registeredFor hs.registrations.type (.named "c")
    have hsame : (s.graph.canon (.named "c")).same (s.graph.canon (.named "c")) = true :=
      Term.same_iff_key.mpr rfl
    rw [hclasses, Graph.registeredFor, List.filter_singleton, hsame] at hclass
    exact hclass.mem_iff.mpr (List.mem_singleton_self act)
  · -- no action is run, so the addition is nothing but the insertion
    have hproperty := perm_registeredFor hs.registrations.property st.predicate
    rw [hproperties] at hproperty
    have hactions : s.actionsFor (s.graph.canonStatement st) = [] := by
      rw [actionsFor_canonStatement, classActionsFor_of_merged hwf hmerged, hproperty.eq_nil,
        List.append_nil]
    refine Telling.bind_eq_some.mpr ⟨s, s, [], _, rfl, ?_, rfl⟩
    rw [hactions]
    rfl
  · have hrun : (Telling.onClassWith (Telling.apply 1) (.named "c") act (s.change (.insert st))).any
        fun r => r.1.1 := by decide +kernel
    obtain ⟨⟨⟨suppressed, ds⟩, t⟩, htold, hsuppressed⟩ := (Option.any_eq_true ..).mp hrun
    obtain rfl : suppressed = true := hsuppressed
    have hwf' : (s.change (.insert st)).graph.WellFormed := hwf.insert st
    obtain ⟨entries, cs, heach, rfl, hperm⟩ := Telling.onClassWith_onEach hwf' htold
    have hentries : entries = [(s.graph.insert st).1] :=
      List.perm_singleton.mp (hperm.trans (.of_eq (List.filter_cons_of_pos htypes)))
    rw [hentries] at heach
    cases heach with
    | cons suppress hfirst hrest => exact ⟨_, t, htold, List.mem_cons_of_mem _ (List.mem_cons_self ..)⟩

end Store

end QuadGraph
