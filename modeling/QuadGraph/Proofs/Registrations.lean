import QuadGraph.Proofs.Clashes

/-!
# Registered actions

An action is registered under the key of the term that stands for its predicate, or its class, at
that time. Merges move registrations along with buckets, so that a registry lists under a key just
what was registered for the terms that a term of that key stands for by now
(`Reachable.registrations_kept`). An addition runs them in turn, whatever they ask for
(`Telling.InTurn`).
-/

namespace QuadGraph

/-! ## What was registered -/

def Change.property? : Change → Option (Term × Action)
  | onProperty predicate a => some (predicate, a)
  | _ => none

def Change.class? : Change → Option (Term × Action)
  | onClass type a => some (type, a)
  | _ => none

def StoreOptions.properties (options : StoreOptions) : List (Term × Action) :=
  if options.builtinActions then [(.named Owl.sameAs, Action.sameAs)] else []

def StoreOptions.classes (options : StoreOptions) : List (Term × Action) :=
  if options.builtinActions then
    [(.named Owl.functionalProperty, Action.functionalClass),
      (.named Owl.inverseFunctionalProperty, Action.inverseFunctionalClass)]
  else []

namespace Store

def properties (s : Store) (es : List Event) : List (Term × Action) :=
  s.options.properties ++ (Event.changes es).filterMap Change.property?

def classes (s : Store) (es : List Event) : List (Term × Action) :=
  s.options.classes ++ (Event.changes es).filterMap Change.class?

end Store

/-- Those that were registered for a term that is by now stood for by the same term as this one. -/
def Graph.registeredFor (g : Graph) (regs : List (Term × Action)) (t : Term) : List Action :=
  (regs.filter fun x => (g.canon x.1).same (g.canon t)).map Prod.snd

/-! ## What registries hold -/

namespace Registry

variable {α : Type}

structure Holds (r : Registry α) (key : Term → String) (regs : List (Term × α)) : Prop where
  filed : ∀ k, (r.get k).Perm ((regs.filter fun x => key x.1 == k).map Prod.snd)
  current : ∀ k ∈ r.table, ∃ x ∈ regs, key x.1 = k

variable {r : Registry α} {key key' : Term → String} {regs : List (Term × α)}

theorem holds_empty (key : Term → String) : (Registry.empty : Registry α).Holds key [] where
  filed := by simp [get, empty]
  current := by simp [empty]

theorem Holds.register (h : r.Holds key regs) (t : Term) (a : α) :
    (r.register (key t) a).Holds key (regs ++ [(t, a)]) where
  filed := by
    intro k
    rw [get_register, List.filter_append, List.map_append]
    by_cases hk : k = key t
    · simp only [hk, if_true, List.filter_cons, beq_self_eq_true, List.filter_nil]
      exact (h.filed (key t)).append_right [a]
    · simpa [hk, Ne.symm hk] using h.filed k
  current := by
    intro k hk
    rw [Registry.register, Std.ExtTreeMap.mem_insert, Std.LawfulEqOrd.compare_eq_iff_eq] at hk
    rcases hk with hk | hk
    · exact ⟨(t, a), by simp, hk⟩
    · obtain ⟨x, hx, hkey⟩ := h.current k hk
      exact ⟨x, List.mem_append_left _ hx, hkey⟩

theorem Holds.migrate (h : r.Holds key regs) {big small : String} (hne : big ≠ small)
    (hkey : ∀ t, key' t = if key t = big then small else key t) :
    (r.migrate big small).Holds key' regs where
  filed := by
    intro k
    rw [get_migrate r hne]
    have hmoved := filter_key_perm hne (fun x : Term × α => hkey x.1) regs k
    refine .trans ?_ (hmoved.map Prod.snd).symm
    split
    case isTrue =>
      rw [List.map_append]
      exact (h.filed small).append (h.filed big)
    case isFalse =>
      split
      case isTrue => exact .refl _
      case isFalse => exact h.filed k
  current := by
    intro k hk
    unfold Registry.migrate at hk
    split at hk
    case h_1 hnone =>
      obtain ⟨x, hx, rfl⟩ := h.current k hk
      have hbig : key x.1 ≠ big := by
        rintro hbig
        rw [hbig, Std.ExtTreeMap.mem_iff_isSome_getElem?, hnone] at hk
        cases hk
      exact ⟨x, hx, by rw [hkey, if_neg hbig]⟩
    case h_2 moved hmoved =>
      rw [Std.ExtTreeMap.mem_insert, Std.LawfulEqOrd.compare_eq_iff_eq] at hk
      rcases hk with rfl | hk
      · have hbig : big ∈ r.table := Std.ExtTreeMap.mem_iff_isSome_getElem?.mpr (by simp [hmoved])
        obtain ⟨x, hx, hxkey⟩ := h.current big hbig
        exact ⟨x, hx, by rw [hkey, if_pos hxkey]⟩
      · rw [Std.ExtTreeMap.mem_erase] at hk
        obtain ⟨x, hx, rfl⟩ := h.current k hk.2
        have hbig : key x.1 ≠ big := by
          rintro hbig
          exact hk.1 (by rw [hbig]; exact Std.ReflCmp.compare_self)
        exact ⟨x, hx, by rw [hkey, if_neg hbig]⟩

end Registry

namespace Store

variable {s t : Store} {ps cs : List (Term × Action)}

structure Registered (s : Store) (ps cs : List (Term × Action)) : Prop where
  property : s.propertyActions.Holds s.graph.canonKey ps
  type : s.classActions.Holds s.graph.canonKey cs

theorem holds_moved (hwf : s.graph.WellFormed) {α : Type} {r : Registry α}
    {regs : List (Term × α)} (h : r.Holds s.graph.canonKey regs) (a b : Term) :
    (s.moved a b r).Holds (s.equate a b).graph.canonKey regs := by
  unfold moved
  cases hmerge : Graph.mergeOrder? (s.graph.canon a) (s.graph.canon b) with
  | none =>
    rw [equate, hmerge]
    exact h
  | some merged => exact h.migrate (mergeOrder?_key_ne hmerge) (canonKey_equate hwf hmerge)

theorem Registered.change (h : s.Registered ps cs) (hwf : s.graph.WellFormed) (c : Change) :
    (s.change c).Registered (ps ++ c.property?.toList) (cs ++ c.class?.toList) := by
  cases c with
  | equate a b =>
    have hproperty := holds_moved hwf h.property a b
    have htype := holds_moved hwf h.type a b
    rw [← propertyActions_equate] at hproperty
    rw [← classActions_equate] at htype
    simp only [Change.property?, Change.class?, Option.toList_none, List.append_nil]
    exact ⟨hproperty, htype⟩
  | onProperty predicate a =>
    simp only [Change.property?, Change.class?, Option.toList_none, List.append_nil]
    exact ⟨h.property.register predicate a, h.type⟩
  | onClass type a =>
    simp only [Change.property?, Change.class?, Option.toList_none, List.append_nil]
    exact ⟨h.property, h.type.register type a⟩
  | _ =>
    simp only [Change.property?, Change.class?, Option.toList_none, List.append_nil]
    exact ⟨h.property, h.type⟩

theorem Evolves.registered {ds : List Change} (he : s.Evolves ds t) (hwf : s.graph.WellFormed)
    (h : s.Registered ps cs) :
    t.Registered (ps ++ ds.filterMap Change.property?) (cs ++ ds.filterMap Change.class?) := by
  induction he generalizing ps cs with
  | nil s => simpa using h
  | @cons s t c ds hc _ ih =>
    have hrest := ih (wellFormed_change hwf hc) (h.change hwf c)
    rw [List.append_assoc, List.append_assoc] at hrest
    cases hp : c.property? <;> cases hc : c.class? <;>
      simpa [List.filterMap_cons, hp, hc] using hrest

theorem options_change (s : Store) (c : Change) : (s.change c).options = s.options := by
  cases c with
  | equate a b =>
    change (s.equate a b).options = s.options
    unfold equate
    split <;> rfl
  | _ => rfl

theorem Evolves.options {ds : List Change} (he : s.Evolves ds t) : t.options = s.options := by
  induction he with
  | nil s => rfl
  | cons _ _ ih => rw [ih, options_change]

theorem registered_ofOptions (options : StoreOptions) :
    (ofOptions options).Registered options.properties options.classes := by
  have hproperty := (Registry.holds_empty Term.key).register (.named Owl.sameAs) Action.sameAs
  have htype := ((Registry.holds_empty Term.key).register (.named Owl.functionalProperty)
    Action.functionalClass).register (.named Owl.inverseFunctionalProperty)
    Action.inverseFunctionalClass
  unfold ofOptions StoreOptions.properties StoreOptions.classes
  cases options.builtinActions with
  | true => exact ⟨hproperty, htype⟩
  | false => exact ⟨Registry.holds_empty _, Registry.holds_empty _⟩

theorem History.registrations {es : List Event} (h : s.History es) :
    s.Registered (s.properties es) (s.classes es) := by
  obtain ⟨options, hes⟩ := h.evolves
  have hoptions : s.options = options := hes.options
  have hstart := hes.registered Graph.wellFormed_empty (registered_ofOptions options)
  rw [← hoptions] at hstart
  exact hstart

theorem perm_registeredFor {r : Registry Action} {regs : List (Term × Action)}
    (h : r.Holds s.graph.canonKey regs) (p : Term) :
    (r.get (s.graph.canonKey p)).Perm (s.graph.registeredFor regs p) := by
  refine (h.filed _).trans (.of_eq (congrArg _ (List.filter_congr fun x _ => ?_)))
  rw [Bool.eq_iff_iff, beq_iff_eq, Term.same_iff_key]
  rfl

end Store

/-! ## Running registered actions -/

namespace Telling

/-- The actions are applied one after the other, each of them once, whatever they ask for. -/
inductive InTurn (levels : Nat) (st : Statement) :
    Store → List Action → List Event → Store → Prop
  | nil (s : Store) : InTurn levels st s [] [] s
  | cons {s t u : Store} {a : Action} {as : List Action} {ds es : List Event} (suppress : Bool)
      (hfirst : apply levels a st s = some ((suppress, .applied a st :: ds), t))
      (hrest : InTurn levels st t as es u) :
      InTurn levels st s (a :: as) (.applied a st :: ds ++ es) u

theorem applyAll_inTurn {levels : Nat} {as : List Action} {st : Statement} {s t : Store} {b : Bool}
    {es : List Event} (h : applyAll (apply levels) as st s = some ((b, es), t)) :
    InTurn levels st s as es t := by
  induction as generalizing s b es with
  | nil =>
    obtain ⟨-, rfl, rfl⟩ := pure_eq_some h
    exact .nil s
  | cons a as ih =>
    obtain ⟨first, others, u, ds, ds', hfirst, hothers, -, rfl⟩ := applyAll_cons h
    obtain ⟨n, ds₁, -, -, rfl⟩ := apply_eq_some hfirst
    exact .cons first hfirst (ih hothers)

end Telling

namespace Store

/-- Whatever was merged since, a registry holds under the key of a term just the actions that were
registered for the terms that are by now the same as that one, and it holds nothing under a key that
was given up. So an addition runs each of the actions registered for its predicate, and for its class,
once. -/
theorem Reachable.registrations_kept {s : Store} (h : s.Reachable) :
    (∃ es, s.History es) ∧ ∀ es, s.History es →
      (∀ p, (s.propertyActions.get (s.graph.canonKey p)).Perm
        (s.graph.registeredFor (s.properties es) p)) ∧
      (∀ c, (s.classActions.get (s.graph.canonKey c)).Perm
        (s.graph.registeredFor (s.classes es) c)) ∧
      (∀ k, k ∈ s.propertyActions.table ∨ k ∈ s.classActions.table →
        ∃ t, s.graph.canon t = t ∧ t.key = k) ∧
      ∀ levels st r ds t, Telling.addWith (Telling.apply levels) st s = some ((r, ds), t) →
        ∃ as bs cs u, as.Perm (s.graph.registeredFor (s.properties es) st.predicate) ∧
          bs.Perm (if (s.graph.canon st.predicate).iri? = some Rdf.type then
            s.graph.registeredFor (s.classes es) st.object else []) ∧
          Telling.InTurn levels (s.graph.canonStatement st) s (as ++ bs) cs u ∧
          ((r = none ∧ t = u ∧ ds = cs) ∨
            (r = some (u.graph.insert st).1 ∧ t = u.change (.insert st) ∧
              ds = cs ++ [.changed (.insert st)])) := by
  have hwf := h.wellFormed
  refine ⟨reachable_iff_history.mp h, fun es hes => ?_⟩
  have hregs := hes.registrations
  have hproperty := perm_registeredFor hregs.property
  have htype := perm_registeredFor hregs.type
  refine ⟨hproperty, htype, fun k hk => ?_, fun levels st r ds t hadd => ?_⟩
  · have hcurrent : ∃ t, s.graph.canonKey t = k := by
      rcases hk with hk | hk
      · obtain ⟨x, -, hx⟩ := hregs.property.current k hk
        exact ⟨x.1, hx⟩
      · obtain ⟨x, -, hx⟩ := hregs.type.current k hk
        exact ⟨x.1, hx⟩
    obtain ⟨t, rfl⟩ := hcurrent
    exact ⟨s.graph.canon t, hwf.canon_canon t, rfl⟩
  · obtain ⟨suppressed, u, cs, hactions, hend⟩ := Telling.addWith_eq_some hadd
    have hfor : s.actionsFor (s.graph.canonStatement st) =
        s.propertyActions.get (s.graph.canonKey st.predicate) ++
          if (s.graph.canon st.predicate).iri? = some Rdf.type then
            s.classActions.get (s.graph.canonKey st.object) else [] := rfl
    rw [hfor] at hactions
    refine ⟨_, _, cs, u, hproperty st.predicate, ?_, Telling.applyAll_inTurn hactions, ?_⟩
    · by_cases hiri : (s.graph.canon st.predicate).iri? = some Rdf.type
      · rw [if_pos hiri, if_pos hiri]
        exact htype st.object
      · rw [if_neg hiri, if_neg hiri]
    · rcases hend with ⟨-, hr, ht, hds⟩ | ⟨-, hr, ht, hds⟩
      · exact .inl ⟨hr, ht, hds⟩
      · exact .inr ⟨hr, ht, hds⟩

theorem registrations_kept_after_equate :
    let st : Statement := ⟨.named "a", .named "p", .named "b", .named "g"⟩
    let act : Action := fun _ => .done true
    let s := (bare.change (.onProperty (.named "p") act)).equate (.named "o") (.named "p")
    let es := [Event.changed (.onProperty (.named "p") act),
      .changed (.equate (.named "o") (.named "p"))]
    s.History es ∧ s.propertyActions.get (s.graph.canonKey (.named "o")) = [act] ∧
      ∃ ds, Telling.addWith (Telling.apply 1) st s = some ((none, ds), s) ∧
        Telling.InTurn 1 (s.graph.canonStatement st) s [act] ds s := by
  intro st act s es
  have hs : s.History es :=
    ((History.start { builtinActions := false }).registered (.named "p") act).after 0
      (.equate (.named "o") (.named "p")) rfl
  obtain ⟨-, hkept⟩ := (reachable_iff_history.mpr ⟨es, hs⟩).registrations_kept
  obtain ⟨hproperty, -, -, hadd⟩ := hkept es hs
  have hproperties : s.properties es = [(.named "p", act)] := by
    rw [properties, show s.options = bare.options from options_change _ (.equate _ _)]
    rfl
  have hregs : ∀ t, (s.graph.canon (.named "p")).same (s.graph.canon t) = true →
      s.graph.registeredFor (s.properties es) t = [act] := by
    intro t ht
    rw [hproperties]
    simp [Graph.registeredFor, ht]
  have huntyped : (s.graph.canon (.named "p")).iri? ≠ some Rdf.type := by decide +kernel
  have hget : s.propertyActions.get (s.graph.canonKey (.named "p")) = [act] :=
    List.perm_singleton.mp (hregs (.named "p") (by decide +kernel) ▸ hproperty (.named "p"))
  have hactions : s.actionsFor (s.graph.canonStatement st) = [act] := by
    change _ ++ (if (s.graph.canon (.named "p")).iri? = some Rdf.type then _ else _) = _
    rw [if_neg huntyped, List.append_nil]
    exact hget
  have hrun : Telling.addWith (Telling.apply 1) st s =
      some ((none, [.applied act (s.graph.canonStatement st)]), s) := by
    refine Telling.bind_eq_some.mpr ⟨s, s, [], _, rfl, ?_, rfl⟩
    rw [hactions]
    rfl
  refine ⟨hs, ?_, _, hrun, ?_⟩
  · exact List.perm_singleton.mp (hregs (.named "o") (by decide +kernel) ▸ hproperty (.named "o"))
  · obtain ⟨as, bs, cs, u, has, hbs, hturn, hend⟩ := hadd 1 st none _ s hrun
    rw [hregs st.predicate (by decide +kernel)] at has
    rw [if_neg huntyped] at hbs
    obtain rfl := List.perm_singleton.mp has
    obtain rfl := hbs.eq_nil
    rcases hend with ⟨-, rfl, rfl⟩ | ⟨hnone, -⟩
    · exact hturn
    · cases hnone

end Store

end QuadGraph
