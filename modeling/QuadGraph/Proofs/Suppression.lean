import QuadGraph.Proofs.Smushing

/-!
# Suppressed statements

A built-in action asks for a statement to be suppressed when it has merged two terms, and then the
store knows what the statement says: its subject and object are the same by now, or a statement is
stored that says so up to merging (`Graph.Knows`). Whatever the other actions of the addition merge
after that, it stays known (`Absorbs.knows`). So an addition that stores nothing loses nothing
(`Reachable.suppressed_known`).
-/

namespace QuadGraph

/-! ## What a graph knows -/

namespace Graph

/-- A statement is stored that says the same up to merging, in whatever context. -/
def Says (g : Graph) (st : Statement) : Prop :=
  ∃ e ∈ g.entries, g.alike e.statement.subject st.subject = true ∧
    g.alike e.statement.predicate st.predicate = true ∧
    g.alike e.statement.object st.object = true

def Knows (g : Graph) (st : Statement) : Prop :=
  g.alike st.subject st.object = true ∨ g.Says st

variable {g : Graph} {st : Statement}

theorem holds_iff_says (hwf : g.WellFormed) :
    g.holds ⟨some st.subject, some st.predicate, some st.object, none⟩ = true ↔ g.Says st := by
  rw [holds_eq, Bool.not_eq_true', List.isEmpty_eq_false_iff_exists_mem]
  refine exists_congr fun e => ?_
  rw [(hwf.matching_perm _).mem_iff, List.mem_filter, meets_iff]
  simp [given, Position.all, Quad.get, alike]

/-- A first rival that has the same value says the same. -/
theorem Says.of_rival {σ : Sense} {m : Entry} (hm : m ∈ g.entries)
    (hrivals : σ.rivals g m.statement st = true) (hagree : σ.agree g m.statement st = true) :
    g.Says st := by
  obtain ⟨hpredicate, hkey⟩ := Sense.rivals_iff.mp hrivals
  cases σ with
  | functional => exact ⟨m, hm, hkey, hpredicate, hagree⟩
  | inverse => exact ⟨m, hm, hagree, hpredicate, hkey⟩

end Graph

namespace Store

structure Absorbs (s t : Store) : Prop where
  wellFormed : t.graph.WellFormed
  entries : t.graph.entries = s.graph.entries
  alike : ∀ x y, s.graph.alike x y = true → t.graph.alike x y = true
  property : ∀ a p, a ∈ s.propertyActions.get (s.graph.canonKey p) →
    a ∈ t.propertyActions.get (t.graph.canonKey p)

namespace Absorbs

variable {s t u : Store} {st : Statement}

theorem refl (hwf : s.graph.WellFormed) : s.Absorbs s := ⟨hwf, rfl, fun _ _ h => h, fun _ _ h => h⟩

theorem trans (h : s.Absorbs t) (h' : t.Absorbs u) : s.Absorbs u where
  wellFormed := h'.wellFormed
  entries := h'.entries.trans h.entries
  alike := fun x y hxy => h'.alike x y (h.alike x y hxy)
  property := fun a p ha => h'.property a p (h.property a p ha)

theorem equate (hwf : s.graph.WellFormed) (x y : Term) : s.Absorbs (s.equate x y) where
  wellFormed := wellFormed_equate hwf x y
  entries := entries_equate s x y
  alike := (Graph.Grows.equate hwf x y).alike
  property := by
    intro a p ha
    rw [propertyActions_equate]
    exact mem_get_moved hwf x y ha

theorem onProperty (hwf : s.graph.WellFormed) (p : Term) (a : Action) :
    s.Absorbs (s.change (.onProperty p a)) where
  wellFormed := hwf
  entries := rfl
  alike := fun _ _ h => h
  property := fun _ _ h => Registry.mem_get_register.mpr (.inl h)

theorem knows (h : s.Absorbs t) (hknows : s.graph.Knows st) : t.graph.Knows st := by
  rcases hknows with hsame | ⟨e, he, hsubject, hpredicate, hobject⟩
  · exact .inl (h.alike _ _ hsame)
  · exact .inr ⟨e, h.entries ▸ he, h.alike _ _ hsubject, h.alike _ _ hpredicate,
      h.alike _ _ hobject⟩

theorem alike_of_canon (hwf : s.graph.WellFormed) (h : s.Absorbs t) {x y : Term}
    (hxy : t.graph.alike (s.graph.canon x) (s.graph.canon y) = true) :
    t.graph.alike x y = true := by
  have hcanon : ∀ z, t.graph.alike (s.graph.canon z) z = true :=
    fun z => h.alike _ _ (Graph.alike_canon hwf z)
  exact Graph.alike_trans (Graph.alike_symm (hcanon x)) (Graph.alike_trans hxy (hcanon y))

/-- What is known of a statement in the terms that stood for its own is known of the statement. -/
theorem knows_of_canonStatement (hwf : s.graph.WellFormed) (h : s.Absorbs t)
    (hknows : t.graph.Knows (s.graph.canonStatement st)) : t.graph.Knows st := by
  have hcanon : ∀ x, t.graph.alike (s.graph.canon x) x = true :=
    fun x => h.alike _ _ (Graph.alike_canon hwf x)
  rcases hknows with hsame | ⟨e, he, hsubject, hpredicate, hobject⟩
  · exact .inl (h.alike_of_canon hwf hsame)
  · exact .inr ⟨e, he, Graph.alike_trans hsubject (hcanon _),
      Graph.alike_trans hpredicate (hcanon _), Graph.alike_trans hobject (hcanon _)⟩

end Absorbs

end Store

/-! ## What the built-in actions do -/

theorem Action.Builtin.cases {a : Action} (h : a.Builtin) :
    a.Merges ∨ ∃ σ : Sense, a = σ.typeAction := by
  cases h with
  | sameAs => exact .inl .sameAs
  | functional => exact .inl (.ofSense .functional)
  | inverseFunctional => exact .inl (.ofSense .inverse)
  | functionalClass => exact .inr ⟨.functional, rfl⟩
  | inverseFunctionalClass => exact .inr ⟨.inverse, rfl⟩

namespace Telling

variable {levels : Nat} {s t : Store} {st : Statement} {a : Action} {b : Bool} {es : List Event}

theorem apply_sameAs (h : apply levels Action.sameAs st s = some ((b, es), t)) :
    b = true ∧ t = s.equate st.subject st.object := by
  obtain ⟨n, ds, -, hrun, -⟩ := apply_eq_some h
  obtain ⟨rfl, -, rfl⟩ := runWith_merge hrun
  exact ⟨rfl, rfl⟩

theorem merges_absorbs (hwf : s.graph.WellFormed) (ha : a.Merges)
    (h : apply levels a st s = some ((b, es), t)) : s.Absorbs t := by
  rcases apply_merges ha h with ⟨-, -, rfl⟩ | ⟨-, x, y, -, rfl⟩
  · exact .refl hwf
  · exact .equate hwf x y

theorem applyToEach_absorbs {rest : List Entry} (hwf : s.graph.WellFormed) (ha : a.Merges)
    (h : applyToEach (apply levels) a rest s = some ((b, es), t)) : s.Absorbs t := by
  induction rest generalizing s b es with
  | nil =>
    obtain ⟨-, rfl⟩ := Prod.mk.inj (Option.some.inj h)
    exact .refl hwf
  | cons e rest ih =>
    obtain ⟨first, others, u, ds, ds', hfirst, hothers, -⟩ := applyToEach_cons h
    have habsorbs := merges_absorbs hwf ha hfirst
    exact habsorbs.trans (ih habsorbs.wellFormed hothers)

theorem apply_absorbs (hwf : s.graph.WellFormed) (ha : a.Builtin)
    (h : apply levels a st s = some ((b, es), t)) : s.Absorbs t := by
  rcases ha.cases with hmerges | ⟨σ, rfl⟩
  · exact merges_absorbs hwf hmerges h
  · obtain ⟨-, n, c, ds, heach, -⟩ := apply_typeAction h
    exact (Store.Absorbs.onProperty hwf st.subject σ.action).trans
      (applyToEach_absorbs hwf (.ofSense σ) heach)

/-- An action that asks for suppression leaves a store that knows the statement. -/
theorem apply_knows (hwf : s.graph.WellFormed) (ha : a.Builtin)
    (h : apply levels a st s = some ((true, es), t)) : t.graph.Knows st := by
  rcases ha.cases with hmerges | ⟨σ, rfl⟩
  · cases hmerges with
    | sameAs =>
      obtain ⟨-, rfl⟩ := apply_sameAs h
      exact .inl (Store.alike_equate hwf _ _)
    | ofSense σ =>
      rcases apply_action h with ⟨hfalse, -⟩ | ⟨-, m, hm, -, rfl⟩
      · cases hfalse
      · -- the first rival has the value of the statement now
        obtain ⟨hmem, hrivals⟩ := Sense.mem_of_first? hwf hm
        obtain ⟨hpredicate, hkey⟩ := Sense.rivals_iff.mp hrivals
        have habsorbs := Store.Absorbs.equate hwf (m.statement.get σ.value) (st.get σ.value)
        exact .inr (.of_rival (habsorbs.entries.symm ▸ hmem)
          (Sense.rivals_iff.mpr ⟨habsorbs.alike _ _ hpredicate, habsorbs.alike _ _ hkey⟩)
          (Store.alike_equate hwf _ _))
  · obtain ⟨hfalse, -⟩ := apply_typeAction h
    cases hfalse

/-- Each of the actions has its turn, and they ask for suppression if one of them does. -/
theorem applyAll_turns {as : List Action} (hwf : s.graph.WellFormed) (has : ∀ a ∈ as, a.Builtin)
    (h : applyAll (apply levels) as st s = some ((b, es), t)) :
    s.Absorbs t ∧
    (∀ a ∈ as, ∃ first u v ds, s.Absorbs u ∧ apply levels a st u = some ((first, ds), v) ∧
      v.Absorbs t ∧ (first = true → b = true)) ∧
    (b = true → ∃ a ∈ as, ∃ u v ds, s.Absorbs u ∧ apply levels a st u = some ((true, ds), v) ∧
      v.Absorbs t) := by
  induction as generalizing s b es with
  | nil =>
    obtain ⟨rfl, -, rfl⟩ := pure_eq_some h
    exact ⟨.refl hwf, fun a ha => absurd ha List.not_mem_nil, fun hb => nomatch hb⟩
  | cons a as ih =>
    rw [List.forall_mem_cons] at has
    obtain ⟨first, others, u, ds, ds', hfirst, hothers, rfl, -⟩ := applyAll_cons h
    have habsorbs := apply_absorbs hwf has.1 hfirst
    obtain ⟨hrest, hall, hone⟩ := ih habsorbs.wellFormed has.2 hothers
    refine ⟨habsorbs.trans hrest, fun x hx => ?_, fun hb => ?_⟩
    · rcases List.mem_cons.mp hx with rfl | hx
      · exact ⟨first, s, u, ds, .refl hwf, hfirst, hrest, fun hf => by rw [hf, Bool.true_or]⟩
      · obtain ⟨f, v, w, cs, hv, hrun, hw, hf⟩ := hall x hx
        exact ⟨f, v, w, cs, habsorbs.trans hv, hrun, hw, fun h => by rw [hf h, Bool.or_true]⟩
    · rcases (Bool.or_eq_true _ _).mp hb with rfl | rfl
      · exact ⟨a, List.mem_cons_self .., s, u, ds, .refl hwf, hfirst, hrest⟩
      · obtain ⟨x, hx, v, w, cs, hv, hrun, hw⟩ := hone rfl
        exact ⟨x, List.mem_cons_of_mem a hx, v, w, cs, habsorbs.trans hv, hrun, hw⟩

theorem addWith_of_add {r : Option Entry} (h : StoreM.add levels st s = some (r, t)) :
    ∃ es, addWith (apply levels) st s = some ((r, es), t) := by
  have htold : mute (addWith (apply levels) st) s = some (r, t) := by
    rw [mute_addWith (mute_apply levels)]
    exact h
  obtain ⟨⟨⟨r', es⟩, t'⟩, hrun, heq⟩ := Option.map_eq_some_iff.mp htold
  obtain ⟨rfl, rfl⟩ := Prod.mk.inj heq
  exact ⟨es, hrun⟩

end Telling

/-! ## Adding -/

namespace Store

/-- Every addition ends, and one that stores nothing leaves the list as it was: the statement makes its
subject and its object the same, or a statement is found that says what it says. -/
theorem Reachable.suppressed_known {s : Store} (h : s.Reachable) (hs : s.Builtin) (st : Statement) :
    (∀ levels, ∃ r t, StoreM.add (levels + 2) st s = some (r, t)) ∧
    ∀ levels t, StoreM.add levels st s = some (none, t) →
      t.graph.entries = s.graph.entries ∧
      (t.graph.alike st.subject st.object = true ∨
        t.graph.holds ⟨some st.subject, some st.predicate, some st.object, none⟩ = true) := by
  have hwf := h.wellFormed
  refine ⟨fun levels => StoreM.add_ends levels st hs, fun levels t hadd => ?_⟩
  obtain ⟨es, htold⟩ := Telling.addWith_of_add hadd
  obtain ⟨suppressed, u, ds, hactions, hend⟩ := Telling.addWith_eq_some htold
  rcases hend with ⟨rfl, -, rfl, -⟩ | ⟨-, hsome, -⟩
  · obtain ⟨habsorbs, -, hone⟩ := Telling.applyAll_turns hwf (fun _ ha => hs.actionsFor ha) hactions
    obtain ⟨a, ha, v, w, cs, hv, hrun, hw⟩ := hone rfl
    have hknows := hw.knows (Telling.apply_knows hv.wellFormed (hs.actionsFor ha) hrun)
    refine ⟨habsorbs.entries, ?_⟩
    rw [Graph.holds_iff_says habsorbs.wellFormed]
    exact habsorbs.knows_of_canonStatement hwf hknows
  · cases hsome

theorem Reachable.add {s t : Store} (h : s.Reachable) {levels : Nat} {st : Statement}
    {r : Option Entry} (hadd : StoreM.add levels st s = some (r, t)) : t.Reachable :=
  .after h levels (.add st) (StoreM.bind_eq_some.mpr ⟨r, t, hadd, rfl⟩)

/-- A second value of a functional property is merged with the first. -/
theorem suppressed_known_of_functional :
    let said : String → Statement := fun x => ⟨.named "a", .named "p", .named x, .named "g"⟩
    ∃ s t : Store, s.Reachable ∧ s.Builtin ∧ StoreM.add 2 (said "y") s = some (none, t) ∧
      t.graph.entries = s.graph.entries ∧ t.graph.entries.length = 2 ∧
      t.graph.holds ⟨some (.named "a"), some (.named "p"), some (.named "y"), none⟩ = true := by
  intro said
  let spoken : Statement := ⟨.named "p", .named Rdf.type, .named Owl.functionalProperty, .named "g"⟩
  have hrun : ((StoreM.add 2 spoken new).bind fun x => (StoreM.add 2 (said "x") x.2).bind fun y =>
      StoreM.add 2 (said "y") y.2).any (fun z => z.1.isNone && z.2.graph.entries.length == 2 &&
        !z.2.graph.alike (.named "a") (.named "y")) = true := by decide +kernel
  obtain ⟨⟨r, t⟩, hadds, hend⟩ := (Option.any_eq_true ..).mp hrun
  obtain ⟨⟨r₁, u⟩, hspoken, hrest⟩ := Option.bind_eq_some_iff.mp hadds
  obtain ⟨⟨r₂, s⟩, hsaid, hadd⟩ := Option.bind_eq_some_iff.mp hrest
  simp only [Bool.and_eq_true, Option.isNone_iff_eq_none, beq_iff_eq, Bool.not_eq_true'] at hend
  obtain ⟨⟨rfl, hlength⟩, hdiffer⟩ := hend
  have hs : s.Reachable := ((Reachable.start {}).add hspoken).add hsaid
  have hgrows := StoreM.add_adds 2 spoken Graph.wellFormed_empty (builtin_ofOptions {}) hspoken
  have hbuiltin := (StoreM.add_adds 2 (said "x") hgrows.wellFormed hgrows.builtin hsaid).builtin
  obtain ⟨hentries, hknown⟩ := (hs.suppressed_known hbuiltin (said "y")).2 2 t hadd
  refine ⟨s, t, hs, hbuiltin, hadd, hentries, hlength, hknown.resolve_left fun hsame => ?_⟩
  exact Bool.false_ne_true (hdiffer.symm.trans hsame)

end Store

end QuadGraph
