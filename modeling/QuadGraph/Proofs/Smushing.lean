import QuadGraph.Proofs.Clashes

/-!
# Functional properties stay closed

In a store with the built-in actions the action of a property is run on each statement that is added
to it, and on those that it has already when it is declared. So a property is closed after every
addition, in whatever order data and declarations come, as long as the merges on the way are calm
(`Sense.addAll_closed`). Where they are not, nothing repairs it (`Sense.closed_not_always`).
-/

namespace QuadGraph

namespace Telling

variable {levels : Nat} {s t : Store} {st : Statement} {b : Bool} {es : List Event}

/-! ## What the actions do -/

theorem runWith_merge {told : Action → Statement → Telling Bool} {x y : Term}
    (h : runWith told (.equate x y (.done true)) s = some ((b, es), t)) :
    b = true ∧ Event.changes es = [.equate x y] ∧ t = s.equate x y := by
  obtain ⟨_, u, ds, ds', hmake, hrun, rfl⟩ := bind_eq_some.mp h
  obtain ⟨rfl, rfl⟩ := make_eq_some hmake
  obtain ⟨rfl, rfl, rfl⟩ := runWith_done hrun
  exact ⟨rfl, rfl, rfl⟩

/-- The action of a functional property goes by the first rival. -/
theorem apply_action_run {σ : Sense} (h : apply levels σ.action st s = some ((b, es), t)) :
    ∃ n ds, es = .applied σ.action st :: ds ∧
      runWith (apply n) (match σ.first? s.graph st with
        | none => .done false
        | some m =>
          if (s.graph.canon (m.statement.get σ.value)).same (st.get σ.value) then .done false
          else .equate (m.statement.get σ.value) (st.get σ.value) (.done true)) s =
        some ((b, ds), t) := by
  obtain ⟨n, ds, -, hrun, hes⟩ := apply_eq_some h
  rw [σ.action_eq] at hrun
  have hlook := runWith_look hrun
  rw [σ.any?_mask] at hlook
  refine ⟨n, ds, hes, ?_⟩
  cases hm : σ.first? s.graph st with
  | none =>
    rw [hm] at hlook
    exact hlook
  | some m =>
    rw [hm] at hlook
    exact hlook

/-- The action of a functional property leaves the store alone if the first rival has the same value,
and merges the two values otherwise. -/
theorem apply_action {σ : Sense} (h : apply levels σ.action st s = some ((b, es), t)) :
    (b = false ∧ Event.changes es = [] ∧ t = s ∧ ∀ m, σ.first? s.graph st = some m →
      (s.graph.canon (m.statement.get σ.value)).same (st.get σ.value) = true) ∨
    (b = true ∧ ∃ m, σ.first? s.graph st = some m ∧
      Event.changes es = [.equate (m.statement.get σ.value) (st.get σ.value)] ∧
      t = s.equate (m.statement.get σ.value) (st.get σ.value)) := by
  obtain ⟨n, ds, rfl, hrun⟩ := apply_action_run h
  cases hm : σ.first? s.graph st with
  | none =>
    rw [hm] at hrun
    obtain ⟨rfl, rfl, rfl⟩ := runWith_done hrun
    exact .inl ⟨rfl, rfl, rfl, fun m hm => nomatch hm⟩
  | some m =>
    simp only [hm] at hrun
    split at hrun
    case isTrue hsame =>
      obtain ⟨rfl, rfl, rfl⟩ := runWith_done hrun
      refine .inl ⟨rfl, rfl, rfl, fun m' hm' => ?_⟩
      obtain rfl := Option.some.inj hm'
      exact hsame
    case isFalse =>
      obtain ⟨rfl, hds, rfl⟩ := runWith_merge hrun
      exact .inr ⟨rfl, m, rfl, hds, rfl⟩

theorem apply_merges {a : Action} (ha : a.Merges) (h : apply levels a st s = some ((b, es), t)) :
    (b = false ∧ Event.changes es = [] ∧ t = s) ∨
      (b = true ∧ ∃ x y, Event.changes es = [.equate x y] ∧ t = s.equate x y) := by
  cases ha with
  | sameAs =>
    obtain ⟨n, ds, -, hrun, hes⟩ := apply_eq_some h
    obtain ⟨rfl, hds, rfl⟩ := runWith_merge hrun
    rw [hes]
    exact .inr ⟨rfl, st.subject, st.object, hds, rfl⟩
  | ofSense σ =>
    rcases apply_action h with ⟨rfl, hes, rfl, -⟩ | ⟨rfl, m, -, hes, rfl⟩
    · exact .inl ⟨rfl, hes, rfl⟩
    · exact .inr ⟨rfl, _, _, hes, rfl⟩

/-- The action of a class registers the action of the property and runs it on the statements that the
property has by then. -/
theorem apply_typeAction {σ : Sense} (h : apply levels σ.typeAction st s = some ((b, es), t)) :
    b = false ∧ ∃ n c ds, applyToEach (apply n) σ.action (s.graph.bucket .predicate st.subject)
        (s.change (.onProperty st.subject σ.action)) = some ((c, ds), t) ∧
      Event.changes es = .onProperty st.subject σ.action :: Event.changes ds := by
  obtain ⟨n, ds, -, hrun, hes⟩ := apply_eq_some h
  rw [σ.typeAction_eq] at hrun
  obtain ⟨c, u, ds₁, ds₂, hproperty, hdone, rfl⟩ := bind_eq_some.mp hrun
  obtain ⟨rfl, rfl, rfl⟩ := runWith_done hdone
  obtain ⟨_, v, ds₃, ds₄, hmake, hrest, rfl⟩ := bind_eq_some.mp hproperty
  obtain ⟨rfl, rfl⟩ := make_eq_some hmake
  obtain ⟨w, x, ds₅, ds₆, hget, heach, rfl⟩ := bind_eq_some.mp hrest
  obtain ⟨rfl, rfl, rfl⟩ := get_eq_some hget
  have hbucket : (s.change (.onProperty st.subject σ.action)).graph.matching
      ⟨none, some st.subject, none, none⟩ = s.graph.bucket .predicate st.subject :=
    List.filter_true _
  rw [hbucket] at heach
  refine ⟨rfl, n, c, ds₆, heach, ?_⟩
  rw [hes, List.append_nil]
  rfl

/-- Actions of a predicate that suppress nothing have changed nothing. -/
theorem applyAll_false {as : List Action} (has : ∀ a ∈ as, a.Merges)
    (h : applyAll (apply levels) as st s = some ((false, es), t)) :
    t = s ∧ ∀ σ : Sense, σ.action ∈ as → ∀ m, σ.first? s.graph st = some m →
      (s.graph.canon (m.statement.get σ.value)).same (st.get σ.value) = true := by
  induction as generalizing es with
  | nil =>
    obtain ⟨-, rfl⟩ := Prod.mk.inj (Option.some.inj h)
    exact ⟨rfl, fun σ hσ => absurd hσ List.not_mem_nil⟩
  | cons a as ih =>
    rw [List.forall_mem_cons] at has
    obtain ⟨first, others, u, ds, ds', hfirst, hothers, hor, rfl⟩ := applyAll_cons h
    obtain ⟨rfl, rfl⟩ := Bool.or_eq_false_iff.mp hor.symm
    have hsame : u = s := by
      rcases apply_merges has.1 hfirst with ⟨-, -, hu⟩ | ⟨htrue, -⟩
      · exact hu
      · cases htrue
    subst hsame
    obtain ⟨rfl, hfits⟩ := ih has.2 hothers
    refine ⟨rfl, fun σ hσ => ?_⟩
    rcases List.mem_cons.mp hσ with rfl | hσ
    · rcases apply_action hfirst with ⟨-, -, -, hfit⟩ | ⟨htrue, -⟩
      · exact hfit
      · cases htrue
    · exact hfits σ hσ

end Telling

/-! ## What a run of actions keeps -/

namespace Sense

variable {σ : Sense} {levels : Nat} {s t : Store} {st : Statement} {b : Bool} {es : List Event}

theorem keeps_merges {a : Action} (ha : a.Merges) (h : σ.Sound s) (hclear : σ.Clear s)
    (hrun : Telling.apply levels a st s = some ((b, es), t))
    (hcalm : σ.CalmAll s (Event.changes es)) : σ.Leads s t ∧ σ.Clear t := by
  rcases Telling.apply_merges ha hrun with ⟨-, -, rfl⟩ | ⟨-, x, y, hes, rfl⟩
  · exact ⟨.refl h, hclear⟩
  · rw [hes] at hcalm
    exact ⟨h.leads_equate x y, hclear.equate hcalm.1⟩

theorem keeps_each {a : Action} (ha : a.Merges) {rest : List Entry} (h : σ.Sound s)
    (hclear : σ.Clear s)
    (hrun : Telling.applyToEach (Telling.apply levels) a rest s = some ((b, es), t))
    (hcalm : σ.CalmAll s (Event.changes es)) : σ.Leads s t ∧ σ.Clear t := by
  induction rest generalizing s b es with
  | nil =>
    obtain ⟨-, rfl⟩ := Prod.mk.inj (Option.some.inj hrun)
    exact ⟨.refl h, hclear⟩
  | cons e rest ih =>
    obtain ⟨first, others, u, ds, ds', hfirst, hothers, rfl⟩ := Telling.applyToEach_cons hrun
    rw [Event.changes_append] at hcalm
    obtain ⟨hcalm₁, hcalm₂⟩ := hcalm.append (Telling.faithful_apply levels _ _ h.wellFormed hfirst)
    obtain ⟨hleads, hclear'⟩ := keeps_merges ha h hclear hfirst hcalm₁
    obtain ⟨hleads', hclear''⟩ := ih hleads.sound hclear' hothers hcalm₂
    exact ⟨hleads.trans hleads', hclear''⟩

theorem Pending.step {p : Term} {done rest : List Entry} {e : Entry} (h : σ.Sound s)
    (hpending : σ.Pending s p done (e :: rest))
    (hrun : Telling.apply levels σ.action (s.graph.canonStatement e.statement) s =
      some ((b, es), t))
    (hcalm : σ.CalmAll s (Event.changes es)) :
    σ.Leads s t ∧ (σ.Clear t ∨ σ.Pending t p (done ++ [e]) rest) := by
  have hfirst : σ.first? s.graph (s.graph.canonStatement e.statement) =
      σ.first? s.graph e.statement := first?_canonStatement h.wellFormed e.statement
  have hbucket : s.graph.bucket .predicate p = (done ++ [e]) ++ rest := by
    rw [hpending.bucket, List.append_assoc, List.singleton_append]
  rcases Telling.apply_action hrun with ⟨-, -, rfl, hfits⟩ | ⟨-, m, hm, hes, rfl⟩
  · refine ⟨.refl h, .inr ⟨hbucket, hpending.under, fun x hx m hm => ?_⟩⟩
    rcases List.mem_append.mp hx with hx | hx
    · exact hpending.settled x hx m hm
    · obtain rfl := List.mem_singleton.mp hx
      exact agree_of_same (hfits m (hfirst.trans hm))
  · rw [hes] at hcalm
    have hleads := h.leads_equate (m.statement.get σ.value)
      ((s.graph.canonStatement e.statement).get σ.value)
    refine ⟨hleads, Pending.equate h.wellFormed hcalm.1 hbucket hpending.under fun x hx m' hm' => ?_⟩
    rcases List.mem_append.mp hx with hx | hx
    · exact hleads.grows.alike _ _ (hpending.settled x hx m' hm')
    · obtain rfl := List.mem_singleton.mp hx
      obtain rfl : m' = m := Option.some.inj (hm'.symm.trans (hfirst.symm.trans hm))
      have hmerged := Store.alike_equate h.wellFormed (m'.statement.get σ.value)
        ((s.graph.canonStatement x.statement).get σ.value)
      have hcanon : s.graph.alike ((s.graph.canonStatement x.statement).get σ.value)
          (x.statement.get σ.value) = true := by
        rw [Graph.canonStatement, Quad.get_map]
        exact Graph.alike_canon h.wellFormed _
      exact Graph.alike_symm (Graph.alike_trans hmerged (hleads.grows.alike _ _ hcanon))

/-- The action of a property is run on all the statements that it has. -/
theorem Pending.settles {p : Term} {done rest : List Entry} (h : σ.Sound s)
    (hpending : σ.Pending s p done rest)
    (hrun : Telling.applyToEach (Telling.apply levels) σ.action rest s = some ((b, es), t))
    (hcalm : σ.CalmAll s (Event.changes es)) : σ.Leads s t ∧ σ.Clear t := by
  induction rest generalizing s done b es with
  | nil =>
    obtain ⟨-, rfl⟩ := Prod.mk.inj (Option.some.inj hrun)
    exact ⟨.refl h, hpending.clear h.wellFormed⟩
  | cons e rest ih =>
    obtain ⟨first, others, u, ds, ds', hfirst, hothers, rfl⟩ := Telling.applyToEach_cons hrun
    rw [Event.changes_append] at hcalm
    obtain ⟨hcalm₁, hcalm₂⟩ := hcalm.append (Telling.faithful_apply levels _ _ h.wellFormed hfirst)
    obtain ⟨hleads, hnext⟩ := hpending.step h hfirst hcalm₁
    have hlast : σ.Leads u t ∧ σ.Clear t := by
      cases hnext with
      | inl hclear => exact keeps_each (.ofSense σ) hleads.sound hclear hothers hcalm₂
      | inr hpending' => exact ih hleads.sound hpending' hothers hcalm₂
    exact ⟨hleads.trans hlast.1, hlast.2⟩

theorem keeps_typeAction {τ : Sense} (h : σ.Sound s) (hclear : σ.Clear s)
    (hrun : Telling.apply levels τ.typeAction st s = some ((b, es), t))
    (hcalm : σ.CalmAll s (Event.changes es)) :
    σ.Leads s t ∧ σ.Clear t ∧ (τ = σ → σ.Governs t st.subject) := by
  obtain ⟨-, n, c, ds, heach, hes⟩ := Telling.apply_typeAction hrun
  rw [hes] at hcalm
  have hleads := h.leads_onProperty st.subject (.ofSense τ)
  have hgoverns : τ = σ →
      σ.Governs (s.change (.onProperty st.subject τ.action)) st.subject := by
    rintro rfl
    exact Registry.mem_get_register.mpr (.inr ⟨rfl, rfl⟩)
  -- what clashes now has the new property
  have hnew : ∀ e f, σ.Clash (s.change (.onProperty st.subject τ.action)) e f →
      s.graph.alike e.statement.predicate st.subject = true ∧ σ.action = τ.action := by
    intro e f hclash
    have hold : ¬ σ.Governs s e.statement.predicate := fun hgoverns =>
      hclear e f ⟨hclash.left, hclash.right, hgoverns, hclash.untyped, hclash.rivals, hclash.differ⟩
    obtain ⟨hkey, haction⟩ := (Registry.mem_get_register.mp hclash.governs).resolve_left hold
    exact ⟨beq_iff_eq.mpr hkey, haction⟩
  have hlast : σ.Leads (s.change (.onProperty st.subject τ.action)) t ∧ σ.Clear t := by
    by_cases haction : τ.action = σ.action
    · rw [haction] at heach hleads hnew hcalm ⊢
      have hpending : σ.Pending (s.change (.onProperty st.subject σ.action)) st.subject []
          (s.graph.bucket .predicate st.subject) :=
        ⟨rfl, fun e f hclash => (hnew e f hclash).1, fun e he => absurd he List.not_mem_nil⟩
      exact hpending.settles hleads.sound heach hcalm.2
    · exact keeps_each (.ofSense τ) hleads.sound
        (fun e f hclash => haction (hnew e f hclash).2.symm) heach hcalm.2
  exact ⟨hleads.trans hlast.1, hlast.2, fun hτ => hlast.1.governs _ (hgoverns hτ)⟩

theorem keeps_all {as : List Action} (has : ∀ a ∈ as, a.Merges ∨ ∃ τ : Sense, a = τ.typeAction)
    (h : σ.Sound s) (hclear : σ.Clear s)
    (hrun : Telling.applyAll (Telling.apply levels) as st s = some ((b, es), t))
    (hcalm : σ.CalmAll s (Event.changes es)) :
    σ.Leads s t ∧ σ.Clear t ∧ (σ.typeAction ∈ as → σ.Governs t st.subject) := by
  induction as generalizing s b es with
  | nil =>
    obtain ⟨-, rfl⟩ := Prod.mk.inj (Option.some.inj hrun)
    exact ⟨.refl h, hclear, fun hmem => absurd hmem List.not_mem_nil⟩
  | cons a as ih =>
    rw [List.forall_mem_cons] at has
    obtain ⟨first, others, u, ds, ds', hfirst, hothers, -, rfl⟩ := Telling.applyAll_cons hrun
    rw [Event.changes_append] at hcalm
    obtain ⟨hcalm₁, hcalm₂⟩ := hcalm.append (Telling.faithful_apply levels _ _ h.wellFormed hfirst)
    have hone : σ.Leads s u ∧ σ.Clear u ∧ (a = σ.typeAction → σ.Governs u st.subject) := by
      by_cases htype : a = σ.typeAction
      · rw [htype] at hfirst
        obtain ⟨hleads, hclear', hgoverns⟩ := keeps_typeAction h hclear hfirst hcalm₁
        exact ⟨hleads, hclear', fun _ => hgoverns rfl⟩
      · rcases has.1 with hmerges | ⟨τ, rfl⟩
        · obtain ⟨hleads, hclear'⟩ := keeps_merges hmerges h hclear hfirst hcalm₁
          exact ⟨hleads, hclear', fun heq => absurd heq htype⟩
        · obtain ⟨hleads, hclear', -⟩ := keeps_typeAction h hclear hfirst hcalm₁
          exact ⟨hleads, hclear', fun heq => absurd heq htype⟩
    obtain ⟨hleads, hclear', hgoverns⟩ := hone
    obtain ⟨hleads', hclear'', hgoverns'⟩ := ih has.2 hleads.sound hclear' hothers hcalm₂
    refine ⟨hleads.trans hleads', hclear'', fun hmem => ?_⟩
    rcases List.mem_cons.mp hmem with heq | hmem
    · exact hleads'.governs _ (hgoverns heq.symm)
    · exact hgoverns' hmem

/-! ## Adding -/

theorem Sound.actionsFor (h : σ.Sound s) (st : Statement) :
    ∀ a ∈ s.actionsFor st, a.Merges ∨ ∃ τ : Sense, a = τ.typeAction := by
  intro a ha
  rcases List.mem_append.mp ha with ha | ha
  · exact .inl (h.property _ a ha)
  · split at ha
    · exact .inr (h.type _ a ha)
    · cases ha

/-- The class of a property is seen by the canonical statement as long as the type predicate stands
for itself. -/
theorem Sound.typeAction_mem (h : σ.Sound s) (hdeclares : σ.declares st = true)
    (htype : s.graph.canonKey (.named Rdf.type) = (Term.named Rdf.type).key) :
    σ.typeAction ∈ s.actionsFor (s.graph.canonStatement st) := by
  obtain ⟨hpredicate, hobject⟩ := Bool.and_eq_true_iff.mp hdeclares
  rw [Term.same_iff_key] at hpredicate hobject
  have hiri : (s.graph.canonStatement st).predicate.iri? = some Rdf.type := by
    have hsame : (s.graph.canon st.predicate).same (.named Rdf.type) = true :=
      Term.same_iff_key.mpr ((Graph.canonKey_congr hpredicate).trans htype)
    exact Term.iri?_congr hsame
  rw [Store.actionsFor, if_pos hiri]
  apply List.mem_append_right
  have hkey : (s.graph.canonStatement st).object.key = s.graph.canonKey σ.type :=
    Graph.canonKey_congr hobject
  rw [hkey]
  exact h.registered

/-- A statement that types nothing has the actions of its predicate only. -/
theorem actionsFor_untyped (hwf : s.graph.WellFormed)
    (h : s.graph.alike st.predicate (.named Rdf.type) = false) :
    s.actionsFor (s.graph.canonStatement st) =
      s.propertyActions.get (s.graph.canonKey st.predicate) := by
  have hiri : ¬ (s.graph.canonStatement st).predicate.iri? = some Rdf.type := by
    intro hiri
    have heq : s.graph.canon st.predicate = .named Rdf.type := Term.eq_named_of_iri? hiri
    have hkey := Graph.canonKey_canon hwf st.predicate
    rw [heq] at hkey
    rw [Graph.alike, hkey, beq_self_eq_true] at h
    cases h
  rw [Store.actionsFor, if_neg hiri, List.append_nil]
  rfl

theorem keeps_add {r : Option Entry} (h : σ.Sound s) (hclear : σ.Clear s)
    (hrun : Telling.addWith (Telling.apply levels) st s = some ((r, es), t))
    (hcalm : σ.CalmAll s (Event.changes es)) : σ.Sound t ∧ σ.Clear t := by
  obtain ⟨suppressed, u, ds, hactions, hend⟩ := Telling.addWith_eq_some hrun
  have hfaithful := Telling.faithful_applyAll (Telling.faithful_apply levels) _ _ h.wellFormed hactions
  rcases hend with ⟨rfl, -, rfl, rfl⟩ | ⟨rfl, -, rfl, rfl⟩
  · obtain ⟨hleads, hclear', -⟩ := keeps_all (h.actionsFor _) h hclear hactions hcalm
    exact ⟨hleads.sound, hclear'⟩
  · rw [Event.changes_append] at hcalm
    obtain ⟨hcalm₁, hcalm₂⟩ := hcalm.append hfaithful
    obtain ⟨hleads, hclear', hgoverns⟩ :=
      keeps_all (h.actionsFor _) h hclear hactions hcalm₁
    have hdeclared : σ.declares st = true → σ.Governs u st.subject := by
      intro hdeclares
      have htype := hleads.stood _ (hcalm₂.1 hdeclares)
      have hcanon := hleads.grows.alike _ _ (Graph.alike_canon h.wellFormed st.subject)
      exact (hgoverns (h.typeAction_mem hdeclares htype)).congr hcanon
    refine ⟨(hleads.sound.leads_insert hdeclared).sound,
      hclear'.insert hleads.sound.wellFormed fun hproperty huntyped m hm => ?_⟩
    -- the action of the property has changed nothing, so it has found the same value
    have huntyped' : s.graph.alike st.predicate (.named Rdf.type) = false :=
      Bool.eq_false_iff.mpr fun htype =>
        Bool.false_ne_true (huntyped.symm.trans (hleads.grows.alike _ _ htype))
    rw [actionsFor_untyped h.wellFormed huntyped'] at hactions
    obtain ⟨rfl, hfits⟩ := Telling.applyAll_false (h.property _) hactions
    exact agree_of_same (hfits σ hproperty m ((first?_canonStatement h.wellFormed st).trans hm))

theorem keeps_addAll {sts : List Statement} {n : Nat} (h : σ.Sound s) (hclear : σ.Clear s)
    (hrun : Telling.addAll levels sts s = some ((n, es), t))
    (hcalm : σ.CalmAll s (Event.changes es)) : σ.Sound t ∧ σ.Clear t := by
  induction sts generalizing s n es with
  | nil =>
    obtain ⟨-, rfl⟩ := Prod.mk.inj (Option.some.inj hrun)
    exact ⟨h, hclear⟩
  | cons st sts ih =>
    obtain ⟨e, u, ds, ds₁, hadd, hrest, rfl⟩ := Telling.bind_eq_some.mp hrun
    obtain ⟨m, v, ds', ds₂, hall, hend, rfl⟩ := Telling.bind_eq_some.mp hrest
    obtain ⟨-, rfl, rfl⟩ := Telling.pure_eq_some hend
    rw [List.append_nil, Event.changes_append] at hcalm
    have hfaithful := Telling.faithful_addWith (Telling.faithful_apply levels) st h.wellFormed hadd
    obtain ⟨hcalm₁, hcalm₂⟩ := hcalm.append hfaithful
    obtain ⟨h', hclear'⟩ := keeps_add h hclear hadd hcalm₁
    exact ih h' hclear' hall hcalm₂

/-! ## Stores with the built-in actions -/

theorem canonKey_ofOptions (options : StoreOptions) (t : Term) :
    (Store.ofOptions options).graph.canonKey t = t.key := by
  simp [Store.ofOptions, Graph.canonKey, Graph.canon, Equivalence.find, Equivalence.find?]

theorem sound_ofOptions (σ : Sense) {options : StoreOptions} (h : options.builtinActions = true) :
    σ.Sound (Store.ofOptions options) where
  wellFormed := Graph.wellFormed_empty
  property := by
    intro key a ha
    rw [Store.ofOptions, if_pos h] at ha
    rcases Registry.mem_get_register.mp ha with ha | ⟨-, rfl⟩
    · simp [Registry.get, Registry.empty] at ha
    · exact .sameAs
  type := by
    intro key a ha
    rw [Store.ofOptions] at ha
    simp only [h, if_true] at ha
    rcases Registry.mem_get_register.mp ha with ha | ⟨-, rfl⟩
    · rcases Registry.mem_get_register.mp ha with ha | ⟨-, rfl⟩
      · simp [Registry.get, Registry.empty] at ha
      · exact ⟨.functional, rfl⟩
    · exact ⟨.inverse, rfl⟩
  registered := by
    rw [canonKey_ofOptions]
    simp only [Store.ofOptions, h, if_true]
    cases σ with
    | functional => exact Registry.mem_get_register.mpr (.inl (Registry.mem_get_register.mpr (.inr ⟨rfl, rfl⟩)))
    | inverse => exact Registry.mem_get_register.mpr (.inr ⟨rfl, rfl⟩)
  declared := fun e he => absurd he List.not_mem_nil

def Declared (σ : Sense) (g : Graph) (p : Term) : Prop :=
  ∃ e ∈ g.entries, σ.declares e.statement = true ∧ g.alike e.statement.subject p = true

def Closed (σ : Sense) (g : Graph) (p : Term) : Prop :=
  ∀ e ∈ g.entries, ∀ f ∈ g.entries, g.alike e.statement.predicate p = true →
    g.alike f.statement.predicate p = true →
    g.alike (e.statement.get σ.key) (f.statement.get σ.key) = true →
    g.alike (e.statement.get σ.value) (f.statement.get σ.value) = true

instance (σ : Sense) (g : Graph) (p : Term) : Decidable (σ.Declared g p) :=
  inferInstanceAs (Decidable (∃ e ∈ g.entries, _ ∧ _))

instance (σ : Sense) (g : Graph) (p : Term) : Decidable (σ.Closed g p) :=
  inferInstanceAs (Decidable (∀ e ∈ g.entries, ∀ f ∈ g.entries, _ → _ → _ → _))

theorem Clear.closed (h : σ.Sound s) (hclear : σ.Clear s) {p : Term}
    (hdeclared : σ.Declared s.graph p) (hp : s.graph.alike p (.named Rdf.type) = false) :
    σ.Closed s.graph p := by
  obtain ⟨d, hd, hdeclares, hdp⟩ := hdeclared
  intro e he f hf hep hfp hkey
  by_contra hnot
  have hpe := Graph.alike_symm hep
  have huntyped : s.graph.alike e.statement.predicate (.named Rdf.type) = false :=
    Bool.eq_false_iff.mpr fun htype =>
      Bool.false_ne_true (hp.symm.trans (Graph.alike_trans hpe htype))
  exact hclear e f ⟨he, hf, ((h.declared d hd hdeclares).congr hdp).congr hpe, huntyped,
    rivals_iff.mpr ⟨Graph.alike_trans hep (Graph.alike_symm hfp), hkey⟩, Bool.eq_false_iff.mpr hnot⟩

/-- Additions to a store with the built-in actions come to an end, and if all changes that they make
are calm no property is left open: any two statements of a property that some statement declares, the
type predicate apart, have the same value if they have the same key. It does not matter whether the
declaration came before the data or after them, nor what has been merged meanwhile. -/
theorem addAll_closed (σ : Sense) {options : StoreOptions} (hoptions : options.builtinActions = true)
    (levels : Nat) (sts : List Statement) :
    ∃ n es t, StoreM.addAll (levels + 2) sts (.ofOptions options) = some (n, t) ∧
      Telling.addAll (levels + 2) sts (.ofOptions options) = some ((n, es), t) ∧
      (σ.CalmAll (.ofOptions options) (Event.changes es) →
        ∀ p, σ.Declared t.graph p → t.graph.alike p (.named Rdf.type) = false →
          σ.Closed t.graph p) := by
  have hsound := sound_ofOptions σ hoptions
  obtain ⟨n, t, hrun⟩ := StoreM.addAll_ends levels sts hsound.wellFormed
    (Store.builtin_ofOptions options)
  have htold := hrun
  rw [← Telling.mute_addAll, Telling.mute, Option.map_eq_some_iff] at htold
  obtain ⟨⟨⟨n', es⟩, t'⟩, htell, heq⟩ := htold
  obtain ⟨rfl, rfl⟩ := Prod.mk.inj heq
  refine ⟨n', es, t', hrun, htell, fun hcalm p hdeclared hp => ?_⟩
  have hempty : σ.Clear (Store.ofOptions options) := fun e f hclash =>
    absurd hclash.left List.not_mem_nil
  obtain ⟨hsound', hclear⟩ := keeps_addAll hsound hempty htell hcalm
  exact hclear.closed hsound' hdeclared hp

/-- Properties are declared while the type predicate stands for itself, and after each merge all
rivals agree. -/
def quiet (σ : Sense) : Store → List Change → Bool
  | _, [] => true
  | s, .insert st :: cs =>
    (!σ.declares st || s.graph.canonKey (.named Rdf.type) == (Term.named Rdf.type).key) &&
      quiet σ (s.change (.insert st)) cs
  | s, .equate a b :: cs =>
    ((s.equate a b).graph.entries.all fun e => (s.equate a b).graph.entries.all fun f =>
      !σ.rivals (s.equate a b).graph e.statement f.statement ||
        σ.agree (s.equate a b).graph e.statement f.statement) &&
      quiet σ (s.equate a b) cs
  | s, c :: cs => quiet σ (s.change c) cs

theorem calmAll_of_quiet {cs : List Change} (h : σ.quiet s cs = true) : σ.CalmAll s cs := by
  induction cs generalizing s with
  | nil => trivial
  | cons c cs ih =>
    cases c with
    | insert st =>
      obtain ⟨hst, hcs⟩ := Bool.and_eq_true_iff.mp h
      refine ⟨fun hdeclares => ?_, ih hcs⟩
      rw [hdeclares] at hst
      exact beq_iff_eq.mp hst
    | equate a b =>
      obtain ⟨hall, hcs⟩ := Bool.and_eq_true_iff.mp h
      refine ⟨fun e f hclash => ?_, ih hcs⟩
      have hef := List.all_eq_true.mp (List.all_eq_true.mp hall e hclash.left) f hclash.right
      rw [hclash.rivals, hclash.differ] at hef
      cases hef
    | drop e => exact ⟨trivial, ih h⟩
    | onProperty p a => exact ⟨trivial, ih h⟩
    | onClass type a => exact ⟨trivial, ih h⟩
    | fresh => exact ⟨trivial, ih h⟩
    | note label st => exact ⟨trivial, ih h⟩

/-- A property that is declared after the data, and used again. -/
theorem closed_after_data :
    let spoken : Statement := ⟨.named "p", .named Rdf.type, .named Owl.functionalProperty, .named "g"⟩
    let said : String → Statement := fun x => ⟨.named "a", .named "p", .named x, .named "g"⟩
    ∃ n t, StoreM.addAll 2 [said "x", said "y", spoken, said "z"] (.ofOptions {}) = some (n, t) ∧
      Sense.functional.Declared t.graph (.named "p") ∧
      t.graph.alike (.named "p") (.named Rdf.type) = false ∧
      Sense.functional.Closed t.graph (.named "p") := by
  intro spoken said
  obtain ⟨n, es, t, hrun, htell, hclosed⟩ :=
    @addAll_closed .functional {} rfl 0 [said "x", said "y", spoken, said "z"]
  have hquiet : (Telling.addAll 2 [said "x", said "y", spoken, said "z"] (.ofOptions {})).all fun r =>
      Sense.functional.quiet (.ofOptions {}) (Event.changes r.1.2) &&
        decide (Sense.functional.Declared r.2.graph (.named "p")) &&
        !r.2.graph.alike (.named "p") (.named Rdf.type) := by decide +kernel
  rw [htell] at hquiet
  simp only [Option.all_some, Bool.and_eq_true, decide_eq_true_eq, Bool.not_eq_true'] at hquiet
  obtain ⟨⟨hcalm, hdeclared⟩, hp⟩ := hquiet
  exact ⟨n, t, hrun, hdeclared, hp, hclosed (calmAll_of_quiet hcalm) _ hdeclared hp⟩

/-- Properties that are declared and not closed. Merging runs no action again, a type predicate that
was merged away calls none, and which of its rivals a statement is compared with may change while
the action is run on them. -/
theorem closed_not_always :
    let said : String → String → String → Statement := fun s p o =>
      ⟨.named s, .named p, .named o, .named "g"⟩
    let runs : List (String × List Statement) := [
      -- two subjects are merged
      ("p", [said "p" Rdf.type Owl.functionalProperty, said "a" "p" "x", said "b" "p" "y",
        said "a" Owl.sameAs "b"]),
      -- two predicates are merged
      ("p", [said "p" Rdf.type Owl.functionalProperty, said "a" "p" "x", said "a" "q" "y",
        said "p" Owl.sameAs "q"]),
      -- two objects are merged that are subjects of statements seen before
      ("p", [said "x" "p" "u", said "y" "p" "v", said "a" "p" "x", said "a" "p" "y",
        said "p" Rdf.type Owl.functionalProperty]),
      -- the predicate gains a statement between two rivals, which then are found in another order
      ("p", [said "k2" "p" "x", said "z" "p" "p", said "z" "p" "q", said "k1" "p" "y",
        said "k1" "r" "u", said "k1" "r" "v", said "k1" "r" "w", said "m" "q" "n",
        said "k1" Owl.sameAs "k2", said "p" Rdf.type Owl.functionalProperty]),
      -- the type predicate is merged away
      ("p", [said Rdf.type Owl.sameAs "a", said "p" Rdf.type Owl.functionalProperty,
        said "b" "p" "x", said "b" "p" "y"]),
      -- the type predicate itself is declared
      (Rdf.type, [said Rdf.type Rdf.type "c", said Rdf.type Rdf.type Owl.functionalProperty])]
    runs.Forall fun run => ∃ n t, StoreM.addAll 2 run.2 (.ofOptions {}) = some (n, t) ∧
      Sense.functional.Declared t.graph (.named run.1) ∧
      ¬ Sense.functional.Closed t.graph (.named run.1) := by
  intro said runs
  rw [List.forall_iff_forall_mem]
  intro run hmem
  have hruns : runs.all (fun run => (StoreM.addAll 2 run.2 (.ofOptions {})).any fun r =>
      decide (Sense.functional.Declared r.2.graph (.named run.1)) &&
        !decide (Sense.functional.Closed r.2.graph (.named run.1))) = true := by decide +kernel
  have hrun := List.all_eq_true.mp hruns run hmem
  obtain ⟨⟨n, t⟩, hadd, hopen⟩ := (Option.any_eq_true ..).mp hrun
  simp only [Bool.and_eq_true, decide_eq_true_eq, Bool.not_eq_true', decide_eq_false_iff_not] at hopen
  exact ⟨n, t, hadd, hopen.1, hopen.2⟩

end Sense

end QuadGraph
