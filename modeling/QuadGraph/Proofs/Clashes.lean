import QuadGraph.Proofs.Functional

/-!
# Clashes

Two statements clash when they have a functional property and one key, and yet different values
(`Sense.Clash`). Neither adding a statement nor declaring a property leaves a clash behind. A merge
can: it runs no action again, so the statements that it makes rivals stay as they are. This module
says which changes are calm in this respect (`Sense.Calm`), and how the statements of a predicate are
settled one after the other when the predicate is declared (`Sense.Pending`).
-/

namespace QuadGraph

/-! ## Registries under change -/

namespace Registry

variable {α : Type} {r : Registry α} {a : α} {k source target : String}

/-- What was under the key that is given up is under the other one. -/
theorem mem_migrate (hne : source ≠ target) (h : a ∈ r.get k) :
    a ∈ (r.migrate source target).get (if k = source then target else k) := by
  rw [get_migrate r hne]
  by_cases hk : k = source
  · subst hk
    simp [h]
  · by_cases htarget : k = target
    · subst htarget
      simp [hk, h]
    · simp [hk, htarget, h]

end Registry

namespace Sense

variable {σ : Sense} {s t : Store} {e f : Entry}

/-! ## Properties that are registered -/

def Governs (σ : Sense) (s : Store) (predicate : Term) : Prop :=
  σ.action ∈ s.propertyActions.get (s.graph.canonKey predicate)

theorem Governs.congr {p q : Term} (h : σ.Governs s p) (halike : s.graph.alike p q = true) :
    σ.Governs s q := by
  rw [Graph.alike, beq_iff_eq] at halike
  rw [Governs, ← halike]
  exact h

end Sense

namespace Store

theorem canonKey_equate {s : Store} (hwf : s.graph.WellFormed) {a b big small : Term}
    (hmerge : Graph.mergeOrder? (s.graph.canon a) (s.graph.canon b) = some (big, small)) (t : Term) :
    (s.equate a b).graph.canonKey t =
      if s.graph.canonKey t = big.key then small.key else s.graph.canonKey t := by
  rw [equate, hmerge, Graph.canonKey, canon_redirect hwf hmerge, apply_ite Term.key]
  rfl

/-- Two terms become alike only if one of them was alike to the first of the terms merged. -/
theorem alike_of_equate {s : Store} (hwf : s.graph.WellFormed) {a b t u : Term}
    (ht : s.graph.alike t a = false) (hu : s.graph.alike u a = false)
    (h : (s.equate a b).graph.alike t u = true) : s.graph.alike t u = true := by
  cases hmerge : Graph.mergeOrder? (s.graph.canon a) (s.graph.canon b) with
  | none =>
    rw [show s.equate a b = s by rw [equate, hmerge]] at h
    exact h
  | some merged =>
    simp only [Graph.alike, canonKey_equate hwf hmerge, beq_iff_eq, beq_eq_false_iff_ne] at h ht hu ⊢
    rcases mergeOrder?_mem hmerge with ⟨hbig, -⟩ | ⟨-, hsmall⟩
    · have hbig : merged.1.key = s.graph.canonKey a := congrArg Term.key hbig
      rw [hbig, if_neg ht, if_neg hu] at h
      exact h
    · have hsmall : merged.2.key = s.graph.canonKey a := congrArg Term.key hsmall
      rw [hsmall] at h
      by_cases htb : s.graph.canonKey t = merged.1.key
      · by_cases hub : s.graph.canonKey u = merged.1.key
        · exact htb.trans hub.symm
        · rw [if_pos htb, if_neg hub] at h
          exact absurd h.symm hu
      · by_cases hub : s.graph.canonKey u = merged.1.key
        · rw [if_neg htb, if_pos hub] at h
          exact absurd h ht
        · rw [if_neg htb, if_neg hub] at h
          exact h

/-- A term that stands for itself after a merge did so before it. -/
theorem canonKey_of_equate {s : Store} (hwf : s.graph.WellFormed) {a b t : Term}
    (h : (s.equate a b).graph.canonKey t = t.key) : s.graph.canonKey t = t.key := by
  cases hmerge : Graph.mergeOrder? (s.graph.canon a) (s.graph.canon b) with
  | none =>
    rw [show s.equate a b = s by rw [equate, hmerge]] at h
    exact h
  | some merged =>
    rw [canonKey_equate hwf hmerge] at h
    by_cases hbig : s.graph.canonKey t = merged.1.key
    · -- the other term, in whose place it came, stands for itself
      rw [if_pos hbig] at h
      have hsmall : s.graph.canonKey merged.2 = merged.2.key := by
        rcases mergeOrder?_mem hmerge with ⟨-, hb⟩ | ⟨-, ha⟩
        · rw [hb, Graph.canonKey_canon hwf]; rfl
        · rw [ha, Graph.canonKey_canon hwf]; rfl
      rw [← Graph.canonKey_congr h, hsmall, h]
    · rw [if_neg hbig] at h
      exact h

theorem mem_get_moved {α : Type} {s : Store} (hwf : s.graph.WellFormed) (a b : Term)
    {r : Registry α} {x : α} {t : Term} (h : x ∈ r.get (s.graph.canonKey t)) :
    x ∈ (s.moved a b r).get ((s.equate a b).graph.canonKey t) := by
  cases hmerge : Graph.mergeOrder? (s.graph.canon a) (s.graph.canon b) with
  | none =>
    rw [moved, hmerge, equate, hmerge]
    exact h
  | some merged =>
    rw [canonKey_equate hwf hmerge, moved, hmerge]
    exact Registry.mem_migrate (mergeOrder?_key_ne hmerge) h

/-- A term that is apart from the first of the terms merged gains nothing but what that one had. -/
theorem mem_get_of_moved {α : Type} {s : Store} (hwf : s.graph.WellFormed) {a b t : Term}
    {r : Registry α} {x : α} (hx : x ∉ r.get (s.graph.canonKey a)) (ht : s.graph.alike t a = false)
    (h : x ∈ (s.moved a b r).get ((s.equate a b).graph.canonKey t)) :
    x ∈ r.get (s.graph.canonKey t) := by
  cases hmerge : Graph.mergeOrder? (s.graph.canon a) (s.graph.canon b) with
  | none =>
    rw [moved, hmerge, equate, hmerge] at h
    exact h
  | some merged =>
    rw [canonKey_equate hwf hmerge, moved, hmerge] at h
    rw [Graph.alike, beq_eq_false_iff_ne] at ht
    have hcases := Registry.mem_get_migrate (mergeOrder?_key_ne hmerge) h
    rcases mergeOrder?_mem hmerge with ⟨hbig, -⟩ | ⟨-, hsmall⟩
    · have hbig : merged.1.key = s.graph.canonKey a := congrArg Term.key hbig
      rw [hbig, if_neg ht] at hcases
      rcases hcases with h | ⟨-, h⟩
      · exact h
      · exact absurd h hx
    · have hsmall : merged.2.key = s.graph.canonKey a := congrArg Term.key hsmall
      by_cases htb : s.graph.canonKey t = merged.1.key
      · rw [if_pos htb, hsmall] at hcases
        rcases hcases with h | ⟨-, h⟩
        · exact absurd h hx
        · rw [htb]
          exact h
      · rw [if_neg htb, hsmall] at hcases
        rcases hcases with h | ⟨hta, -⟩
        · exact h
        · exact absurd hta ht

end Store

namespace Sense

variable {σ : Sense} {s t : Store} {e f : Entry}

/-! ## Clashes and calm changes -/

/-- Two stored statements of a property for which the action is registered, with one key and
different values. Type statements are left aside. -/
structure Clash (σ : Sense) (s : Store) (e f : Entry) : Prop where
  left : e ∈ s.graph.entries
  right : f ∈ s.graph.entries
  governs : σ.Governs s e.statement.predicate
  untyped : s.graph.alike e.statement.predicate (.named Rdf.type) = false
  rivals : σ.rivals s.graph e.statement f.statement = true
  differ : σ.agree s.graph e.statement f.statement = false

/-- Other rivals of the same predicate clash too unless they agree. -/
theorem Clash.of_predicate {x y : Entry} (h : σ.Clash s e f) (hx : x ∈ s.graph.entries)
    (hy : y ∈ s.graph.entries)
    (hpredicate : s.graph.alike e.statement.predicate x.statement.predicate = true)
    (hrivals : σ.rivals s.graph x.statement y.statement = true)
    (hnot : ¬ σ.agree s.graph x.statement y.statement = true) : σ.Clash s x y where
  left := hx
  right := hy
  governs := h.governs.congr hpredicate
  untyped := by
    apply Bool.eq_false_iff.mpr
    intro htype
    exact Bool.false_ne_true (h.untyped.symm.trans (Graph.alike_trans hpredicate htype))
  rivals := hrivals
  differ := Bool.eq_false_iff.mpr hnot

theorem Clash.symm (h : σ.Clash s e f) : σ.Clash s f e := by
  refine h.of_predicate h.right h.left (rivals_iff.mp h.rivals).1 (rivals_symm h.rivals) ?_
  intro hagree
  exact Bool.false_ne_true (h.differ.symm.trans (Graph.alike_symm hagree))

def Clear (σ : Sense) (s : Store) : Prop := ∀ e f, ¬ σ.Clash s e f

def declares (σ : Sense) (st : Statement) : Bool :=
  st.predicate.same (.named Rdf.type) && st.object.same σ.type

/-- A merge is calm if it makes no two statements clash, and if it adds nothing to a predicate while
statements of it clash. A property is declared calmly as long as the type predicate stands for
itself. -/
def Calm (σ : Sense) (s : Store) : Change → Prop
  | .insert st => σ.declares st = true →
    s.graph.canonKey (.named Rdf.type) = (Term.named Rdf.type).key
  | .equate a b => ∀ e f, σ.Clash (s.equate a b) e f → σ.Clash s e f ∧
    ∀ x ∈ s.graph.entries,
      (s.equate a b).graph.alike x.statement.predicate e.statement.predicate = true →
        s.graph.alike x.statement.predicate e.statement.predicate = true
  | _ => True

def CalmAll (σ : Sense) : Store → List Change → Prop
  | _, [] => True
  | s, c :: cs => σ.Calm s c ∧ CalmAll σ (s.change c) cs

theorem CalmAll.append {cs ds : List Change} (he : s.Evolves cs t) (h : σ.CalmAll s (cs ++ ds)) :
    σ.CalmAll s cs ∧ σ.CalmAll t ds := by
  induction he with
  | nil s => exact ⟨trivial, h⟩
  | cons _ _ ih =>
    obtain ⟨hc, hrest⟩ := h
    obtain ⟨hcs, hds⟩ := ih hrest
    exact ⟨⟨hc, hcs⟩, hds⟩

theorem Governs.equate {p : Term} (hwf : s.graph.WellFormed) (h : σ.Governs s p) (a b : Term) :
    σ.Governs (s.equate a b) p := by
  rw [Governs, Store.propertyActions_equate]
  exact Store.mem_get_moved hwf a b h

/-- A merge is calm if one of its terms is no registered property, and neither predicate nor key of a
statement. -/
theorem calm_of_unused (hwf : s.graph.WellFormed) {a b : Term} (hgoverns : ¬ σ.Governs s a)
    (hpredicate : ∀ e ∈ s.graph.entries, s.graph.alike e.statement.predicate a = false)
    (hkey : ∀ e ∈ s.graph.entries, s.graph.alike (e.statement.get σ.key) a = false) :
    σ.Calm s (.equate a b) := by
  intro e f hclash
  have he := hclash.left
  have hf := hclash.right
  rw [Store.entries_equate] at he hf
  obtain ⟨hef, hkeys⟩ := rivals_iff.mp hclash.rivals
  have hgrows := Graph.Grows.equate hwf a b
  refine ⟨⟨he, hf, ?_, ?_, ?_, ?_⟩, fun x hx halike => ?_⟩
  · have hgoverns' := hclash.governs
    rw [Governs, Store.propertyActions_equate] at hgoverns'
    exact Store.mem_get_of_moved hwf hgoverns (hpredicate e he) hgoverns'
  · exact Bool.eq_false_iff.mpr fun h =>
      Bool.false_ne_true (hclash.untyped.symm.trans (hgrows.alike _ _ h))
  · exact rivals_iff.mpr ⟨Store.alike_of_equate hwf (hpredicate e he) (hpredicate f hf) hef,
      Store.alike_of_equate hwf (hkey e he) (hkey f hf) hkeys⟩
  · exact Bool.eq_false_iff.mpr fun h =>
      Bool.false_ne_true (hclash.differ.symm.trans (hgrows.alike _ _ h))
  · exact Store.alike_of_equate hwf (hpredicate x hx) (hpredicate e he) halike

theorem Clear.equate {a b : Term} (h : σ.Clear s) (hcalm : σ.Calm s (.equate a b)) :
    σ.Clear (s.equate a b) :=
  fun e f hclash => h e f (hcalm e f hclash).1

end Sense

/-! ## The registered actions -/

inductive Action.Merges : Action → Prop
  | sameAs : Merges Action.sameAs
  | ofSense (σ : Sense) : Merges σ.action

namespace Sense

variable {σ : Sense} {s t : Store} {e f : Entry}

structure Sound (σ : Sense) (s : Store) : Prop where
  wellFormed : s.graph.WellFormed
  property : ∀ key, ∀ a ∈ s.propertyActions.get key, a.Merges
  type : ∀ key, ∀ a ∈ s.classActions.get key, ∃ τ : Sense, a = τ.typeAction
  registered : σ.typeAction ∈ s.classActions.get (s.graph.canonKey σ.type)
  declared : ∀ e ∈ s.graph.entries, σ.declares e.statement = true →
    σ.Governs s e.statement.subject

/-- Properties stay properties in a store that has grown out of another one, and a term that was
merged away does not come back. -/
structure Leads (σ : Sense) (s t : Store) : Prop where
  sound : σ.Sound t
  grows : s.graph.Grows t.graph
  governs : ∀ p, σ.Governs s p → σ.Governs t p
  stood : ∀ x, t.graph.canonKey x = x.key → s.graph.canonKey x = x.key

theorem Leads.refl (h : σ.Sound s) : σ.Leads s s := ⟨h, .refl _, fun _ h => h, fun _ h => h⟩

theorem Leads.trans {u : Store} (h : σ.Leads s t) (h' : σ.Leads t u) : σ.Leads s u where
  sound := h'.sound
  grows := h.grows.trans h'.grows
  governs := fun p hp => h'.governs p (h.governs p hp)
  stood := fun x hx => h.stood x (h'.stood x hx)

theorem Sound.leads_equate (h : σ.Sound s) (a b : Term) : σ.Leads s (s.equate a b) where
  sound := {
    wellFormed := Store.wellFormed_equate h.wellFormed a b
    property := by
      intro key x hx
      rw [Store.propertyActions_equate] at hx
      obtain ⟨k, hk⟩ := Store.exists_get_of_moved hx
      exact h.property k x hk
    type := by
      intro key x hx
      rw [Store.classActions_equate] at hx
      obtain ⟨k, hk⟩ := Store.exists_get_of_moved hx
      exact h.type k x hk
    registered := by
      rw [Store.classActions_equate]
      exact Store.mem_get_moved h.wellFormed a b h.registered
    declared := by
      intro e he hdeclares
      rw [Store.entries_equate] at he
      exact (h.declared e he hdeclares).equate h.wellFormed a b }
  grows := .equate h.wellFormed a b
  governs := fun p hp => hp.equate h.wellFormed a b
  stood := fun x hx => Store.canonKey_of_equate h.wellFormed hx

theorem Sound.leads_onProperty (h : σ.Sound s) (p : Term) {a : Action} (ha : a.Merges) :
    σ.Leads s (s.change (.onProperty p a)) where
  sound := {
    wellFormed := h.wellFormed
    property := by
      intro key x hx
      rcases Registry.mem_get_register.mp hx with hx | ⟨-, rfl⟩
      · exact h.property key x hx
      · exact ha
    type := h.type
    registered := h.registered
    declared := fun e he hdeclares => Registry.mem_get_register.mpr (.inl (h.declared e he hdeclares)) }
  grows := .refl _
  governs := fun _ hp => Registry.mem_get_register.mpr (.inl hp)
  stood := fun _ hx => hx

theorem Sound.leads_insert (h : σ.Sound s) {st : Statement}
    (hst : σ.declares st = true → σ.Governs s st.subject) :
    σ.Leads s (s.change (.insert st)) where
  sound := {
    wellFormed := h.wellFormed.insert st
    property := h.property
    type := h.type
    registered := h.registered
    declared := by
      intro e he hdeclares
      rcases List.mem_append.mp he with he | he
      · exact h.declared e he hdeclares
      · obtain rfl := List.mem_singleton.mp he
        exact hst hdeclares }
  grows := .insert _ st
  governs := fun _ hp => hp
  stood := fun _ hx => hx

/-- A statement that agrees with the first of its rivals agrees with all of them. -/
theorem Clear.insert (hwf : s.graph.WellFormed) (h : σ.Clear s) {st : Statement}
    (hst : σ.Governs s st.predicate → s.graph.alike st.predicate (.named Rdf.type) = false →
      ∀ m, σ.first? s.graph st = some m → σ.agree s.graph st m.statement = true) :
    σ.Clear (s.change (.insert st)) := by
  have hold : ∀ {e f : Entry}, e ∈ s.graph.entries → f ∈ s.graph.entries →
      ¬ σ.Clash (s.change (.insert st)) e f := by
    intro e f he hf hclash
    exact h e f ⟨he, hf, hclash.governs, hclash.untyped, hclash.rivals, hclash.differ⟩
  have hnew : ∀ {f : Entry}, f ∈ s.graph.entries →
      ¬ σ.Clash (s.change (.insert st)) (s.graph.insert st).1 f := by
    intro f hf hclash
    obtain ⟨m, hm⟩ := exists_first? hwf hf (rivals_symm hclash.rivals)
    obtain ⟨hm₀, hmst⟩ := mem_of_first? hwf hm
    have hagree := hst hclash.governs hclash.untyped m hm
    have hmf : ¬ σ.agree s.graph m.statement f.statement = true := by
      intro hmf
      exact Bool.false_ne_true (hclash.differ.symm.trans (Graph.alike_trans hagree hmf))
    exact hold hm₀ hf (hclash.of_predicate (List.mem_append_left _ hm₀) (List.mem_append_left _ hf)
      (rivals_iff.mp (rivals_symm hmst)).1 (rivals_trans hmst hclash.rivals) hmf)
  intro e f hclash
  rcases List.mem_append.mp hclash.left with he | he
  · rcases List.mem_append.mp hclash.right with hf | hf
    · exact hold he hf hclash
    · obtain rfl := List.mem_singleton.mp hf
      exact hnew he hclash.symm
  · obtain rfl := List.mem_singleton.mp he
    rcases List.mem_append.mp hclash.right with hf | hf
    · exact hnew hf hclash
    · obtain rfl := List.mem_singleton.mp hf
      have hself : σ.agree s.graph st st = true := beq_self_eq_true (s.graph.canonKey _)
      exact Bool.false_ne_true (hclash.differ.symm.trans hself)

/-! ## Settling the statements of a predicate -/

/-- The action of a predicate was run on some of its statements and is still to be run on the rest.
Each of those done agrees with the one that a look-up finds first. -/
structure Pending (σ : Sense) (s : Store) (p : Term) (done rest : List Entry) : Prop where
  bucket : s.graph.bucket .predicate p = done ++ rest
  under : ∀ e f, σ.Clash s e f → s.graph.alike e.statement.predicate p = true
  settled : ∀ e ∈ done, ∀ m, σ.first? s.graph e.statement = some m →
    σ.agree s.graph e.statement m.statement = true

section
variable {p : Term} {done rest : List Entry}

theorem Pending.clear (hwf : s.graph.WellFormed) (h : σ.Pending s p done []) : σ.Clear s := by
  intro e f hclash
  have hdone : ∀ x ∈ s.graph.entries, s.graph.alike x.statement.predicate p = true → x ∈ done := by
    intro x hx halike
    have hmem : x ∈ s.graph.bucket .predicate p := hwf.mem_bucket.mpr ⟨hx, halike⟩
    rw [h.bucket, List.append_nil] at hmem
    exact hmem
  have hpe := h.under e f hclash
  have hpf := Graph.alike_trans (Graph.alike_symm (rivals_iff.mp hclash.rivals).1) hpe
  obtain ⟨m, hm⟩ := exists_first? hwf hclash.left (rivals_refl σ s.graph e.statement)
  have hem := h.settled e (hdone e hclash.left hpe) m hm
  have hfm := h.settled f (hdone f hclash.right hpf) m (first?_congr hclash.rivals ▸ hm)
  exact Bool.false_ne_true (hclash.differ.symm.trans (Graph.alike_trans hem (Graph.alike_symm hfm)))

/-- Statements that clash after a calm merge have gained no rivals by it: a new one would agree with
both of them. -/
theorem Clash.no_gain {a b : Term} (h : σ.Clash (s.equate a b) e f) (hcalm : σ.Calm s (.equate a b)) :
    ∀ x ∈ s.graph.entries, σ.rivals (s.equate a b).graph x.statement e.statement = true →
      σ.rivals s.graph x.statement e.statement = true := by
  intro x hx hrivals
  by_contra hnew
  have hx' : x ∈ (s.equate a b).graph.entries := by rwa [Store.entries_equate]
  have hbefore := (hcalm e f h).1.rivals
  have hex : σ.agree (s.equate a b).graph e.statement x.statement = true := by
    by_contra hnot
    have hclash := h.of_predicate h.left hx' (rivals_iff.mp (rivals_refl σ _ _)).1
      (rivals_symm hrivals) hnot
    exact hnew (rivals_symm (hcalm e x hclash).1.rivals)
  have hfx : σ.agree (s.equate a b).graph f.statement x.statement = true := by
    by_contra hnot
    have hclash := h.of_predicate h.right hx' (rivals_iff.mp h.rivals).1
      (rivals_trans (rivals_symm h.rivals) (rivals_symm hrivals)) hnot
    exact hnew (rivals_symm (rivals_trans hbefore (hcalm f x hclash).1.rivals))
  exact Bool.false_ne_true (h.differ.symm.trans (Graph.alike_trans hex (Graph.alike_symm hfx)))

/-- After a calm merge either nothing clashes or the statements done still agree with the first ones. -/
theorem Pending.equate {a b : Term} (hwf : s.graph.WellFormed) (hcalm : σ.Calm s (.equate a b))
    (hbucket : s.graph.bucket .predicate p = done ++ rest)
    (hunder : ∀ e f, σ.Clash s e f → s.graph.alike e.statement.predicate p = true)
    (hsettled : ∀ e ∈ done, ∀ m, σ.first? s.graph e.statement = some m →
      σ.agree (s.equate a b).graph e.statement m.statement = true) :
    σ.Clear (s.equate a b) ∨ σ.Pending (s.equate a b) p done rest := by
  have hwf' := Store.wellFormed_equate hwf a b
  have hgrows := Graph.Grows.equate hwf a b
  have hentries := Store.entries_equate s a b
  by_cases hclear : σ.Clear (s.equate a b)
  · exact .inl hclear
  right
  simp only [Clear, not_forall, not_not] at hclear
  obtain ⟨c, d, hcd⟩ := hclear
  obtain ⟨hcd₀, hgain⟩ := hcalm c d hcd
  have hcp := hunder c d hcd₀
  have hcp' := hgrows.alike _ _ hcp
  have hpredicate : ∀ x ∈ s.graph.entries,
      (s.equate a b).graph.alike x.statement.predicate p = true →
        s.graph.alike x.statement.predicate p = true := by
    intro x hx halike
    exact Graph.alike_trans (hgain x hx (Graph.alike_trans halike (Graph.alike_symm hcp'))) hcp
  have hstays : (s.equate a b).graph.bucket .predicate p = s.graph.bucket .predicate p :=
    Store.bucket_equate_of_none hwf a b hpredicate
  refine ⟨hstays.trans hbucket, fun e f h => hgrows.alike _ _ (hunder e f (hcalm e f h).1), ?_⟩
  intro e he m' hm'
  have hmem : e ∈ s.graph.bucket .predicate p := hbucket ▸ List.mem_append_left _ he
  obtain ⟨he₀, hep⟩ := hwf.mem_bucket.mp hmem
  obtain ⟨hm₀, hrivals⟩ := mem_of_first? hwf' hm'
  rw [hentries] at hm₀
  by_contra hnot
  have hce : (s.equate a b).graph.alike c.statement.predicate e.statement.predicate = true :=
    Graph.alike_trans hcp' (Graph.alike_symm (hgrows.alike _ _ hep))
  have hclash' : σ.Clash (s.equate a b) e m' :=
    hcd.of_predicate (hentries ▸ he₀) (hentries ▸ hm₀) hce (rivals_symm hrivals) hnot
  obtain ⟨hclash, hgain'⟩ := hcalm e m' hclash'
  rcases first?_equate hwf a b he₀ hgain' (hclash'.no_gain hcalm) with hsame | hfirst
  · exact hnot (hsettled e he m' (hsame ▸ hm'))
  · have hlist : s.graph.bucket .predicate e.statement.predicate = done ++ rest :=
      (Graph.bucket_congr hep).trans hbucket
    rw [hfirst, hlist] at hm'
    -- the first one in the bucket was done no later than e
    have hdone : m' ∈ done := by
      rw [List.find?_append] at hm'
      cases hfind : done.find? fun f => σ.rivals s.graph f.statement e.statement with
      | none =>
        have hself := List.find?_eq_none.mp hfind e he
        exact absurd (rivals_refl σ s.graph e.statement) hself
      | some x =>
        rw [hfind, Option.some_or] at hm'
        exact Option.some.inj hm' ▸ List.mem_of_find?_eq_some hfind
    obtain ⟨m, hm⟩ := exists_first? hwf he₀ (rivals_refl σ s.graph e.statement)
    have hem := hsettled e he m hm
    have hmm := hsettled m' hdone m (first?_congr hclash.rivals ▸ hm)
    exact hnot (Graph.alike_trans hem (Graph.alike_symm hmm))

end

end Sense

end QuadGraph
