import QuadGraph.Proofs.Planning
import QuadGraph.Proofs.Solutions

/-!
# Matching up to merging

Two graphs in which the same terms are alike match a term of a pattern in the same way with two stored
terms that are alike: either neither is matched, or both are, and the bindings have the same keys
(`unifyTerm_likewise`). A collection that holds variables is the exception. It is matched with the
items of the stored term itself and not of the term that stands for it, so there the two must have
items that are alike, or both must have none to match (`Graph.Likewise`).
-/

namespace QuadGraph

/-! ## Bindings with the same keys -/

theorem map_eq_cases {α β : Type} {key : α → β} {x y : Option α} (h : x.map key = y.map key) :
    (x = none ∧ y = none) ∨ ∃ a b, x = some a ∧ y = some b ∧ key a = key b := by
  cases x with
  | none => exact .inl ⟨rfl, Option.map_eq_none_iff.mp h.symm⟩
  | some a =>
    obtain ⟨b, hb, hkey⟩ := Option.map_eq_some_iff.mp h.symm
    exact .inr ⟨a, b, rfl, hb, hkey.symm⟩

namespace Bindings

variable {b b' : Bindings}

theorem keyed_bind (b : Bindings) (name : String) (t : Term) :
    (b.bind name t).keyed = b.keyed.insert name t.key := by
  refine Std.ExtTreeMap.ext_getElem? fun n => ?_
  rw [getElem?_keyed, getElem?_bind, Std.ExtTreeMap.getElem?_insert, getElem?_keyed]
  simp only [Std.LawfulEqOrd.compare_eq_iff_eq]
  by_cases h : name = n
  · rw [if_pos h, if_pos h, Option.map_some]
  · rw [if_neg h, if_neg h]

theorem map_key_get? (h : b.keyed = b'.keyed) (name : String) :
    (b.get? name).map Term.key = (b'.get? name).map Term.key := by
  rw [get?, get?, ← getElem?_keyed, ← getElem?_keyed, h]

mutual

theorem keyChars_substitute_congr (h : b.keyed = b'.keyed) :
    ∀ t : Term, (b.substitute t).keyChars = (b'.substitute t).keyChars
  | .var name => by
    have hkey : b.values[name]?.map Term.key = b'.values[name]?.map Term.key := by
      rw [← getElem?_keyed, ← getElem?_keyed, h]
    rw [substitute, substitute]
    rcases map_eq_cases hkey with ⟨hb, hb'⟩ | ⟨t, u, hb, hb', hkey⟩
    · rw [hb, hb']
    · rw [hb, hb']
      exact Term.key_eq_iff.mp hkey
  | .collection items => by
    rw [substitute, substitute, Term.keyChars_collection]
    exact keyChars_substituteAll_congr h items
  | .named _ => rfl
  | .blank _ => rfl
  | .literal _ => rfl
  | .formula _ => rfl

theorem keyChars_substituteAll_congr (h : b.keyed = b'.keyed) : ∀ ts : List Term,
    (b.substituteAll ts).map Term.keyChars = (b'.substituteAll ts).map Term.keyChars
  | [] => rfl
  | t :: ts => by
    rw [substituteAll, substituteAll, List.map_cons, List.map_cons, keyChars_substitute_congr h t,
      keyChars_substituteAll_congr h ts]

end

end Bindings

namespace Term

theorem hasVariable_of_kind {t u : Term} (h : t.kind = u.kind) (hkind : t.kind ≠ .collection) :
    t.hasVariable = u.hasVariable := by
  cases t <;> cases u <;> simp_all [kind, hasVariable]

mutual

theorem hasVariable_congr : ∀ {t u : Term}, t.keyChars = u.keyChars → t.hasVariable = u.hasVariable
  | .collection items, u, h => by
    have hkind := kind_of_keyChars h
    cases u with
    | collection others =>
      rw [hasVariable, hasVariable]
      exact anyVariable_congr (keyChars_collection.mp h)
    | _ => cases hkind
  | .var _, _, h => hasVariable_of_kind (kind_of_keyChars h) Kind.noConfusion
  | .named _, _, h => hasVariable_of_kind (kind_of_keyChars h) Kind.noConfusion
  | .blank _, _, h => hasVariable_of_kind (kind_of_keyChars h) Kind.noConfusion
  | .literal _, _, h => hasVariable_of_kind (kind_of_keyChars h) Kind.noConfusion
  | .formula _, _, h => hasVariable_of_kind (kind_of_keyChars h) Kind.noConfusion

theorem anyVariable_congr : ∀ {ts us : List Term}, ts.map keyChars = us.map keyChars →
    anyVariable ts = anyVariable us
  | [], [], _ => rfl
  | [], _ :: _, h => by cases h
  | _ :: _, [], h => by cases h
  | t :: ts, u :: us, h => by
    obtain ⟨hhead, htail⟩ := List.cons.inj h
    rw [anyVariable, anyVariable, hasVariable_congr hhead, anyVariable_congr htail]

end

end Term

theorem Bindings.hasVariable_substitute {b b' : Bindings} (h : b.keyed = b'.keyed) (t : Term) :
    (b.substitute t).hasVariable = (b'.substitute t).hasVariable :=
  Term.hasVariable_congr (keyChars_substitute_congr h t)

/-! ## Stored terms that match alike -/

namespace Graph

mutual

/-- No difference between the stored terms is seen by a term of a pattern: they are alike, and where
their items are looked at the items are. -/
def Likewise (g : Graph) : Term → Term → Term → Prop
  | .collection items, t, u =>
    if Term.anyVariable items then
      (∃ ts us, t = .collection ts ∧ u = .collection us ∧ LikewiseAll g items ts us) ∨
        ∀ others : List Term, others.length = items.length → t ≠ .collection others ∧ u ≠ .collection others
    else g.alike t u = true
  | _, t, u => g.alike t u = true

def LikewiseAll (g : Graph) : List Term → List Term → List Term → Prop
  | [], [], [] => True
  | p :: ps, t :: ts, u :: us => Likewise g p t u ∧ LikewiseAll g ps ts us
  | _, _, _ => False

end

theorem likewise_of_alike {g : Graph} {p t u : Term} (hopen : p.isOpen = false)
    (h : g.alike t u = true) : g.Likewise p t u := by
  cases p with
  | collection items =>
    have hclosed : ¬ Term.anyVariable items = true := Bool.eq_false_iff.mp hopen
    rw [Likewise, if_neg hclosed]
    exact h
  | _ => exact h

theorem bind_likewise {α β γ δ : Type} {key : α → β} {key' : γ → δ} {x y : Option α}
    {f f' : α → Option γ} (h : x.map key = y.map key)
    (hf : ∀ a b, key a = key b → (f a).map key' = (f' b).map key') :
    (x.bind f).map key' = (y.bind f').map key' := by
  rcases map_eq_cases h with ⟨rfl, rfl⟩ | ⟨a, b, rfl, rfl, hkey⟩
  · rfl
  · exact hf a b hkey

def Extension.keyed (x : Extension) : Std.ExtTreeMap String String × List String := (x.1.keyed, x.2)

theorem unifyItems_eq_none {g : Graph} {ts us : List Term} {x : Extension}
    (h : us.length ≠ ts.length) : g.unifyItems ts us x = none := by
  induction ts generalizing us x with
  | nil =>
    cases us with
    | nil => exact absurd rfl h
    | cons u us => rfl
  | cons t ts ih =>
    cases us with
    | nil => rfl
    | cons u us =>
      rw [unifyItems, Option.bind_eq_none_iff]
      intro y _
      refine ih fun hlength => h ?_
      rw [List.length_cons, List.length_cons, hlength]

theorem unifyTerm_eq_none {g : Graph} {items : List Term} {t : Term} {x : Extension}
    (hopen : Term.anyVariable items = true)
    (h : ∀ others : List Term, others.length = items.length → t ≠ .collection others) :
    g.unifyTerm (.collection items) t x = none := by
  rw [Option.eq_none_iff_forall_ne_some]
  intro y hy
  obtain ⟨others, rfl, hitems⟩ := (unifyTerm_open hopen).mp hy
  rw [unifyItems_eq_none fun hlength => h others hlength rfl] at hitems
  cases hitems

variable {g g' : Graph}

theorem compare_likewise (hsame : ∀ t, g.canonKey t = g'.canonKey t) {p t u : Term}
    {x y : Extension} (h : g.alike t u = true) (hxy : x.keyed = y.keyed) :
    (if g.alike p t = true then some x else none).map Extension.keyed =
      (if g'.alike p u = true then some y else none).map Extension.keyed := by
  have halike : g.alike p t = g'.alike p u := by
    rw [alike, alike, ← hsame p, ← hsame u, ← beq_iff_eq.mp h]
  rw [halike]
  by_cases hp : g'.alike p u = true
  · rw [if_pos hp, if_pos hp, Option.map_some, Option.map_some, hxy]
  · rw [if_neg hp, if_neg hp, Option.map_none]

mutual

theorem unifyTerm_likewise (hsame : ∀ t, g.canonKey t = g'.canonKey t) :
    ∀ {p t u : Term} {x y : Extension}, g.Likewise p t u → x.keyed = y.keyed →
    (g.unifyTerm p t x).map Extension.keyed = (g'.unifyTerm p u y).map Extension.keyed
  | .var name, t, u, (b, bound), (b', bound'), h, hxy => by
    obtain ⟨hkeyed, rfl⟩ := Prod.mk.inj hxy
    rw [unifyTerm, unifyTerm]
    rcases map_eq_cases (Bindings.map_key_get? hkeyed name) with ⟨hb, hb'⟩ | ⟨v, w, hb, hb', hkey⟩
    · have hcanon : (g.canon t).key = (g'.canon u).key := (beq_iff_eq.mp h).trans (hsame u)
      rw [hb, hb']
      simp only [Option.map_some, Extension.keyed, Bindings.keyed_bind, hkeyed, hcanon]
    · have halike : g'.alike w u = g'.alike v u := by rw [alike, alike, canonKey_congr hkey]
      rw [hb, hb']
      simp only [halike]
      exact compare_likewise hsame h hxy
  | .collection items, t, u, x, y, h, hxy => by
    rw [Likewise] at h
    by_cases hopen : Term.anyVariable items = true
    · rw [if_pos hopen] at h
      rcases h with ⟨ts, us, rfl, rfl, hall⟩ | hnone
      · rw [unifyTerm, unifyTerm, if_pos hopen, if_pos hopen]
        exact unifyItems_likewise hsame hall hxy
      · rw [unifyTerm_eq_none hopen fun others hlength => (hnone others hlength).1,
          unifyTerm_eq_none hopen fun others hlength => (hnone others hlength).2]
    · rw [if_neg hopen] at h
      rw [unifyTerm_closed hopen, unifyTerm_closed hopen]
      exact compare_likewise hsame h hxy
  | .named _, t, u, x, y, h, hxy => compare_likewise hsame h hxy
  | .blank _, t, u, x, y, h, hxy => compare_likewise hsame h hxy
  | .literal _, t, u, x, y, h, hxy => compare_likewise hsame h hxy
  | .formula _, t, u, x, y, h, hxy => compare_likewise hsame h hxy

theorem unifyItems_likewise (hsame : ∀ t, g.canonKey t = g'.canonKey t) :
    ∀ {ps ts us : List Term} {x y : Extension}, g.LikewiseAll ps ts us → x.keyed = y.keyed →
    (g.unifyItems ps ts x).map Extension.keyed = (g'.unifyItems ps us y).map Extension.keyed
  | [], [], [], x, y, _, hxy => congrArg some hxy
  | p :: ps, t :: ts, u :: us, x, y, h, hxy => by
    rw [unifyItems, unifyItems]
    exact bind_likewise (unifyTerm_likewise hsame h.1 hxy) fun _ _ hrest =>
      unifyItems_likewise hsame h.2 hrest

end

theorem passes_congr {p : Pattern} {b b' : Bindings}
    (hclosures : ∀ name c, p.constraint? name = some c → c.Respectful) (h : b.keyed = b'.keyed)
    (name : String) : passes p b name = passes p b' name := by
  unfold passes
  cases hc : p.constraint? name with
  | none => rfl
  | some c =>
    rcases map_eq_cases (Bindings.map_key_get? h name) with ⟨hb, hb'⟩ | ⟨t, u, hb, hb', hkey⟩
    · rw [hb, hb']
    · rw [hb, hb']
      exact Constraint.test_congr (hclosures name c hc) (Term.same_iff_key.mpr hkey)

theorem unifyStatement_likewise (hsame : ∀ t, g.canonKey t = g'.canonKey t) {p : Pattern}
    {st found found' : Statement} {b b' : Bindings}
    (hlike : ∀ pos ∈ Prepared.matched, g.Likewise (st.get pos) (found.get pos) (found'.get pos))
    (hclosures : ∀ name c, p.constraint? name = some c → c.Respectful) (h : b.keyed = b'.keyed) :
    (g.unifyStatement p st found b).map Bindings.keyed =
      (g'.unifyStatement p st found' b').map Bindings.keyed := by
  have hsubject := hlike .subject (by simp [Prepared.matched])
  have hpredicate := hlike .predicate (by simp [Prepared.matched])
  have hobject := hlike .object (by simp [Prepared.matched])
  have hstart : Extension.keyed (b, []) = Extension.keyed (b', []) := Prod.ext h rfl
  unfold unifyStatement
  refine bind_likewise (unifyTerm_likewise hsame hsubject hstart) fun x x' hx => ?_
  refine bind_likewise (unifyTerm_likewise hsame hpredicate hx) fun y y' hy => ?_
  refine bind_likewise (unifyTerm_likewise hsame hobject hy) fun z z' hz => ?_
  obtain ⟨c, bound⟩ := z
  obtain ⟨c', bound'⟩ := z'
  obtain ⟨hkeyed, rfl⟩ := Prod.mk.inj hz
  -- the constraints are tested on terms with the same keys
  have hpass : bound.all (passes p c) = bound.all (passes p c') :=
    congrArg bound.all (funext fun name => passes_congr hclosures hkeyed name)
  simp only [hpass]
  by_cases hall : bound.all (passes p c') = true
  · rw [if_pos hall, if_pos hall, Option.map_some, Option.map_some, hkeyed]
  · rw [if_neg hall, if_neg hall, Option.map_none]

end Graph

end QuadGraph
