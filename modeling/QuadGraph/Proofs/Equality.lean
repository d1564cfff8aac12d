import Mathlib.Data.List.Perm.Basic
import Mathlib.Data.Char
import QuadGraph.Proofs.Keys
import QuadGraph.Store.Basic

/-!
# Structural equality

What it means for two terms to be equal is said here without keys: collections are equal item by
item, and formulas when the quads of the one, in some order, are equal to those of the other. The
quads of a formula can be told from their sorted and concatenated keys (`quadsText_inj`), so terms
with one key are equal and the other way round (`equal_iff_keyChars`), however deep formulas and
collections are nested.
-/

namespace QuadGraph

/-! ## The order of texts -/

theorem charsLe_total : ∀ as bs : List Char, (charsLe as bs || charsLe bs as) = true
  | [], _ => rfl
  | _ :: _, [] => rfl
  | a :: as, b :: bs => by
    have ih := charsLe_total as bs
    rw [Bool.or_eq_true] at ih
    simp only [charsLe, Bool.or_eq_true, Bool.and_eq_true, decide_eq_true_eq, beq_iff_eq]
    rcases lt_trichotomy a b with h | h | h
    · exact .inl (.inl h)
    · subst h
      rcases ih with ih | ih
      · exact .inl (.inr ⟨rfl, ih⟩)
      · exact .inr (.inr ⟨rfl, ih⟩)
    · exact .inr (.inl h)

theorem charsLe_trans : ∀ as bs cs : List Char,
    charsLe as bs = true → charsLe bs cs = true → charsLe as cs = true
  | [], _, _, _, _ => rfl
  | _ :: _, [], _, h, _ => by cases h
  | _ :: _, _ :: _, [], _, h => by cases h
  | a :: as, b :: bs, c :: cs, hab, hbc => by
    simp only [charsLe, Bool.or_eq_true, Bool.and_eq_true, decide_eq_true_eq, beq_iff_eq] at hab hbc ⊢
    rcases hab with hab | ⟨rfl, hab⟩
    · rcases hbc with hbc | ⟨rfl, -⟩
      · exact .inl (lt_trans hab hbc)
      · exact .inl hab
    · rcases hbc with hbc | ⟨rfl, hbc⟩
      · exact .inl hbc
      · exact .inr ⟨rfl, charsLe_trans as bs cs hab hbc⟩

theorem charsLe_antisymm : ∀ as bs : List Char,
    charsLe as bs = true → charsLe bs as = true → as = bs
  | [], [], _, _ => rfl
  | [], _ :: _, _, h => by cases h
  | _ :: _, [], h, _ => by cases h
  | a :: as, b :: bs, hab, hba => by
    simp only [charsLe, Bool.or_eq_true, Bool.and_eq_true, decide_eq_true_eq, beq_iff_eq] at hab hba
    rcases hab with hab | ⟨rfl, hab⟩
    · rcases hba with hba | ⟨rfl, -⟩
      · exact absurd hba (lt_asymm hab)
      · exact absurd hab (lt_irrefl _)
    · rcases hba with hba | ⟨-, hba⟩
      · exact absurd hba (lt_irrefl _)
      · rw [charsLe_antisymm as bs hab hba]

theorem perm_map_iff {α β : Type} {f : α → β} {ks : List β} {xs : List α} :
    ks.Perm (xs.map f) ↔ ∃ ys : List α, ks = ys.map f ∧ ys.Perm xs :=
  (congrFun₂ (List.eq_map_comp_perm f) ks xs).symm.to_iff

theorem mergeSort_charsLe_eq_iff {as bs : List (List Char)} :
    as.mergeSort charsLe = bs.mergeSort charsLe ↔ as.Perm bs := by
  constructor
  · intro h
    have has := List.mergeSort_perm as charsLe
    rw [h] at has
    exact has.symm.trans (List.mergeSort_perm bs charsLe)
  · intro h
    have hperm : (as.mergeSort charsLe).Perm (bs.mergeSort charsLe) :=
      (List.mergeSort_perm as charsLe).trans (h.trans (List.mergeSort_perm bs charsLe).symm)
    exact hperm.eq_of_pairwise (fun x y _ _ => charsLe_antisymm x y)
      (List.pairwise_mergeSort charsLe_trans charsLe_total as)
      (List.pairwise_mergeSort charsLe_trans charsLe_total bs)

/-! ## Equal terms -/

namespace Term

mutual

/-- The same term of a kind; two formulas quote equal quads, each equally often. -/
def Equal : Term → Term → Prop
  | .named a, .named b => a = b
  | .blank a, .blank b => a = b
  | .literal a, .literal b => a = b
  | .var a, .var b => a = b
  | .collection as, .collection bs => EqualItems as bs
  | .formula as, .formula bs => ∃ cs : List (Quad Term), cs.Perm bs ∧ EqualQuads as cs
  | _, _ => False

def EqualItems : List Term → List Term → Prop
  | [], [] => True
  | a :: as, b :: bs => Equal a b ∧ EqualItems as bs
  | _, _ => False

def EqualQuad : Quad Term → Quad Term → Prop
  | ⟨s, p, o, c⟩, q => Equal s q.subject ∧ Equal p q.predicate ∧ Equal o q.object ∧ Equal c q.context

def EqualQuads : List (Quad Term) → List (Quad Term) → Prop
  | [], [] => True
  | q :: qs, r :: rs => EqualQuad q r ∧ EqualQuads qs rs
  | _, _ => False

end

/-! ## Quads can be told from their keys -/

theorem quadsChars_eq_map (qs : List (Quad Term)) : quadsChars qs = qs.map quadChars := by
  induction qs with
  | nil => rfl
  | cons q qs ih => rw [quadsChars, ih, List.map_cons]

theorem quadChars_append_inj {q r : Quad Term} {xs ys : List Char}
    (h : quadChars q ++ xs = quadChars r ++ ys) :
    (q.subject.keyChars = r.subject.keyChars ∧ q.predicate.keyChars = r.predicate.keyChars ∧
      q.object.keyChars = r.object.keyChars ∧ q.context.keyChars = r.context.keyChars) ∧ xs = ys := by
  obtain ⟨s, p, o, c⟩ := q
  obtain ⟨s', p', o', c'⟩ := r
  simp only [quadChars, List.append_assoc, List.cons_append, List.nil_append] at h
  obtain ⟨hs, h⟩ := keyChars_append_inj h
  obtain ⟨hp, h⟩ := keyChars_append_inj h
  obtain ⟨ho, h⟩ := keyChars_append_inj h
  obtain ⟨hc, h⟩ := keyChars_append_inj h
  exact ⟨⟨hs, hp, ho, hc⟩, (List.cons.inj h).2⟩

theorem quadChars_eq_iff {q r : Quad Term} : quadChars q = quadChars r ↔
    q.subject.keyChars = r.subject.keyChars ∧ q.predicate.keyChars = r.predicate.keyChars ∧
      q.object.keyChars = r.object.keyChars ∧ q.context.keyChars = r.context.keyChars := by
  constructor
  · intro h
    exact (quadChars_append_inj (congrArg (· ++ []) h)).1
  · rintro ⟨hs, hp, ho, hc⟩
    obtain ⟨s, p, o, c⟩ := q
    obtain ⟨s', p', o', c'⟩ := r
    simp only at hs hp ho hc
    simp only [quadChars, hs, hp, ho, hc]

theorem quadChars_head (q : Quad Term) : ∃ cs, quadChars q = q.subject.kind.initial :: cs := by
  obtain ⟨cs, hcs⟩ := keyChars_head q.subject
  obtain ⟨s, p, o, c⟩ := q
  simp only at hcs
  exact ⟨_, by rw [quadChars, hcs, List.cons_append]⟩

def quadsText (ks : List (List Char)) : List Char := ks.flatMap (' ' :: ·) ++ [' ', '}']

theorem quadsText_inj : ∀ {qs rs : List (Quad Term)},
    quadsText (qs.map quadChars) = quadsText (rs.map quadChars) →
      qs.map quadChars = rs.map quadChars
  | [], [], _ => rfl
  | [], r :: rs, h => by
    obtain ⟨cs, hcs⟩ := quadChars_head r
    have hne : '}' ≠ r.subject.kind.initial := by cases r.subject.kind <;> decide
    simp [quadsText, hcs, hne] at h
  | q :: qs, [], h => by
    obtain ⟨cs, hcs⟩ := quadChars_head q
    have hne : q.subject.kind.initial ≠ '}' := by cases q.subject.kind <;> decide
    simp [quadsText, hcs, hne] at h
  | q :: qs, r :: rs, h => by
    simp only [quadsText, List.map_cons, List.flatMap_cons, List.cons_append, List.append_assoc,
      List.cons.injEq, true_and] at h
    obtain ⟨hqr, hrest⟩ := quadChars_append_inj h
    rw [List.map_cons, List.map_cons, quadChars_eq_iff.mpr hqr, quadsText_inj hrest]

theorem keyChars_formula {qs rs : List (Quad Term)} :
    (formula qs).keyChars = (formula rs).keyChars ↔
      (qs.map quadChars).Perm (rs.map quadChars) := by
  rw [← mergeSort_charsLe_eq_iff]
  -- a sorted list of keys is still a list of keys of quads
  have hsorted : ∀ ts : List (Quad Term), ∃ us : List (Quad Term),
      (ts.map quadChars).mergeSort charsLe = us.map quadChars := by
    intro ts
    obtain ⟨us, hus, -⟩ := perm_map_iff.mp (List.mergeSort_perm (ts.map quadChars) charsLe)
    exact ⟨us, hus⟩
  have htext : ∀ ts : List (Quad Term), (formula ts).keyChars =
      '{' :: quadsText ((ts.map quadChars).mergeSort charsLe) := by
    intro ts
    rw [keyChars, quadsChars_eq_map, quadsText, List.cons_append]
  rw [htext, htext, List.cons.injEq]
  constructor
  · rintro ⟨-, h⟩
    obtain ⟨qs', hqs⟩ := hsorted qs
    obtain ⟨rs', hrs⟩ := hsorted rs
    rw [hqs, hrs] at h ⊢
    exact quadsText_inj h
  · intro h
    exact ⟨rfl, congrArg quadsText h⟩

/-! ## Equal terms have equal keys -/

mutual

theorem equal_iff_keyChars : ∀ a b : Term, a.Equal b ↔ a.keyChars = b.keyChars
  | .named a, b => by
    rw [← same_iff_keyChars]
    cases b <;> simp [Equal, same]
  | .blank a, b => by
    rw [← same_iff_keyChars]
    cases b <;> simp [Equal, same]
  | .literal a, b => by
    rw [← same_iff_keyChars]
    cases b <;> simp [Equal, same]
  | .var a, b => by
    rw [← same_iff_keyChars]
    cases b <;> simp [Equal, same]
  | .collection as, b => by
    cases b with
    | collection bs =>
      rw [Equal, keyChars_collection]
      exact equalItems_iff_keyChars as bs
    | _ => exact ⟨fun h => by simp [Equal] at h, fun h => by simpa [kind] using kind_of_keyChars h⟩
  | .formula as, b => by
    cases b with
    | formula bs =>
      rw [Equal, keyChars_formula, perm_map_iff]
      constructor
      · rintro ⟨cs, hcs, h⟩
        exact ⟨cs, (equalQuads_iff_keyChars as cs).mp h, hcs⟩
      · rintro ⟨cs, h, hcs⟩
        exact ⟨cs, hcs, (equalQuads_iff_keyChars as cs).mpr h⟩
    | _ => exact ⟨fun h => by simp [Equal] at h, fun h => by simpa [kind] using kind_of_keyChars h⟩

theorem equalItems_iff_keyChars : ∀ as bs : List Term,
    EqualItems as bs ↔ as.map keyChars = bs.map keyChars
  | [], [] => by simp [EqualItems]
  | [], _ :: _ => by simp [EqualItems]
  | _ :: _, [] => by simp [EqualItems]
  | a :: as, b :: bs => by
    rw [EqualItems, equal_iff_keyChars a b, equalItems_iff_keyChars as bs, List.map_cons,
      List.map_cons, List.cons.injEq]

theorem equalQuad_iff_keyChars : ∀ q r : Quad Term, EqualQuad q r ↔ quadChars q = quadChars r
  | ⟨s, p, o, c⟩, r => by
    rw [EqualQuad, equal_iff_keyChars s, equal_iff_keyChars p, equal_iff_keyChars o,
      equal_iff_keyChars c, quadChars_eq_iff]

theorem equalQuads_iff_keyChars : ∀ qs rs : List (Quad Term),
    EqualQuads qs rs ↔ qs.map quadChars = rs.map quadChars
  | [], [] => by simp [EqualQuads]
  | [], _ :: _ => by simp [EqualQuads]
  | _ :: _, [] => by simp [EqualQuads]
  | q :: qs, r :: rs => by
    rw [EqualQuads, equalQuad_iff_keyChars q r, equalQuads_iff_keyChars qs rs, List.map_cons,
      List.map_cons, List.cons.injEq]

end

theorem equal_iff_key {a b : Term} : a.Equal b ↔ a.key = b.key :=
  (equal_iff_keyChars a b).trans key_eq_iff.symm

theorem equal_iff_same {a b : Term} : a.Equal b ↔ a.same b = true :=
  equal_iff_key.trans same_iff_key.symm

end Term

/-! ## Statements -/

theorem Quad.same_iff {a b : Statement} : a.same b = true ↔
    a.subject.same b.subject = true ∧ a.predicate.same b.predicate = true ∧
      a.object.same b.object = true ∧ a.context.same b.context = true := by
  simp [Quad.same, Position.all, Quad.get]

theorem Quad.key_eq_iff {a b : Statement} : a.key = b.key ↔ Term.quadChars a = Term.quadChars b := by
  unfold Quad.key
  exact String.ofList_inj

theorem Quad.same_iff_key {a b : Statement} : a.same b = true ↔ a.key = b.key := by
  rw [Quad.key_eq_iff, Term.quadChars_eq_iff, Quad.same_iff]
  simp only [Term.same_iff_keyChars]

theorem Term.equalQuad_iff_same {a b : Statement} : EqualQuad a b ↔ a.same b = true := by
  rw [Term.equalQuad_iff_keyChars, Quad.same_iff_key, Quad.key_eq_iff]

/-- A key stands for one term: terms have the same key just when they are equal, and that is when
they are called the same. So it is with statements. What a formula quotes of a store does not depend
on the order of its statements, nor on what the store has merged. -/
theorem Term.key_unambiguous :
    (∀ a b : Term, (a.key = b.key ↔ a.Equal b) ∧ (a.same b = true ↔ a.Equal b)) ∧
    (∀ a b : Statement, (a.key = b.key ↔ a.same b = true) ∧ (a.same b = true ↔ Term.EqualQuad a b)) ∧
    ∀ s t : Store, s.toFormula.key = t.toFormula.key ↔
      ∃ sts : List Statement, sts.Perm t.graph.statements ∧ Term.EqualQuads s.graph.statements sts := by
  refine ⟨fun a b => ⟨equal_iff_key.symm, equal_iff_same.symm⟩, fun a b => ?_, fun s t => ?_⟩
  · exact ⟨Quad.same_iff_key.symm, equalQuad_iff_same.symm⟩
  · rw [← equal_iff_key, Store.toFormula, Store.toFormula, Equal]

end QuadGraph
