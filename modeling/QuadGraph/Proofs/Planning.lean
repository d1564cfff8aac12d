import QuadGraph.Proofs.Evaluation
import QuadGraph.Proofs.Lookup
import QuadGraph.Proofs.Unification

/-!
# What planning leaves out

The candidates for a statement come from one bucket, and still no match is lost: an entry that the
statement can be matched with lies in the bucket of each position in which no variable is left
(`WellFormed.candidates_perm`). For a collection with variables this needs that no terms were
merged, since its bucket is that of the items put in, not of those that stand for them.
-/

namespace QuadGraph

/-! ## Substitution -/

def Term.isOpen : Term → Bool
  | .collection items => Term.anyVariable items
  | _ => false

namespace Bindings

mutual

theorem substitute_of_ground (b : Bindings) : ∀ {t : Term}, t.hasVariable = false → b.substitute t = t
  | .var _, h => by cases h
  | .collection items, h => by
    rw [substitute, substituteAll_of_ground b h]
  | .named _, _ => rfl
  | .blank _, _ => rfl
  | .literal _, _ => rfl
  | .formula _, _ => rfl

theorem substituteAll_of_ground (b : Bindings) : ∀ {ts : List Term}, Term.anyVariable ts = false →
    b.substituteAll ts = ts
  | [], _ => rfl
  | t :: ts, h => by
    rw [Term.anyVariable, Bool.or_eq_false_iff] at h
    rw [substituteAll, substitute_of_ground b h.1, substituteAll_of_ground b h.2]

end

end Bindings

namespace Graph

theorem Unmerged.canonKey_eq {g : Graph} (h : g.Unmerged) (t : Term) : g.canonKey t = t.key := by
  rw [canonKey, h t]

theorem Unmerged.keyChars_eq {g : Graph} (h : g.Unmerged) {t u : Term} (halike : g.alike t u = true) :
    t.keyChars = u.keyChars := by
  rw [alike, beq_iff_eq, h.canonKey_eq, h.canonKey_eq] at halike
  exact Term.key_eq_iff.mp halike

section
variable {g : Graph} (hwf : g.WellFormed) {start b b' : Bindings} (hunder : b.Under b')

include hunder in
theorem below_of_under : b.Below b' := fun name t ht => ⟨t, hunder name t ht, rfl⟩

theorem alike_substitute_var {name : String} {u : Term} (hwf : g.WellFormed) (hunder : b.Under b')
    (hmeets : g.Meets start b' name u) (hground : (b.substitute (.var name)).hasVariable = false) :
    g.alike (b.substitute (.var name)) u = true := by
  rw [Bindings.substitute] at hground ⊢
  cases hget : b.values[name]? with
  | none =>
    rw [hget] at hground
    cases hground
  | some t => exact alike_of_meets hwf (below_of_under hunder) hget hmeets

mutual

theorem keyChars_substitute (hwf : g.WellFormed) (hun : g.Unmerged) (hunder : b.Under b') :
    ∀ {t u : Term}, g.Fits (g.Meets start b') t u → (b.substitute t).hasVariable = false →
    (b.substitute t).keyChars = u.keyChars
  | .var name, u, hfits, hground => hun.keyChars_eq (alike_substitute_var hwf hunder hfits hground)
  | .collection items, u, hfits, hground => by
    rw [Fits] at hfits
    by_cases hopen : Term.anyVariable items = true
    · rw [if_pos hopen] at hfits
      obtain ⟨others, rfl, hall⟩ := hfits
      exact Term.keyChars_collection.mpr (keyChars_substituteAll hwf hun hunder hall hground)
    · have hclosed : (Term.collection items).hasVariable = false := Bool.eq_false_iff.mpr hopen
      rw [if_neg hopen] at hfits
      rw [Bindings.substitute_of_ground b hclosed]
      exact hun.keyChars_eq hfits
  | .named _, _, hfits, _ => hun.keyChars_eq hfits
  | .blank _, _, hfits, _ => hun.keyChars_eq hfits
  | .literal _, _, hfits, _ => hun.keyChars_eq hfits
  | .formula _, _, hfits, _ => hun.keyChars_eq hfits

theorem keyChars_substituteAll (hwf : g.WellFormed) (hun : g.Unmerged) (hunder : b.Under b') :
    ∀ {ts us : List Term}, g.FitsAll (g.Meets start b') ts us →
    Term.anyVariable (b.substituteAll ts) = false →
    (b.substituteAll ts).map Term.keyChars = us.map Term.keyChars
  | [], [], _, _ => rfl
  | [], _ :: _, hfits, _ => hfits.elim
  | _ :: _, [], hfits, _ => hfits.elim
  | t :: ts, u :: us, hfits, hground => by
    rw [Bindings.substituteAll, Term.anyVariable, Bool.or_eq_false_iff] at hground
    rw [Bindings.substituteAll, List.map_cons, List.map_cons,
      keyChars_substitute hwf hun hunder hfits.1 hground.1,
      keyChars_substituteAll hwf hun hunder hfits.2 hground.2]

end

/-- A term that fits and in which no variable is left is looked up under the right key. -/
theorem canonKey_substitute (hwf : g.WellFormed) {t u : Term} (hopen : g.Unmerged ∨ t.isOpen = false)
    (hunder : b.Under b') (hfits : g.Fits (g.Meets start b') t u)
    (hground : (b.substitute t).hasVariable = false) :
    g.canonKey (b.substitute t) = g.canonKey u := by
  rcases hopen with hun | hclosed
  · exact canonKey_congr (Term.key_eq_iff.mpr (keyChars_substitute hwf hun hunder hfits hground))
  · cases t with
    | var name => exact beq_iff_eq.mp (alike_substitute_var hwf hunder hfits hground)
    | collection items =>
      have hclosed' : (Term.collection items).hasVariable = false := hclosed
      have hopen : ¬ Term.anyVariable items = true := Bool.eq_false_iff.mp hclosed
      rw [Fits, if_neg hopen] at hfits
      rw [Bindings.substitute_of_ground b hclosed']
      exact beq_iff_eq.mp hfits
    | _ => exact beq_iff_eq.mp hfits

end

end Graph

/-! ## Candidates -/

namespace Prepared

theorem foldl_narrower (f : Position × Term → List Entry) (xs : List (Position × Term))
    (best : Option (List Entry)) :
    xs.foldl (fun best x => narrower best (f x)) best = best ∨
      ∃ x ∈ xs, xs.foldl (fun best x => narrower best (f x)) best = some (f x) := by
  induction xs generalizing best with
  | nil => exact .inl rfl
  | cons x xs ih =>
    rw [List.foldl_cons]
    rcases ih (narrower best (f x)) with h | ⟨y, hy, h⟩
    · rw [h]
      unfold narrower
      split
      · exact .inr ⟨x, List.mem_cons_self .., rfl⟩
      · split
        · exact .inr ⟨x, List.mem_cons_self .., rfl⟩
        · exact .inl rfl
    · exact .inr ⟨y, List.mem_cons_of_mem x hy, h⟩

/-- The candidates are all entries, or the bucket of a position in which no variable is left. -/
theorem candidates_cases (g : Graph) (b : Bindings) (i : Nat) (st : Statement) :
    (ofStatement g b i st).candidates = g.entries ∨
      ∃ p ∈ matched, (b.substitute (st.get p)).hasVariable = false ∧
        (ofStatement g b i st).candidates = g.bucket p (b.substitute (st.get p)) := by
  have hfold := foldl_narrower (fun x => g.bucket x.1 x.2)
    ((matched.map fun p => (p, b.substitute (st.get p))).filter fun x => !x.2.hasVariable) none
  rcases hfold with h | ⟨x, hx, h⟩
  · refine .inl ?_
    simp only [ofStatement, h, Option.getD_none]
  · obtain ⟨hmem, hground⟩ := List.mem_filter.mp hx
    obtain ⟨p, hp, rfl⟩ := List.mem_map.mp hmem
    refine .inr ⟨p, hp, by simpa using hground, ?_⟩
    simp only [ofStatement, h, Option.getD_some]

end Prepared

namespace Graph

theorem FitsStatement.get {g : Graph} {meets : String → Term → Prop} {st found : Statement}
    (h : g.FitsStatement meets st found) {p : Position} (hp : p ∈ Prepared.matched) :
    g.Fits meets (st.get p) (found.get p) := by
  cases p with
  | subject => exact h.1
  | predicate => exact h.2.1
  | object => exact h.2.2
  | context => simp [Prepared.matched] at hp

section
variable {g : Graph} (hwf : g.WellFormed) {start b : Bindings} (hgrown : g.Grown start b)
  (p : Pattern) {st : Statement} (hnames : ∀ name ∈ st.vars, bareName name = name)
  (hopen : g.Unmerged ∨ ∀ pos ∈ Prepared.matched, (st.get pos).isOpen = false)
include hwf hgrown hnames hopen

/-- A position in which no variable is left is looked up under the key of what it can match. -/
theorem canonKey_of_unify {found : Statement} {b' : Bindings}
    (hunify : g.unifyStatement p st found b = some b') {pos : Position}
    (hpos : pos ∈ Prepared.matched) (hground : (b.substitute (st.get pos)).hasVariable = false) :
    g.canonKey (b.substitute (st.get pos)) = g.canonKey (found.get pos) := by
  obtain ⟨-, hunder, -, hfits, -⟩ := unifyStatement_sound hwf hgrown hnames hunify
  have hopen' : g.Unmerged ∨ (st.get pos).isOpen = false := hopen.imp_right fun h => h pos hpos
  exact canonKey_substitute hwf hopen' hunder (hfits.get hpos) hground

/-- Matching the candidates finds what matching all entries finds. -/
theorem candidates_perm (i : Nat) :
    ((Prepared.ofStatement g b i st).candidates.filterMap fun e =>
      g.unifyStatement p st e.statement b).Perm
    (g.entries.filterMap fun e => g.unifyStatement p st e.statement b) := by
  rcases Prepared.candidates_cases g b i st with h | ⟨pos, hpos, hground, h⟩
  · rw [h]
  · rw [h, bucket]
    refine ((hwf.filed pos _).filterMap _).trans (.of_eq ?_)
    rw [filedUnder, List.filterMap_filter]
    refine List.filterMap_congr fun e _ => ?_
    split
    case isTrue => rfl
    case isFalse hkey =>
      -- an entry of another bucket does not match
      cases hunify : g.unifyStatement p st e.statement b with
      | none => rfl
      | some b' =>
        have heq := canonKey_of_unify hwf hgrown p hnames hopen hunify hpos hground
        exact absurd (beq_iff_eq.mpr heq.symm) hkey

theorem mem_candidates (i : Nat) {e : Entry} (he : e ∈ g.entries) {b' : Bindings}
    (hunify : g.unifyStatement p st e.statement b = some b') :
    e ∈ (Prepared.ofStatement g b i st).candidates := by
  rcases Prepared.candidates_cases g b i st with h | ⟨pos, hpos, hground, h⟩
  · rw [h]
    exact he
  · have heq := canonKey_of_unify hwf hgrown p hnames hopen hunify hpos hground
    rw [h, bucket, (hwf.filed pos _).mem_iff, filedUnder, List.mem_filter]
    exact ⟨he, beq_iff_eq.mpr heq.symm⟩

end

end Graph

/-! ## The statement chosen -/

namespace Pattern

def statementsAt (p : Pattern) (is : List Nat) : List Statement :=
  is.filterMap fun i => p.statements[i]?

theorem filterMap_range_getElem? {α : Type} (l : List α) :
    (List.range l.length).filterMap (fun i => l[i]?) = l := by
  induction l with
  | nil => rfl
  | cons a l ih =>
    rw [List.length_cons, List.range_succ_eq_map, List.filterMap_cons_some List.getElem?_cons_zero,
      List.filterMap_map]
    exact congrArg (a :: ·) ih

theorem statementsAt_range (p : Pattern) : p.statementsAt (List.range p.size) = p.statements :=
  filterMap_range_getElem? p.statements

theorem prepared_perm (g : Graph) (p : Pattern) (remaining : List Nat) (b : Bindings) :
    (p.prepared g remaining b).Perm
      (remaining.filterMap fun i => p.statements[i]?.map (Prepared.ofStatement g b i)) :=
  List.mergeSort_perm _ _

theorem statementsAt_prepared (g : Graph) (p : Pattern) (remaining : List Nat) (b : Bindings) :
    (p.statementsAt ((p.prepared g remaining b).map Prepared.index)).Perm
      (p.statementsAt remaining) := by
  rw [statementsAt, List.filterMap_map]
  refine ((p.prepared_perm g remaining b).filterMap _).trans (.of_eq ?_)
  rw [List.filterMap_filterMap, statementsAt]
  refine List.filterMap_congr fun i _ => ?_
  cases hst : p.statements[i]? with
  | none => rfl
  | some st => exact hst

theorem statementsAt_of_nil {g : Graph} {p : Pattern} {remaining : List Nat} {b : Bindings}
    (hplan : p.prepared g remaining b = []) : p.statementsAt remaining = [] := by
  have hperm := p.statementsAt_prepared g remaining b
  rw [hplan] at hperm
  exact hperm.symm.eq_nil

theorem mem_prepared {g : Graph} {p : Pattern} {remaining : List Nat} {b : Bindings} {x : Prepared}
    (hx : x ∈ p.prepared g remaining b) :
    ∃ st, p.statements[x.index]? = some st ∧ x = Prepared.ofStatement g b x.index st := by
  obtain ⟨i, -, h⟩ := List.mem_filterMap.mp ((p.prepared_perm g remaining b).mem_iff.mp hx)
  obtain ⟨st, hst, rfl⟩ := Option.map_eq_some_iff.mp h
  exact ⟨st, hst, rfl⟩

end Pattern

end QuadGraph
