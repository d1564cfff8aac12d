import QuadGraph.Proofs.Keys

/-!
# The order of terms is total

Terms that neither comes before the other compare alike with every third term (`cmp_congr`), and
what comes before is transitive (`cmp_lt_trans`). Both go along the recursion of the comparison;
terms of two kinds are compared by rank alone (`cmp_of_kind_ne`), so only terms of one kind need an
argument. With `cmp_swap` this makes the comparison a total preorder, of which the equal terms are
those with one key.
-/

namespace QuadGraph

theorem Kind.rank_inj {k l : Kind} (h : k.rank = l.rank) : k = l := by
  cases k <;> cases l <;> first | rfl | exact absurd h (by decide)

instance Literal.transCmp : Std.TransCmp Literal.cmp :=
  inferInstanceAs (Std.TransCmp (compareLex (compareOn Literal.value)
    (compareLex (compareOn Literal.language?) (compareOn Literal.datatype?))))

theorem compare_swap (a b : String) : compare a b = (compare b a).swap := Std.OrientedOrd.eq_swap

theorem compare_lt_trans {a b c : String} (hab : compare a b = .lt) (hbc : compare b c = .lt) :
    compare a c = .lt := Std.TransCmp.lt_trans hab hbc

theorem Literal.cmp_lt_trans {a b c : Literal} (hab : a.cmp b = .lt) (hbc : b.cmp c = .lt) :
    a.cmp c = .lt := Std.TransCmp.lt_trans hab hbc

namespace Term

theorem cmp_of_kind_ne {a b : Term} (h : a.kind ≠ b.kind) :
    a.cmp b = compare a.kind.rank b.kind.rank := by
  cases a <;> cases b <;> first | rfl | exact absurd rfl h

theorem rank_le_of_cmp_lt {a b : Term} (h : a.cmp b = .lt) : a.kind.rank ≤ b.kind.rank := by
  by_cases hkind : a.kind = b.kind
  · exact Nat.le_of_eq (congrArg Kind.rank hkind)
  · rw [cmp_of_kind_ne hkind, Nat.compare_eq_lt] at h
    exact Nat.le_of_lt h

/-! ## Turned round -/

mutual

theorem cmp_swap : ∀ a b : Term, a.cmp b = (b.cmp a).swap
  | .named a, b => by
    cases b with
    | named b => exact compare_swap a b
    | _ => rfl
  | .blank a, b => by
    cases b with
    | blank b => exact compare_swap a b
    | _ => rfl
  | .var a, b => by
    cases b with
    | var b => exact compare_swap a b
    | _ => rfl
  | .literal a, b => by
    cases b with
    | literal b => exact Literal.transCmp.eq_swap
    | _ => rfl
  | .formula as, b => by
    cases b with
    | formula bs => exact compare_swap _ _
    | _ => rfl
  | .collection as, b => by
    cases b with
    | collection bs => exact cmpItems_swap as bs
    | _ => rfl

theorem cmpItems_swap : ∀ as bs : List Term, cmpItems as bs = (cmpItems bs as).swap
  | [], [] => rfl
  | [], _ :: _ => rfl
  | _ :: _, [] => rfl
  | a :: as, b :: bs => by
    rw [cmpItems, cmpItems, Ordering.swap_then, ← cmp_swap a b, ← cmpItems_swap as bs]

end

/-! ## Equal terms compare alike -/

mutual

theorem cmp_congr : ∀ {a b : Term}, a.cmp b = .eq → ∀ c : Term, a.cmp c = b.cmp c
  | .named a, b, h, c => by
    cases b with
    | named b =>
      rw [cmp, Std.LawfulEqOrd.compare_eq_iff_eq] at h
      rw [h]
    | _ => cases h
  | .blank a, b, h, c => by
    cases b with
    | blank b =>
      rw [cmp, Std.LawfulEqOrd.compare_eq_iff_eq] at h
      rw [h]
    | _ => cases h
  | .var a, b, h, c => by
    cases b with
    | var b =>
      rw [cmp, Std.LawfulEqOrd.compare_eq_iff_eq] at h
      rw [h]
    | _ => cases h
  | .literal a, b, h, c => by
    cases b with
    | literal b =>
      rw [cmp, Literal.cmp_eq_iff] at h
      rw [h]
    | _ => cases h
  | .formula as, b, h, c => by
    cases b with
    | formula bs =>
      rw [cmp, Std.LawfulEqOrd.compare_eq_iff_eq] at h
      cases c with
      | formula cs => rw [cmp, cmp, h]
      | _ => rfl
    | _ => cases h
  | .collection as, b, h, c => by
    cases b with
    | collection bs =>
      cases c with
      | collection cs => exact cmpItems_congr h cs
      | _ => rfl
    | _ => cases h

theorem cmpItems_congr : ∀ {as bs : List Term}, cmpItems as bs = .eq →
    ∀ cs : List Term, cmpItems as cs = cmpItems bs cs
  | [], [], _, _ => rfl
  | [], _ :: _, h, _ => by cases h
  | _ :: _, [], h, _ => by cases h
  | _ :: _, _ :: _, _, [] => rfl
  | a :: as, b :: bs, h, c :: cs => by
    rw [cmpItems, Ordering.then_eq_eq] at h
    rw [cmpItems, cmpItems, cmp_congr h.1 c, cmpItems_congr h.2 cs]

end

theorem cmp_congr_right {b c : Term} (h : b.cmp c = .eq) (a : Term) : a.cmp b = a.cmp c := by
  rw [cmp_swap a b, cmp_swap a c, cmp_congr h a]

/-! ## Transitivity -/

/-- Where the ranks differ they decide, so only terms of one kind remain. -/
theorem cmp_lt_trans_of {a b c : Term} (hab : a.cmp b = .lt) (hbc : b.cmp c = .lt)
    (h : a.kind = b.kind → b.kind = c.kind → a.cmp c = .lt) : a.cmp c = .lt := by
  have hrank := rank_le_of_cmp_lt hab
  have hrank' := rank_le_of_cmp_lt hbc
  by_cases hkind : a.kind = c.kind
  · rw [← hkind] at hrank'
    have heq : a.kind = b.kind := Kind.rank_inj (Nat.le_antisymm hrank hrank')
    exact h heq (heq.symm.trans hkind)
  · have hne : a.kind.rank ≠ c.kind.rank := fun heq => hkind (Kind.rank_inj heq)
    rw [cmp_of_kind_ne hkind, Nat.compare_eq_lt]
    omega

mutual

theorem cmp_lt_trans : ∀ {a b c : Term}, a.cmp b = .lt → b.cmp c = .lt → a.cmp c = .lt
  | .named a, b, c, hab, hbc => cmp_lt_trans_of hab hbc fun hb hc => by
    cases b <;> cases c <;> cases hb <;> cases hc
    exact compare_lt_trans hab hbc
  | .blank a, b, c, hab, hbc => cmp_lt_trans_of hab hbc fun hb hc => by
    cases b <;> cases c <;> cases hb <;> cases hc
    exact compare_lt_trans hab hbc
  | .var a, b, c, hab, hbc => cmp_lt_trans_of hab hbc fun hb hc => by
    cases b <;> cases c <;> cases hb <;> cases hc
    exact compare_lt_trans hab hbc
  | .literal a, b, c, hab, hbc => cmp_lt_trans_of hab hbc fun hb hc => by
    cases b <;> cases c <;> cases hb <;> cases hc
    exact Literal.cmp_lt_trans hab hbc
  | .formula as, b, c, hab, hbc => cmp_lt_trans_of hab hbc fun hb hc => by
    cases b <;> cases c <;> cases hb <;> cases hc
    exact compare_lt_trans hab hbc
  | .collection as, b, c, hab, hbc => cmp_lt_trans_of hab hbc fun hb hc => by
    cases b <;> cases c <;> cases hb <;> cases hc
    exact cmpItems_lt_trans hab hbc

theorem cmpItems_lt_trans : ∀ {as bs cs : List Term}, cmpItems as bs = .lt →
    cmpItems bs cs = .lt → cmpItems as cs = .lt
  | [], [], _, hab, _ => by cases hab
  | [], _ :: _, [], _, hbc => by cases hbc
  | [], _ :: _, _ :: _, _, _ => rfl
  | _ :: _, [], _, hab, _ => by cases hab
  | _ :: _, _ :: _, [], _, hbc => by cases hbc
  | a :: as, b :: bs, c :: cs, hab, hbc => by
    rw [cmpItems, Ordering.then_eq_lt] at hab hbc ⊢
    rcases hab with hab | ⟨hab, hrest⟩
    · rcases hbc with hbc | ⟨hbc, -⟩
      · exact .inl (cmp_lt_trans hab hbc)
      · exact .inl ((cmp_congr_right hbc a).symm.trans hab)
    · rcases hbc with hbc | ⟨hbc, hrest'⟩
      · exact .inl ((cmp_congr hab c).trans hbc)
      · exact .inr ⟨(cmp_congr hab c).trans hbc, cmpItems_lt_trans hrest hrest'⟩

end

instance orientedCmp : Std.OrientedCmp cmp where
  eq_swap := cmp_swap _ _

instance transCmp : Std.TransCmp cmp where
  isLE_trans := by
    intro a b c hab hbc
    rw [Ordering.isLE_iff_eq_lt_or_eq_eq] at hab hbc ⊢
    rcases hab with hab | hab
    · rcases hbc with hbc | hbc
      · exact .inl (cmp_lt_trans hab hbc)
      · exact .inl ((cmp_congr_right hbc a).symm.trans hab)
    · rw [cmp_congr hab c]
      exact hbc

/-! ## Not after -/

theorem le_refl (a : Term) : a.le a = true :=
  (Std.ReflCmp.isLE_rfl : (a.cmp a).isLE = true)

theorem le_trans {a b c : Term} (hab : a.le b = true) (hbc : b.le c = true) : a.le c = true :=
  transCmp.isLE_trans hab hbc

theorem le_total (a b : Term) : (a.le b || b.le a) = true := by
  rw [le, le, cmp_swap a b]
  cases b.cmp a <;> rfl

theorem le_of_key_eq {a b : Term} (h : a.key = b.key) : a.le b = true := by
  rw [le, cmp_eq_iff_key.mpr h]
  rfl

theorem cmp_lt_of_le {a b : Term} (hle : a.le b = true) (hne : a.key ≠ b.key) : a.cmp b = .lt := by
  rw [le, Ordering.isLE_iff_eq_lt_or_eq_eq] at hle
  exact hle.resolve_right fun heq => hne (cmp_eq_iff_key.mp heq)

theorem key_ne_of_cmp_lt {a b : Term} (h : a.cmp b = .lt) : a.key ≠ b.key := by
  intro hkey
  rw [cmp_eq_iff_key.mpr hkey] at h
  cases h

theorem sort_ascending (ts : List Term) : (sort ts).Pairwise fun a b => a.le b = true :=
  List.pairwise_mergeSort
    (fun a b c (hab : a.le b = true) (hbc : b.le c = true) => le_trans hab hbc) le_total ts

end Term

end QuadGraph
