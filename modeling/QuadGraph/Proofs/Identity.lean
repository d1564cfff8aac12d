import Mathlib.Data.List.Destutter
import QuadGraph.Proofs.Clashes

/-!
# What counts as one term

Three parts of the program decide which terms are one: sorting goes by the order, merging by the
order of the terms that stand for others, and every table by keys. They agree, for terms that
neither comes before the other are those with one key. A sorted list in which such neighbours are
collapsed therefore holds just the terms that a table tells apart (`collapse_sort_perm`), and a merge
does nothing just when both terms are stood for by one (`equate_eq_self_iff`).
-/

namespace QuadGraph

/-! ## Sorting and tables -/

namespace Term

def Differs (a b : Term) : Prop := a.cmp b ≠ .eq

instance : DecidableRel Differs := fun a b => inferInstanceAs (Decidable (a.cmp b ≠ .eq))

theorem not_differs_iff {a b : Term} : ¬ Differs a b ↔ a.key = b.key := by
  rw [Differs, not_not, cmp_eq_iff_key]

theorem cmp_lt_of_lt_of_le {a b c : Term} (hab : a.cmp b = .lt) (hbc : b.le c = true) :
    a.cmp c = .lt := by
  rw [le, Ordering.isLE_iff_eq_lt_or_eq_eq] at hbc
  rcases hbc with hbc | hbc
  · exact cmp_lt_trans hab hbc
  · exact (cmp_congr_right hbc a).symm.trans hab

def collapse (ts : List Term) : List Term := ts.destutter Differs

theorem destutter'_increasing {a : Term} {ts : List Term}
    (h : (a :: ts).Pairwise fun a b => a.le b = true) :
    (ts.destutter' Differs a).Pairwise fun a b => a.cmp b = .lt := by
  induction ts generalizing a with
  | nil => exact List.pairwise_singleton ..
  | cons b ts ih =>
    obtain ⟨ha, hrest⟩ := List.pairwise_cons.mp h
    by_cases hab : Differs a b
    · rw [List.destutter'_cons_pos _ hab, List.pairwise_cons]
      refine ⟨fun u hu => ?_, ih hrest⟩
      have hlt := cmp_lt_of_le (ha b (List.mem_cons_self ..)) (hab.imp cmp_eq_iff_key.mpr)
      rcases List.mem_cons.mp (List.destutter'_sublist ts Differs b |>.mem hu) with rfl | hu
      · exact hlt
      · exact cmp_lt_of_lt_of_le hlt ((List.pairwise_cons.mp hrest).1 u hu)
    · rw [List.destutter'_cons_neg _ hab]
      exact ih (h.sublist ((List.sublist_cons_self b ts).cons_cons a))

theorem collapse_increasing {ts : List Term} (h : ts.Pairwise fun a b => a.le b = true) :
    (collapse ts).Pairwise fun a b => a.cmp b = .lt := by
  cases ts with
  | nil => exact .nil
  | cons a ts => exact destutter'_increasing h

theorem mem_keys_destutter' (a : Term) (ts : List Term) (k : String) :
    k ∈ (ts.destutter' Differs a).map key ↔ k ∈ (a :: ts).map key := by
  induction ts generalizing a with
  | nil => rfl
  | cons b ts ih =>
    by_cases hab : Differs a b
    · simp only [List.destutter'_cons_pos _ hab, List.map_cons, List.mem_cons, ih b]
    · -- the neighbour is dropped, but it has the key of the term before it
      have hkey := not_differs_iff.mp hab
      simp only [List.destutter'_cons_neg _ hab, ih a, List.map_cons, List.mem_cons, hkey, or_self_left]

theorem mem_keys_collapse (ts : List Term) (k : String) :
    k ∈ (collapse ts).map key ↔ k ∈ ts.map key := by
  cases ts with
  | nil => rfl
  | cons a ts => exact mem_keys_destutter' a ts k

theorem nodup_eraseDups : ∀ ks : List String, ks.eraseDups.Nodup
  | [] => List.nodup_nil
  | k :: ks => by
    rw [List.eraseDups_cons, List.nodup_cons, List.mem_eraseDups]
    exact ⟨by simp, nodup_eraseDups _⟩
termination_by ks => ks.length
decreasing_by exact Nat.lt_succ_of_le (List.length_filter_le _ _)

theorem collapse_sort_perm (ts : List Term) :
    ((collapse (sort ts)).map key).Perm (ts.map key).eraseDups := by
  have hnodup : ((collapse (sort ts)).map key).Nodup := by
    rw [List.Nodup, List.pairwise_map]
    exact (collapse_increasing (sort_ascending ts)).imp key_ne_of_cmp_lt
  rw [List.perm_ext_iff_of_nodup hnodup (nodup_eraseDups _)]
  intro k
  rw [mem_keys_collapse, List.mem_eraseDups]
  exact ((List.mergeSort_perm ts le).map key).mem_iff

end Term

/-! ## Merging -/

namespace Store

variable {s : Store} (hwf : s.graph.WellFormed) (a b : Term)
include hwf

theorem equate_eq_self_iff : s.equate a b = s ↔ s.graph.canonKey a = s.graph.canonKey b := by
  constructor
  · intro hsame
    have halike := alike_equate hwf a b
    rw [hsame] at halike
    exact beq_iff_eq.mp halike
  · intro hkey
    have hcmp : (s.graph.canon a).cmp (s.graph.canon b) = .eq := Term.cmp_eq_iff_key.mpr hkey
    rw [equate, Graph.mergeOrder?, hcmp]

/-- The lower of the two terms that stood for them stands for both. -/
theorem canonKey_equate_left : (s.equate a b).graph.canonKey a =
    if (s.graph.canon a).le (s.graph.canon b) then s.graph.canonKey a else s.graph.canonKey b := by
  cases hcmp : (s.graph.canon a).cmp (s.graph.canon b) with
  | eq =>
    have hkey : s.graph.canonKey a = s.graph.canonKey b := Term.cmp_eq_iff_key.mp hcmp
    rw [(equate_eq_self_iff hwf a b).mpr hkey, ← hkey, ite_self]
  | lt =>
    have hmerge : Graph.mergeOrder? (s.graph.canon a) (s.graph.canon b) =
        some (s.graph.canon b, s.graph.canon a) := by rw [Graph.mergeOrder?, hcmp]
    have hne : s.graph.canonKey a ≠ (s.graph.canon b).key := Term.key_ne_of_cmp_lt hcmp
    rw [canonKey_equate hwf hmerge, if_neg hne, Term.le, hcmp]
    rfl
  | gt =>
    have hmerge : Graph.mergeOrder? (s.graph.canon a) (s.graph.canon b) =
        some (s.graph.canon a, s.graph.canon b) := by rw [Graph.mergeOrder?, hcmp]
    have hself : s.graph.canonKey a = (s.graph.canon a).key := rfl
    rw [canonKey_equate hwf hmerge, if_pos hself, Term.le, hcmp]
    rfl

theorem canonKey_equate_right : (s.equate a b).graph.canonKey b =
    if (s.graph.canon a).le (s.graph.canon b) then s.graph.canonKey a else s.graph.canonKey b := by
  rw [← canonKey_equate_left hwf]
  exact (beq_iff_eq.mp (alike_equate hwf a b)).symm

end Store

/-! ## The main result -/

theorem Term.cmp_trans (o : Ordering) {a b c : Term} (hab : a.cmp b = o) (hbc : b.cmp c = o) :
    a.cmp c = o := by
  cases o with
  | lt => exact cmp_lt_trans hab hbc
  | eq => exact (cmp_congr hab c).trans hbc
  | gt => exact Std.TransCmp.gt_trans hab hbc

/-- The order of terms is total, and neither of two terms comes before the other just when they are
the same, which is when they have one key. So a list that is sorted tells as many terms apart as a
table of their keys, and the same ones; and merging two terms does nothing just when those that stand
for them are one, and else the lower of these stands for both. -/
theorem Term.order_identifies :
    (∀ a b : Term, b.cmp a = (a.cmp b).swap) ∧
    (∀ (o : Ordering) (a b c : Term), a.cmp b = o → b.cmp c = o → a.cmp c = o) ∧
    (∀ a b c : Term, a.le b = true → b.le c = true → a.le c = true) ∧
    (∀ a b : Term, (a.cmp b = .eq ↔ a.same b = true) ∧ (a.cmp b = .eq ↔ a.key = b.key)) ∧
    (∀ ts : List Term, (sort ts).Perm ts ∧
      (collapse (sort ts)).Pairwise (fun a b => a.cmp b = .lt) ∧
      ((collapse (sort ts)).map key).Perm (ts.map key).eraseDups ∧
      (collapse (sort ts)).length = distinctCount ts) ∧
    ∀ s : Store, s.Reachable → ∀ a b : Term,
      (s.equate a b = s ↔ (s.graph.canon a).cmp (s.graph.canon b) = .eq) ∧
      ∀ t ∈ [a, b], (s.equate a b).graph.canonKey t =
        if (s.graph.canon a).le (s.graph.canon b) then s.graph.canonKey a else s.graph.canonKey b := by
  refine ⟨fun a b => cmp_swap b a, fun o _ _ _ => cmp_trans o, fun _ _ _ => le_trans,
    fun a b => ⟨cmp_eq_iff_same a b, cmp_eq_iff_key⟩, fun ts => ?_, fun s hs a b => ?_⟩
  · have hperm := collapse_sort_perm ts
    refine ⟨List.mergeSort_perm ts le, collapse_increasing (sort_ascending ts), hperm, ?_⟩
    rw [← List.length_map, hperm.length_eq, distinctCount]
  · rw [Store.equate_eq_self_iff hs.wellFormed, cmp_eq_iff_key]
    refine ⟨Iff.rfl, fun t ht => ?_⟩
    rcases List.mem_pair.mp ht with rfl | rfl
    · exact Store.canonKey_equate_left hs.wellFormed t b
    · exact Store.canonKey_equate_right hs.wellFormed a t

end QuadGraph
