import QuadGraph.Equivalence
import QuadGraph.Proofs.Keys

/-!
# Merging terms

As long as only terms that stand for themselves are merged, the redirections stay flat: no term
that others are redirected to is itself redirected. A term is then found in one step
(`Flat.find_eq`), and a merge changes what stands for exactly those terms that the one merged
away stood for (`Flat.find_union`).
-/

namespace QuadGraph

namespace Equivalence

variable {e : Equivalence}

/-- Redirections take one step, and each term knows those that are redirected to it. -/
structure Flat (e : Equivalence) : Prop where
  target : ∀ (k : String) (r : Term), e.redirections[k]? = some r → e.redirections[r.key]? = none
  listed : ∀ (k : String) (r : Term), e.redirections[k]? = some r → ∃ t ∈ e.aliases r.key, t.key = k
  redirected : ∀ (k : String) (t : Term), t ∈ e.aliases k →
    ∃ r, e.redirections[t.key]? = some r ∧ r.key = k

theorem flat_empty : Flat {} := by
  constructor <;> simp [aliases]

/-! ## Finding -/

theorem next?_of_target {r : Term} (h : e.redirections[r.key]? = none) : e.next? r = none := by
  rw [next?, h, Option.filter_none]

/-- A look-up takes one step. -/
theorem Flat.find?_eq_getElem? (h : e.Flat) (k : String) : e.find? k = e.redirections[k]? := by
  rw [find?_eq]
  cases hr : e.redirections[k]? with
  | none => rfl
  | some r => rw [Option.map_some, walk_eq, next?_of_target (h.target _ _ hr)]

theorem Flat.find_eq (h : e.Flat) (t : Term) : e.find t = (e.redirections[t.key]?).getD t := by
  unfold find
  rw [h.find?_eq_getElem?]

theorem find_congr {t u : Term} (h : t.key = u.key) : (e.find t).key = (e.find u).key := by
  unfold find
  rw [h]
  cases e.find? u.key with
  | none => exact h
  | some r => rfl

theorem Flat.redirections_find (h : e.Flat) (t : Term) : e.redirections[(e.find t).key]? = none := by
  rw [h.find_eq]
  cases hr : e.redirections[t.key]? with
  | none => exact hr
  | some r => exact h.target _ _ hr

theorem Flat.find_find (h : e.Flat) (t : Term) : e.find (e.find t) = e.find t := by
  rw [h.find_eq (e.find t), h.redirections_find]
  rfl

theorem Flat.isEmpty_iff (h : e.Flat) : e.isEmpty = true ↔ ∀ t, e.find t = t := by
  unfold isEmpty
  rw [Std.ExtTreeMap.isEmpty_iff]
  constructor
  · intro hempty t
    rw [h.find_eq, hempty]
    simp
  · intro hself
    ext k r
    rw [Std.ExtTreeMap.getElem?_empty]
    constructor
    · intro hr
      -- a term redirected to r is not redirected at all if it stands for itself
      obtain ⟨t, -, rfl⟩ := h.listed k r hr
      have hfind := h.find_eq t
      rw [hself t, hr, Option.getD_some] at hfind
      subst hfind
      rw [h.target _ _ hr] at hr
      cases hr
    · intro hr
      cases hr

/-! ## Merging -/

theorem getElem?_redirectAll (small : Term) (moved : List Term)
    (m : Std.ExtTreeMap String Term) (k : String) :
    (moved.foldl (fun r t => r.insert t.key small) m)[k]? =
      if k ∈ moved.map Term.key then some small else m[k]? := by
  induction moved generalizing m with
  | nil => simp
  | cons t ts ih =>
    rw [List.foldl_cons, ih, Std.ExtTreeMap.getElem?_insert]
    by_cases hk : k ∈ ts.map Term.key
    · simp [hk]
    · by_cases ht : t.key = k
      · simp [hk, ht]
      · simp [hk, ht, Ne.symm ht]

theorem getElem?_union (big small : Term) (k : String) :
    (e.union big small).redirections[k]? =
      if k = big.key ∨ k ∈ (e.aliases big.key).map Term.key then some small
      else e.redirections[k]? := by
  simp only [union, Std.ExtTreeMap.getElem?_insert, getElem?_redirectAll]
  by_cases hb : big.key = k
  · simp [hb]
  · simp [hb, Ne.symm hb]

theorem aliases_union (big small : Term) (k : String) :
    (e.union big small).aliases k =
      if k = small.key then
        (if small.key = big.key then [] else e.aliases small.key) ++ big :: e.aliases big.key
      else if k = big.key then [] else e.aliases k := by
  simp only [union, aliases, Std.ExtTreeMap.getD_insert, Std.ExtTreeMap.getD_erase,
    Std.LawfulEqOrd.compare_eq_iff_eq]
  by_cases hs : small.key = k
  · subst hs
    by_cases hb : big.key = small.key
    · simp [hb]
    · simp [hb, Ne.symm hb]
  · by_cases hb : big.key = k
    · simp [hs, hb, Ne.symm hs]
    · simp [hs, hb, Ne.symm hs, Ne.symm hb]

theorem Flat.mem_aliases (h : e.Flat) (k key : String) :
    k ∈ (e.aliases key).map Term.key ↔ (e.redirections[k]?).map Term.key = some key := by
  rw [List.mem_map, Option.map_eq_some_iff]
  constructor
  · rintro ⟨t, ht, rfl⟩
    exact h.redirected key t ht
  · rintro ⟨r, hr, rfl⟩
    exact h.listed k r hr

section
variable (h : e.Flat) {big small : Term} (hb : e.redirections[big.key]? = none)
include h

theorem Flat.getElem?_union (k : String) :
    (e.union big small).redirections[k]? =
      if k = big.key ∨ (e.redirections[k]?).map Term.key = some big.key then some small
      else e.redirections[k]? := by
  simp only [Equivalence.getElem?_union, h.mem_aliases]

theorem Flat.getElem?_union_of_none {k : String} (hk : e.redirections[k]? = none)
    (hkb : k ≠ big.key) :
    (e.union big small).redirections[k]? = none := by
  rw [h.getElem?_union, hk, if_neg]
  simp [hkb]

include hb

theorem Flat.getElem?_union_of_some {k : String} {r : Term} (hk : e.redirections[k]? = some r)
    (hr : r.key ≠ big.key) : (e.union big small).redirections[k]? = some r := by
  have hkb : k ≠ big.key := by
    rintro rfl
    rw [hb] at hk
    cases hk
  rw [h.getElem?_union, hk, if_neg]
  simp [hkb, hr]

variable (hs : e.redirections[small.key]? = none) (hne : big.key ≠ small.key)
include hs hne

theorem Flat.union : (e.union big small).Flat where
  target := by
    intro k r hr
    rw [h.getElem?_union] at hr
    split at hr
    case isTrue =>
      obtain rfl := Option.some.inj hr
      exact h.getElem?_union_of_none hs (Ne.symm hne)
    case isFalse hk =>
      refine h.getElem?_union_of_none (h.target k r hr) fun hrb => hk (.inr ?_)
      rw [hr, Option.map_some, hrb]
  listed := by
    intro k r hr
    rw [Equivalence.getElem?_union] at hr
    split at hr
    case isTrue hk =>
      obtain rfl := Option.some.inj hr
      rw [aliases_union, if_pos rfl]
      rcases hk with rfl | hk
      · exact ⟨big, by simp, rfl⟩
      · obtain ⟨t, ht, rfl⟩ := List.mem_map.mp hk
        exact ⟨t, by simp [ht], rfl⟩
    case isFalse hk =>
      obtain ⟨t, ht, rfl⟩ := h.listed k r hr
      refine ⟨t, ?_, rfl⟩
      have hrb : r.key ≠ big.key := by
        intro hrb
        exact hk (.inr ((h.mem_aliases _ _).mpr (by rw [hr, Option.map_some, hrb])))
      rw [aliases_union, if_neg hrb]
      split
      case isTrue hrs => rw [hrs] at ht; simp [Ne.symm hne, ht]
      case isFalse => exact ht
  redirected := by
    intro k t ht
    rw [aliases_union] at ht
    split at ht
    case isTrue hk =>
      rw [if_neg (Ne.symm hne), List.mem_append, List.mem_cons] at ht
      rcases ht with ht | rfl | ht
      · obtain ⟨r, hr, hrs⟩ := h.redirected _ t ht
        exact ⟨r, h.getElem?_union_of_some hb hr (hrs ▸ Ne.symm hne), hrs.trans hk.symm⟩
      · exact ⟨small, by rw [h.getElem?_union, if_pos (.inl rfl)], hk.symm⟩
      · obtain ⟨r, hr, hrb⟩ := h.redirected _ t ht
        refine ⟨small, ?_, hk.symm⟩
        rw [h.getElem?_union, if_pos (.inr (by rw [hr, Option.map_some, hrb]))]
    case isFalse hk =>
      split at ht
      case isTrue => cases ht
      case isFalse hkb =>
        obtain ⟨r, hr, rfl⟩ := h.redirected k t ht
        exact ⟨r, h.getElem?_union_of_some hb hr hkb, rfl⟩

/-- A merge puts the second term in the place of the first and changes nothing else. -/
theorem Flat.find_union (t : Term) :
    (e.union big small).find t = if (e.find t).key = big.key then small else e.find t := by
  rw [(h.union hb hs hne).find_eq, h.find_eq t]
  cases hr : e.redirections[t.key]? with
  | none => by_cases ht : t.key = big.key <;> simp [h.getElem?_union, hr, ht]
  | some r =>
    have ht : t.key ≠ big.key := by
      intro ht
      rw [ht, hb] at hr
      cases hr
    by_cases hrb : r.key = big.key <;> simp [h.getElem?_union, hr, ht, hrb]

end

theorem isEmpty_union (big small : Term) : (e.union big small).isEmpty = false := by
  simp [isEmpty, union]

end Equivalence

end QuadGraph
