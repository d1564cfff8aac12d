import Mathlib.Algebra.GroupWithZero.Nat
import QuadGraph.Proofs.Parking
import QuadGraph.Proofs.Representatives
import QuadGraph.Proofs.Unification

/-!
# Aliases

The two tables of an equivalence say the same thing from both ends: a term is redirected to another
just when it is listed under it, and it is listed once (`Equivalence.Tidy`). A merge moves one list
behind another, and keeps this because what it merges are two different terms that both stand for
themselves. So a term that stands for itself, with its list, is the class of all that was equated
with it (`Reachable.classes_listed`).
-/

namespace QuadGraph

namespace Equivalence

variable {e : Equivalence}

structure Tidy (e : Equivalence) : Prop where
  flat : e.Flat
  distinct : ∀ k, ((e.aliases k).map Term.key).Nodup
  ne_nil : ∀ (k : String) (l : List Term), e.members[k]? = some l → l ≠ []

theorem tidy_empty : Tidy {} where
  flat := flat_empty
  distinct := by simp [aliases]
  ne_nil := by simp

theorem Flat.not_listed (h : e.Flat) {k : String} (hk : e.redirections[k]? = none) (key : String) :
    k ∉ (e.aliases key).map Term.key := by
  rw [h.mem_aliases, hk]
  exact nofun

theorem Flat.listed_once (h : e.Flat) {k key key' : String} (hk : k ∈ (e.aliases key).map Term.key)
    (hk' : k ∈ (e.aliases key').map Term.key) : key = key' := by
  rw [h.mem_aliases] at hk hk'
  exact Option.some.inj (hk.symm.trans hk')

theorem Tidy.union (h : e.Tidy) {big small : Term} (hb : e.redirections[big.key]? = none)
    (hs : e.redirections[small.key]? = none) (hne : big.key ≠ small.key) :
    (e.union big small).Tidy where
  flat := h.flat.union hb hs hne
  distinct := by
    intro k
    rw [aliases_union, if_neg (Ne.symm hne)]
    split
    case isTrue =>
      -- what stood for itself was in no list, and no term was in both
      rw [List.map_append, List.map_cons, List.nodup_middle, List.nodup_cons, List.mem_append]
      refine ⟨?_, List.nodup_append'.mpr ⟨h.distinct _, h.distinct _, fun key hsmall hbig => ?_⟩⟩
      · rintro (hsmall | hbig)
        · exact h.flat.not_listed hb _ hsmall
        · exact h.flat.not_listed hb _ hbig
      · exact hne (h.flat.listed_once hbig hsmall)
    case isFalse =>
      split
      case isTrue => exact List.nodup_nil
      case isFalse => exact h.distinct k
  ne_nil := by
    intro k l hl
    simp only [Equivalence.union, Std.ExtTreeMap.getElem?_insert, Std.ExtTreeMap.getElem?_erase] at hl
    split at hl
    · obtain rfl := Option.some.inj hl
      simp
    · split at hl
      · cases hl
      · exact h.ne_nil k l hl

theorem aliases_of_some {k : String} {l : List Term} (h : e.members[k]? = some l) :
    e.aliases k = l := by
  rw [aliases, Std.ExtTreeMap.getD_eq_getD_getElem?, h, Option.getD_some]

theorem Tidy.current (h : e.Tidy) {k : String} {l : List Term} (hl : e.members[k]? = some l) :
    ∃ r, e.find r = r ∧ r.key = k := by
  obtain ⟨t, ht⟩ := List.exists_mem_of_ne_nil l (h.ne_nil k l hl)
  obtain ⟨r, hr, rfl⟩ := h.flat.redirected k t (aliases_of_some hl ▸ ht)
  refine ⟨r, ?_, rfl⟩
  rw [h.flat.find_eq, h.flat.target _ _ hr, Option.getD_none]

/-- The lists together hold just the terms that are redirected. -/
theorem Tidy.keys_perm (h : e.Tidy) :
    e.redirections.keys.Perm (e.members.toList.flatMap fun m => m.2.map Term.key) := by
  have hlist : ∀ m ∈ e.members.toList, e.aliases m.1 = m.2 := fun m hm =>
    aliases_of_some (Std.ExtTreeMap.mem_toList_iff_getElem?_eq_some.mp hm)
  refine (List.perm_ext_iff_of_nodup Std.ExtTreeMap.nodup_keys (List.nodup_flatMap.mpr ⟨?_, ?_⟩)).mpr
    fun k => ?_
  · intro m hm
    rw [← hlist m hm]
    exact h.distinct m.1
  · refine Std.ExtTreeMap.distinct_keys_toList.imp_of_mem fun {m m'} hm hm' hne key
      (hkey : key ∈ m.2.map Term.key) (hkey' : key ∈ m'.2.map Term.key) => hne ?_
    rw [← hlist m hm] at hkey
    rw [← hlist m' hm'] at hkey'
    rw [h.flat.listed_once hkey hkey']
    exact Std.ReflCmp.compare_self
  · rw [Std.ExtTreeMap.mem_keys, Std.ExtTreeMap.mem_iff_isSome_getElem?, List.mem_flatMap]
    constructor
    · intro hk
      obtain ⟨r, hr⟩ := Option.isSome_iff_exists.mp hk
      have hmem : k ∈ (e.aliases r.key).map Term.key := by
        rw [h.flat.mem_aliases, hr, Option.map_some]
      cases hl : e.members[r.key]? with
      | none => simp [aliases, Std.ExtTreeMap.getD_eq_getD_getElem?, hl] at hmem
      | some l =>
        rw [aliases_of_some hl] at hmem
        exact ⟨(r.key, l), Std.ExtTreeMap.mem_toList_iff_getElem?_eq_some.mpr hl, hmem⟩
    · rintro ⟨m, hm, hk⟩
      rw [← hlist m hm, h.flat.mem_aliases] at hk
      obtain ⟨r, hr, -⟩ := Option.map_eq_some_iff.mp hk
      rw [hr]
      rfl

theorem Tidy.mergedCount_eq (h : e.Tidy) :
    e.mergedCount = (e.members.values.map List.length).sum := by
  have hlength := h.keys_perm.length_eq
  rw [Std.ExtTreeMap.length_keys, List.length_flatMap] at hlength
  rw [mergedCount, hlength, values_eq_map_snd, List.map_map]
  simp only [List.length_map]
  rfl

end Equivalence

namespace Graph

variable {g : Graph} (h : g.equivalence.Tidy)
include h

/-- The terms that the same term stands for are that one and its aliases, each of them once. -/
theorem class_distinct (t : Term) : ((g.canon t :: g.aliases t).map Term.key).Nodup := by
  rw [List.map_cons, List.nodup_cons]
  exact ⟨h.flat.not_listed (h.flat.redirections_find t) _, h.distinct _⟩

theorem mem_class (t u : Term) :
    u.key ∈ (g.canon t :: g.aliases t).map Term.key ↔ g.canonKey t = g.canonKey u := by
  have hself := h.flat.redirections_find t
  rw [List.map_cons, List.mem_cons]
  unfold aliases
  rw [h.flat.mem_aliases, canonKey, canonKey, canon, canon, h.flat.find_eq u]
  cases hu : g.equivalence.redirections[u.key]? with
  | none => simp [eq_comm]
  | some r =>
    have hne : u.key ≠ (g.equivalence.find t).key := by
      intro hkey
      rw [hkey, hself] at hu
      cases hu
    simp [hne, eq_comm]

theorem iris_distinct (t : Term) : (g.iris t).Nodup := by
  have hpair := class_distinct h t
  rw [List.Nodup, List.pairwise_map] at hpair
  refine hpair.filterMap Term.iri? fun v w hne iri hv iri' hw heq => hne ?_
  rw [Term.eq_named_of_iri? hv, Term.eq_named_of_iri? hw, heq]

theorem mem_iris (t : Term) (iri : String) :
    iri ∈ g.iris t ↔ g.canonKey t = g.canonKey (.named iri) := by
  rw [← mem_class h, iris, List.mem_filterMap, List.mem_map]
  constructor
  · rintro ⟨v, hv, hiri⟩
    exact ⟨v, hv, by rw [Term.eq_named_of_iri? hiri]⟩
  · rintro ⟨v, hv, hkey⟩
    exact ⟨v, hv, Term.iri?_congr (Term.same_iff_key.mpr hkey)⟩

end Graph

/-! ## Reachable stores -/

namespace Store

theorem tidy_equate {s : Store} (h : s.graph.equivalence.Tidy) (a b : Term) :
    (s.equate a b).graph.equivalence.Tidy := by
  unfold equate
  split
  case h_1 => exact h
  case h_2 big small hmerge =>
    have ha := h.flat.redirections_find a
    have hb := h.flat.redirections_find b
    rcases mergeOrder?_mem hmerge with ⟨rfl, rfl⟩ | ⟨rfl, rfl⟩
    · exact h.union ha hb (mergeOrder?_key_ne hmerge)
    · exact h.union hb ha (mergeOrder?_key_ne hmerge)

theorem tidy_change {s : Store} (h : s.graph.equivalence.Tidy) (c : Change) :
    (s.change c).graph.equivalence.Tidy := by
  cases c with
  | equate a b => exact tidy_equate h a b
  | _ => exact h

theorem Evolves.tidy {s t : Store} {cs : List Change} (he : s.Evolves cs t)
    (h : s.graph.equivalence.Tidy) : t.graph.equivalence.Tidy := by
  induction he with
  | nil s => exact h
  | cons _ _ ih => exact ih (tidy_change h _)

theorem Reachable.tidy {s : Store} (h : s.Reachable) : s.graph.equivalence.Tidy := by
  obtain ⟨es, hes⟩ := reachable_iff_history.mp h
  obtain ⟨options, hchanges⟩ := hes.evolves
  exact hchanges.tidy Equivalence.tidy_empty

/-- A term that was merged away is redirected in one step to a term that stands for itself, and is
listed under it, once; only terms that stand for themselves have such a list, and the lists are as
long together as there are terms merged away. The term that stands for a term, with its list, is
all that was equated with the term, and the IRIs among these are found once each. -/
theorem Reachable.classes_listed {s : Store} (h : s.Reachable) :
    (∀ (k : String) (r : Term), s.graph.equivalence.redirections[k]? = some r →
      r.key ≠ k ∧ s.graph.equivalence.redirections[r.key]? = none) ∧
    (∀ k, s.graph.equivalence.find? k = s.graph.equivalence.redirections[k]?) ∧
    (∀ t, s.graph.canon (s.graph.canon t) = s.graph.canon t) ∧
    (∀ k, ((s.graph.equivalence.aliases k).map Term.key).Nodup ∧
      ∀ u : Term, u.key ∈ (s.graph.equivalence.aliases k).map Term.key ↔
        ∃ r, s.graph.equivalence.redirections[u.key]? = some r ∧ r.key = k) ∧
    (∀ k ∈ s.graph.equivalence.members, s.graph.equivalence.aliases k ≠ [] ∧
      ∃ r, s.graph.canon r = r ∧ r.key = k) ∧
    s.graph.equivalence.mergedCount =
      (s.graph.equivalence.members.values.map List.length).sum ∧
    (∃ es, s.History es) ∧ ∀ es, s.History es → ∀ t,
      (∀ u, Equated (Event.equated es) t u ↔
        ∃ v ∈ s.graph.canon t :: s.graph.aliases t, v.same u = true) ∧
      (s.graph.iris t).Nodup ∧
      (∀ iri, iri ∈ s.graph.iris t ↔ Equated (Event.equated es) t (.named iri)) ∧
      ∀ iri, s.graph.canon t = .named iri → (s.graph.iris t).head? = some iri := by
  have htidy := h.tidy
  have hflat := htidy.flat
  refine ⟨fun k r hr => ⟨?_, hflat.target k r hr⟩, hflat.find?_eq_getElem?, hflat.find_find,
    fun k => ⟨htidy.distinct k, fun u => ?_⟩, fun k hk => ?_, htidy.mergedCount_eq,
    reachable_iff_history.mp h, fun es hes t => ⟨fun u => ?_, Graph.iris_distinct htidy t,
    fun iri => ?_, fun iri hiri => ?_⟩⟩
  · rintro rfl
    rw [hflat.target _ _ hr] at hr
    cases hr
  · rw [hflat.mem_aliases, Option.map_eq_some_iff]
  · obtain ⟨l, hl⟩ := Option.isSome_iff_exists.mp (Std.ExtTreeMap.mem_iff_isSome_getElem?.mp hk)
    rw [Equivalence.aliases_of_some hl]
    exact ⟨htidy.ne_nil k l hl, htidy.current hl⟩
  · rw [← hes.represents.canonKey_eq_iff, ← Graph.mem_class htidy, List.mem_map]
    simp only [Term.same_iff_key]
  · rw [Graph.mem_iris htidy, hes.represents.canonKey_eq_iff]
  · rw [Graph.iris, hiri]
    rfl

theorem classes_listed_after_equates :
    let b := Term.named "b"
    let c := Term.named "c"
    let d := Term.blank "d"
    let s := ((bare.equate c d).equate (.named "a") b).equate d b
    s.Reachable ∧ s.History [.changed (.equate c d), .changed (.equate (.named "a") b),
      .changed (.equate d b)] ∧
      s.graph.equivalence.mergedCount = (s.graph.equivalence.members.values.map List.length).sum ∧
      s.graph.canon (s.graph.canon d) = s.graph.canon d ∧ "c" ∈ s.graph.iris b ∧
      (s.graph.iris b).Nodup := by
  intro b c d s
  have hstart : bare.History [] := .start { builtinActions := false }
  have hs : s.History [.changed (.equate c d), .changed (.equate (.named "a") b),
      .changed (.equate d b)] :=
    ((hstart.after 0 (.equate c d) rfl).after 0 (.equate (.named "a") b) rfl).after 0
      (.equate d b) rfl
  have hreach : s.Reachable := reachable_iff_history.mpr ⟨_, hs⟩
  obtain ⟨-, -, hcanon, -, -, hcount, -, hclass⟩ := hreach.classes_listed
  obtain ⟨-, hnodup, hiris, -⟩ := hclass _ hs b
  have hdb : Equated [(c, d), (.named "a", b), (d, b)] d b := .of_mem (by simp)
  have hcd : Equated [(c, d), (.named "a", b), (d, b)] c d := .of_mem (by simp)
  exact ⟨hreach, hs, hcount, hcanon d, (hiris "c").mpr (hcd.trans hdb).symm, hnodup⟩

example : (((bare.equate (.named "c") (.blank "d")).equate (.named "a") (.named "b")).equate
    (.blank "d") (.named "b")).graph.iris (.blank "d") = ["a", "b", "c"] := by
  decide +kernel

end Store

end QuadGraph
