import QuadGraph.Proofs.Identity
import QuadGraph.Proofs.Parking

/-!
# Contexts that hold statements

The contexts of a graph are read off the index of contexts, from the first entry of each bucket. In
a well-formed graph the key of a bucket is that of the term that stands for the context of each of
its entries (`WellFormed.firstContext?_key`), so different buckets give different terms, and a term
is given just when some statement is in that context. The buckets come sorted by what they give,
whatever order they were visited in (`WellFormed.sort_firstContexts`).
-/

namespace QuadGraph

/-! ## Buckets of contexts -/

namespace Graph

def firstContext? (g : Graph) (bucket : String × List Entry) : Option Term :=
  bucket.2.head?.map fun e => g.canon e.statement.context

section
variable {g : Graph} (h : g.WellFormed)
include h

theorem WellFormed.mem_listed {key : String} {es : List Entry}
    (hes : (key, es) ∈ g.indexes.context.toList) {e : Entry} :
    e ∈ es ↔ e ∈ g.entries ∧ g.canonKey e.statement.context = key := by
  have hbucket : (g.indexes.get .context).bucket key = es := by
    rw [Index.bucket_eq]
    change (g.indexes.context[key]?).getD [] = es
    rw [Std.ExtTreeMap.mem_toList_iff_getElem?_eq_some.mp hes, Option.getD_some]
  rw [← hbucket, h.mem_filed]
  rfl

theorem WellFormed.firstContext?_eq_some {bucket : String × List Entry}
    (hbucket : bucket ∈ g.indexes.context.toList) {c : Term} (hc : g.firstContext? bucket = some c) :
    ∃ e ∈ g.entries, g.canon e.statement.context = c ∧ c.key = bucket.1 := by
  obtain ⟨e, hhead, rfl⟩ := Option.map_eq_some_iff.mp hc
  obtain ⟨he, hkey⟩ := (h.mem_listed hbucket).mp (List.mem_of_head? hhead)
  exact ⟨e, he, rfl, hkey⟩

theorem WellFormed.firstContext?_key {a b : String × List Entry}
    (ha : a ∈ g.indexes.context.toList) (hb : b ∈ g.indexes.context.toList) {c d : Term}
    (hc : g.firstContext? a = some c) (hd : g.firstContext? b = some d) (hkey : c.key = d.key) :
    a = b := by
  obtain ⟨-, -, -, hac⟩ := h.firstContext?_eq_some ha hc
  obtain ⟨-, -, -, hbd⟩ := h.firstContext?_eq_some hb hd
  have hfst : a.1 = b.1 := hac.symm.trans (hkey.trans hbd)
  have hsnd := Std.ExtTreeMap.mem_toList_iff_getElem?_eq_some.mp ha
  rw [hfst, Std.ExtTreeMap.mem_toList_iff_getElem?_eq_some.mp hb] at hsnd
  exact Prod.ext hfst (Option.some.inj hsnd).symm

/-- Every entry is in a bucket, and the bucket's first entry has a context that is merged with its
own. -/
theorem WellFormed.firstContext?_of_entry {e : Entry} (he : e ∈ g.entries) :
    ∃ bucket ∈ g.indexes.context.toList, ∃ c, g.firstContext? bucket = some c ∧
      c.key = g.canonKey e.statement.context := by
  have hmem := (h.mem_filed (p := .context)).mpr ⟨he, rfl⟩
  rw [Index.bucket_eq] at hmem
  cases hes : (g.indexes.get .context)[g.canonKey (e.statement.get .context)]? with
  | none =>
    rw [hes] at hmem
    cases hmem
  | some es =>
    have hbucket := Std.ExtTreeMap.mem_toList_iff_getElem?_eq_some.mpr hes
    cases es with
    | nil => exact absurd rfl (h.filled .context _ _ hes)
    | cons x xs => exact ⟨_, hbucket, _, rfl, ((h.mem_listed hbucket).mp (List.mem_cons_self ..)).2⟩

/-! ## Sorting them -/

variable {order : List (String × List Entry)} (horder : order.Perm g.indexes.context.toList)
include horder

theorem WellFormed.firstContexts_distinct :
    (order.filterMap g.firstContext?).Pairwise fun a b => a.key ≠ b.key := by
  rw [List.pairwise_filterMap]
  have hnodup : order.Nodup := horder.nodup_iff.mpr (nodup_toList _)
  refine hnodup.imp_of_mem fun {a b} ha hb hne c hc d hd hkey => hne ?_
  exact h.firstContext?_key (horder.mem_iff.mp ha) (horder.mem_iff.mp hb) hc hd hkey

theorem WellFormed.sort_firstContexts_increasing :
    (Term.sort (order.filterMap g.firstContext?)).Pairwise fun a b => a.cmp b = .lt := by
  have hdistinct := (List.mergeSort_perm (order.filterMap g.firstContext?) Term.le).symm.pairwise
    (h.firstContexts_distinct horder) Ne.symm
  exact (Term.sort_ascending _).imp₂ (fun _ _ => Term.cmp_lt_of_le) hdistinct

/-- It does not matter in which order the buckets are visited. -/
theorem WellFormed.sort_firstContexts :
    Term.sort (order.filterMap g.firstContext?) = g.contexts := by
  have hperm : (Term.sort (order.filterMap g.firstContext?)).Perm g.contexts :=
    (List.mergeSort_perm _ _).trans
      ((horder.filterMap g.firstContext?).trans (List.mergeSort_perm _ _).symm)
  refine hperm.eq_of_pairwise (fun a b _ _ hab hba => ?_) (h.sort_firstContexts_increasing horder)
    (h.sort_firstContexts_increasing (.refl _))
  cases (Term.cmp_lt_trans hab hba).symm.trans (Term.cmp_eq_iff_key.mpr rfl)

end

end Graph

/-! ## Contexts of a reachable store -/

namespace Store

/-- After any merges and removals the contexts are listed from the lowest to the highest, none
twice, and just those in which a statement is left. -/
theorem Reachable.contexts_live {s : Store} (h : s.Reachable) :
    s.graph.contexts.Pairwise (fun a b => a.cmp b = .lt) ∧
    (∀ t, (∃ c ∈ s.graph.contexts, c.same t = true) ↔
      ∃ e ∈ s.graph.entries, (s.graph.canon e.statement.context).same t = true) ∧
    (∀ c ∈ s.graph.contexts, ∃ e ∈ s.graph.entries, s.graph.canon e.statement.context = c) ∧
    ∀ order : List (String × List Entry), order.Perm s.graph.indexes.context.toList →
      Term.sort (order.filterMap s.graph.firstContext?) = s.graph.contexts := by
  have hwf := h.wellFormed
  have hmem : ∀ c, c ∈ s.graph.contexts ↔
      ∃ bucket ∈ s.graph.indexes.context.toList, s.graph.firstContext? bucket = some c := fun c =>
    List.mem_mergeSort.trans List.mem_filterMap
  have hfrom : ∀ c ∈ s.graph.contexts, ∃ e ∈ s.graph.entries,
      s.graph.canon e.statement.context = c := by
    intro c hc
    obtain ⟨bucket, hbucket, hfirst⟩ := (hmem c).mp hc
    obtain ⟨e, he, heq, -⟩ := hwf.firstContext?_eq_some hbucket hfirst
    exact ⟨e, he, heq⟩
  refine ⟨hwf.sort_firstContexts_increasing (.refl _), fun t => ⟨?_, ?_⟩, hfrom,
    fun _ horder => hwf.sort_firstContexts horder⟩
  · rintro ⟨c, hc, hsame⟩
    obtain ⟨e, he, rfl⟩ := hfrom c hc
    exact ⟨e, he, hsame⟩
  · rintro ⟨e, he, hsame⟩
    obtain ⟨bucket, hbucket, c, hfirst, hkey⟩ := hwf.firstContext?_of_entry he
    refine ⟨c, (hmem c).mpr ⟨bucket, hbucket, hfirst⟩, Term.same_iff_key.mpr ?_⟩
    exact hkey.trans (Term.same_iff_key.mp hsame)

/-- Two contexts become one by a merge, and none is left when their statements are removed. -/
theorem contexts_live_around_merge :
    let s := ofStatement ⟨.named "a", .named "p", .named "b", .named "g"⟩
    ∃ t u : Store,
      (Operation.add ⟨.named "a", .named "p", .named "b", .named "h"⟩).run 0 s = some ((), t) ∧
      (Operation.removeMany ⟨none, none, none, none⟩ none).run 0
        (t.equate (.named "h") (.named "g")) = some ((), u) ∧
      t.graph.contexts.length = 2 ∧ u.graph.contexts = [] ∧
      (∃ c, (t.equate (.named "h") (.named "g")).graph.contexts = [c] ∧
        c.same (.named "g") = true) ∧
      (t.equate (.named "h") (.named "g")).graph.contexts.Pairwise (fun a b => a.cmp b = .lt) := by
  intro s
  have hrun : ((Operation.add ⟨.named "a", .named "p", .named "b", .named "h"⟩).run 0 s).any (fun x =>
      ((Operation.removeMany ⟨none, none, none, none⟩ none).run 0
        (x.2.equate (.named "h") (.named "g"))).any fun y =>
          let merged := (x.2.equate (.named "h") (.named "g")).graph
          (x.2.graph.indexes.context.toList.filterMap x.2.graph.firstContext?).length == 2 &&
          y.2.graph.entries.isEmpty &&
          (merged.indexes.context.toList.filterMap merged.firstContext?).length == 1 &&
          merged.entries.any fun e => (merged.canon e.statement.context).same (.named "g")) = true := by
    decide +kernel
  obtain ⟨⟨⟨⟩, t⟩, ht, hrest⟩ := (Option.any_eq_true ..).mp hrun
  obtain ⟨⟨⟨⟩, u⟩, hu, hcounts⟩ := (Option.any_eq_true ..).mp hrest
  simp only [Bool.and_eq_true, beq_iff_eq, List.any_eq_true] at hcounts
  obtain ⟨⟨⟨htwo, hnone⟩, hone⟩, hsome⟩ := hcounts
  have hreach : (t.equate (.named "h") (.named "g")).Reachable :=
    ((reachable_ofStatement _).after 0 _ ht).equate _ _
  obtain ⟨hascending, hlive, -⟩ := hreach.contexts_live
  have hempty : u.graph.contexts = [] := by
    refine List.eq_nil_iff_forall_not_mem.mpr fun d hd => ?_
    obtain ⟨e, he, -⟩ := (hreach.after 0 _ hu).contexts_live.2.2.1 d hd
    rw [List.isEmpty_iff.mp hnone] at he
    cases he
  obtain ⟨c, hc⟩ : ∃ c, (t.equate (.named "h") (.named "g")).graph.contexts = [c] :=
    List.length_eq_one_iff.mp ((List.length_mergeSort _).trans hone)
  obtain ⟨d, hd, hsame⟩ := (hlive (.named "g")).mpr hsome
  rw [hc, List.mem_singleton] at hd
  exact ⟨t, u, ht, hu, (List.length_mergeSort _).trans htwo, hempty, ⟨c, hc, hd ▸ hsame⟩, hascending⟩

end Store

end QuadGraph
