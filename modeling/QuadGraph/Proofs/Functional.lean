import Mathlib.Data.List.Find
import QuadGraph.Proofs.Representatives
import QuadGraph.Proofs.Selections

/-!
# Functional and inverse functional properties

A functional property has one object for each subject, an inverse functional one has one subject for
each object. In either sense the statements of a property are told apart by one position, the key,
and the action of the property looks at the first one stored with a given key. Which one is the
first depends on the bucket that is scanned. A merge that brings no other statements under the
property and the key leaves it as it was, or makes it the first in the bucket of the property
(`Sense.first?_equate`).
-/

namespace QuadGraph

theorem Graph.alike_canon {g : Graph} (hwf : g.WellFormed) (t : Term) :
    g.alike (g.canon t) t = true := by
  rw [alike, canonKey_canon hwf, beq_self_eq_true]

namespace Sense

variable {σ : Sense} {st st' : Statement}

/-! ## Rivals -/

def rivals (σ : Sense) (g : Graph) (st st' : Statement) : Bool :=
  g.alike st.predicate st'.predicate && g.alike (st.get σ.key) (st'.get σ.key)

def agree (σ : Sense) (g : Graph) (st st' : Statement) : Bool :=
  g.alike (st.get σ.value) (st'.get σ.value)

section
variable {g : Graph} {st'' : Statement}

theorem rivals_iff : σ.rivals g st st' = true ↔ g.alike st.predicate st'.predicate = true ∧
    g.alike (st.get σ.key) (st'.get σ.key) = true := Bool.and_eq_true_iff

theorem rivals_refl (σ : Sense) (g : Graph) (st : Statement) : σ.rivals g st st = true :=
  rivals_iff.mpr ⟨beq_self_eq_true (g.canonKey _), beq_self_eq_true (g.canonKey _)⟩

theorem rivals_symm (h : σ.rivals g st st' = true) : σ.rivals g st' st = true :=
  rivals_iff.mpr ⟨Graph.alike_symm (rivals_iff.mp h).1, Graph.alike_symm (rivals_iff.mp h).2⟩

theorem rivals_trans (h : σ.rivals g st st' = true) (h' : σ.rivals g st' st'' = true) :
    σ.rivals g st st'' = true :=
  rivals_iff.mpr ⟨Graph.alike_trans (rivals_iff.mp h).1 (rivals_iff.mp h').1,
    Graph.alike_trans (rivals_iff.mp h).2 (rivals_iff.mp h').2⟩

theorem rivals_canonStatement (hwf : g.WellFormed) (st : Statement) :
    σ.rivals g (g.canonStatement st) st = true := by
  rw [rivals_iff, Graph.canonStatement, Quad.get_map]
  exact ⟨Graph.alike_canon hwf _, Graph.alike_canon hwf _⟩

theorem agree_of_same {m : Entry}
    (h : (g.canon (m.statement.get σ.value)).same ((g.canonStatement st).get σ.value) = true) :
    σ.agree g st m.statement = true := by
  rw [Graph.canonStatement, Quad.get_map, Term.same_iff_key] at h
  exact beq_iff_eq.mpr h.symm

end

/-! ## The first rival -/

def first? (σ : Sense) (g : Graph) (st : Statement) : Option Entry := g.firstMatching? (σ.mask st)

section
variable {g : Graph} {e m : Entry}

theorem any?_mask (σ : Sense) (g : Graph) (st : Statement) :
    g.any? (σ.mask st) = (σ.first? g st).map fun m => m.statement.get σ.value := by
  have hwildcard : (σ.mask st).wildcard? = some σ.value := by cases σ <;> rfl
  rw [Graph.any?, hwildcard, first?]
  cases g.firstMatching? (σ.mask st) <;> rfl

theorem given_mask (σ : Sense) (g : Graph) (st : Statement) : g.given (σ.mask st) =
    match σ with
    | .functional => [(.subject, g.canonKey st.subject), (.predicate, g.canonKey st.predicate)]
    | .inverse => [(.predicate, g.canonKey st.predicate), (.object, g.canonKey st.object)] := by
  cases σ <;> rfl

theorem meets_mask : g.meets (σ.mask st) e = true ↔ σ.rivals g e.statement st = true := by
  rw [Graph.meets_iff, given_mask, rivals_iff]
  cases σ with
  | functional =>
    simp only [List.forall_mem_cons, Graph.alike, beq_iff_eq, Quad.get, key, List.not_mem_nil,
      false_imp_iff, implies_true, and_true]
    exact And.comm
  | inverse =>
    simp only [List.forall_mem_cons, Graph.alike, beq_iff_eq, Quad.get, key, List.not_mem_nil,
      false_imp_iff, implies_true, and_true]

theorem first?_congr (h : σ.rivals g st st' = true) : σ.first? g st = σ.first? g st' := by
  have hgiven : g.given (σ.mask st) = g.given (σ.mask st') := by
    rw [rivals_iff, Graph.alike, Graph.alike, beq_iff_eq, beq_iff_eq] at h
    rw [given_mask, given_mask]
    cases σ with
    | functional => rw [show g.canonKey st.subject = _ from h.2, h.1]; rfl
    | inverse => rw [show g.canonKey st.object = _ from h.2, h.1]; rfl
  unfold first? Graph.firstMatching? Graph.scan
  rw [hgiven]

theorem first?_canonStatement (hwf : g.WellFormed) (st : Statement) :
    σ.first? g (g.canonStatement st) = σ.first? g st :=
  first?_congr (rivals_canonStatement hwf st)

theorem mem_of_first? (hwf : g.WellFormed) (h : σ.first? g st = some m) :
    m ∈ g.entries ∧ σ.rivals g m.statement st = true := by
  rw [first?, Graph.firstMatching?_eq] at h
  have hmem := (hwf.matching_perm _).mem_iff.mp (List.mem_of_mem_head? h)
  rw [List.mem_filter, meets_mask] at hmem
  exact hmem

theorem exists_first? (hwf : g.WellFormed) (he : e ∈ g.entries)
    (h : σ.rivals g e.statement st = true) : ∃ m, σ.first? g st = some m := by
  have hmem : e ∈ g.matching (σ.mask st) :=
    (hwf.matching_perm _).mem_iff.mpr (List.mem_filter.mpr ⟨he, meets_mask.mpr h⟩)
  rw [first?, Graph.firstMatching?_eq]
  cases hmatching : g.matching (σ.mask st) with
  | nil => rw [hmatching] at hmem; cases hmem
  | cons m _ => exact ⟨m, rfl⟩

end

end Sense

/-! ## The bucket that is scanned -/

namespace Graph

variable {g : Graph} {e : Entry} {p : Position} {t : Term}

theorem WellFormed.mem_bucket (h : g.WellFormed) :
    e ∈ g.bucket p t ↔ e ∈ g.entries ∧ g.alike (e.statement.get p) t = true := by
  rw [bucket, h.mem_filed, alike, beq_iff_eq]

theorem bucket_congr {u : Term} (h : g.alike t u = true) : g.bucket p t = g.bucket p u := by
  rw [alike, beq_iff_eq] at h
  rw [bucket, bucket, h]

theorem WellFormed.getElem?_bucket (h : g.WellFormed) (he : e ∈ g.entries) :
    (g.indexes.get p)[g.canonKey (e.statement.get p)]? = some (g.bucket p (e.statement.get p)) := by
  have hmem : e ∈ g.bucket p (e.statement.get p) :=
    h.mem_bucket.mpr ⟨he, beq_self_eq_true (g.canonKey (e.statement.get p))⟩
  rw [bucket, Index.bucket_eq] at hmem ⊢
  cases hes : (g.indexes.get p)[g.canonKey (e.statement.get p)]? with
  | none => rw [hes] at hmem; cases hmem
  | some es => rfl

/-- Of two buckets the second one is scanned if it is the shorter one. -/
theorem firstMatching?_pair {m : Mask} {k l : Position × String} {es fs : List Entry}
    (hgiven : g.given m = [k, l]) (hne : k.1 ≠ l.1) (hk : (g.indexes.get k.1)[k.2]? = some es)
    (hl : (g.indexes.get l.1)[l.2]? = some fs) :
    g.firstMatching? m =
      if fs.length < es.length then fs.find? fun e => g.canonKey (e.statement.get k.1) == k.2
      else es.find? fun e => g.canonKey (e.statement.get l.1) == l.2 := by
  have hshortest : g.shortestBucket? [k, l] = some (shorter (k.1, es) (l.1, fs)) := by
    simp [shortestBucket?, hk, hl]
  have hscan : g.scan m = ((shorter (k.1, es) (l.1, fs)).2,
      g.fits [k, l] (shorter (k.1, es) (l.1, fs)).1) := by
    unfold scan
    rw [hgiven]
    simp only [hshortest]
  rw [firstMatching?, hscan, shorter]
  split
  · refine List.find?_congr fun e _ => ?_
    simp [fits, beq_eq_false_iff_ne.mpr hne]
  · refine List.find?_congr fun e _ => ?_
    simp [fits, beq_eq_false_iff_ne.mpr (Ne.symm hne)]

end Graph

namespace Sense

/-- Whether the bucket of the predicate is scanned, by the sizes of that one and of the key's. -/
def byPredicate (σ : Sense) (predicate key : Nat) : Bool :=
  match σ with
  | .functional => predicate < key
  | .inverse => !(key < predicate)

theorem byPredicate_mono {σ : Sense} {n k k' : Nat} (h : σ.byPredicate n k = true) (hk : k ≤ k') :
    σ.byPredicate n k' = true := by
  cases σ <;> simp only [byPredicate, decide_eq_true_eq, Bool.not_eq_true', decide_eq_false_iff_not] at h ⊢ <;>
    omega

variable {σ : Sense}

theorem first?_eq_find? {g : Graph} (hwf : g.WellFormed) {e : Entry} (he : e ∈ g.entries) :
    σ.first? g e.statement =
      if σ.byPredicate (g.bucket .predicate e.statement.predicate).length
        (g.bucket σ.key (e.statement.get σ.key)).length then
        (g.bucket .predicate e.statement.predicate).find? fun f =>
          g.alike (f.statement.get σ.key) (e.statement.get σ.key)
      else
        (g.bucket σ.key (e.statement.get σ.key)).find? fun f =>
          g.alike f.statement.predicate e.statement.predicate := by
  have hpredicate := hwf.getElem?_bucket (p := .predicate) he
  have hkey := hwf.getElem?_bucket (p := σ.key) he
  cases σ with
  | functional =>
    rw [first?, Graph.firstMatching?_pair (given_mask _ g _) Position.noConfusion hkey hpredicate]
    simp only [byPredicate, decide_eq_true_eq]
    rfl
  | inverse =>
    rw [first?, Graph.firstMatching?_pair (given_mask _ g _) Position.noConfusion hpredicate hkey]
    simp only [byPredicate, Bool.not_eq_true', decide_eq_false_iff_not, ite_not]
    rfl

end Sense

/-! ## Merging -/

namespace Store

variable {s : Store} (hwf : s.graph.WellFormed) (a b : Term)
include hwf

theorem alike_equate : (s.equate a b).graph.alike a b = true := by
  rw [Graph.alike, beq_iff_eq]
  unfold equate
  split
  case h_1 hnone => exact key_eq_of_mergeOrder? hnone
  case h_2 big small hmerge =>
    have hne := mergeOrder?_key_ne hmerge
    rw [Graph.canonKey, Graph.canonKey, canon_redirect hwf hmerge, canon_redirect hwf hmerge]
    unfold Graph.canonKey
    rcases mergeOrder?_mem hmerge with ⟨rfl, rfl⟩ | ⟨rfl, rfl⟩
    · rw [if_pos rfl, if_neg (Ne.symm hne)]
    · rw [if_neg (Ne.symm hne), if_pos rfl]

/-- A bucket keeps its order in a merge: what comes to it stands before it or after it. -/
theorem bucket_equate (p : Position) (t : Term) : ∃ as bs : List Entry,
    (s.equate a b).graph.bucket p t = as ++ s.graph.bucket p t ++ bs ∧
      ∀ e ∈ as ++ bs, e ∈ s.graph.entries ∧
        (s.equate a b).graph.alike (e.statement.get p) t = true ∧
        s.graph.alike (e.statement.get p) t = false := by
  unfold equate
  split
  case h_1 => exact ⟨[], [], by simp, by simp⟩
  case h_2 big small hmerge =>
    have hne := mergeOrder?_key_ne hmerge
    have hkey : ∀ t, (s.graph.redirect big small).canonKey t =
        if s.graph.canonKey t = big.key then small.key else s.graph.canonKey t := by
      intro t
      rw [Graph.canonKey, canon_redirect hwf hmerge, apply_ite Term.key]
      rfl
    have hfiled : ∀ {k : String} {e : Entry}, e ∈ (s.graph.indexes.get p).bucket k →
        e ∈ s.graph.entries ∧ s.graph.canonKey (e.statement.get p) = k := by
      intro k e he
      rw [hwf.mem_filed] at he
      exact he
    have hbucket : ∀ k, ((s.graph.redirect big small).indexes.get p).bucket k =
        if k = small.key then
          (s.graph.indexes.get p).bucket small.key ++ (s.graph.indexes.get p).bucket big.key
        else if k = big.key then [] else (s.graph.indexes.get p).bucket k := by
      intro k
      rw [Graph.redirect, Quad.get_map, Index.bucket_move _ hne]
    simp only [Graph.bucket, Graph.alike, hkey, hbucket, beq_iff_eq, beq_eq_false_iff_ne]
    by_cases hbig : s.graph.canonKey t = big.key
    · refine ⟨(s.graph.indexes.get p).bucket small.key, [], by simp [hbig], fun e he => ?_⟩
      rw [List.append_nil] at he
      obtain ⟨hmem, hsmall⟩ := hfiled he
      exact ⟨hmem, by simp [hbig, hsmall], by rw [hsmall, hbig]; exact Ne.symm hne⟩
    · by_cases hsmall : s.graph.canonKey t = small.key
      · refine ⟨[], (s.graph.indexes.get p).bucket big.key, by simp [hsmall, Ne.symm hne], fun e he => ?_⟩
        obtain ⟨hmem, hbig'⟩ := hfiled he
        exact ⟨hmem, by simp [hbig', hsmall, Ne.symm hne], by rw [hbig', hsmall]; exact hne⟩
      · exact ⟨[], [], by simp [hbig, hsmall], by simp⟩

theorem bucket_equate_of_none {p : Position} {t : Term}
    (h : ∀ e ∈ s.graph.entries, (s.equate a b).graph.alike (e.statement.get p) t = true →
      s.graph.alike (e.statement.get p) t = true) :
    (s.equate a b).graph.bucket p t = s.graph.bucket p t := by
  obtain ⟨as, bs, heq, hnew⟩ := bucket_equate hwf a b p t
  have hnil : as ++ bs = [] := by
    refine List.eq_nil_iff_forall_not_mem.mpr fun e he => ?_
    obtain ⟨hmem, halike, hnot⟩ := hnew e he
    exact Bool.false_ne_true (hnot.symm.trans (h e hmem halike))
  obtain ⟨rfl, rfl⟩ := List.append_eq_nil_iff.mp hnil
  rw [heq, List.nil_append, List.append_nil]

end Store

namespace Sense

variable {σ : Sense} {s : Store} {e : Entry}

/-- A merge by which a statement gains no rivals and its predicate no statements. The bucket of the
key may have grown, so that the one of the predicate is scanned instead. -/
theorem first?_equate (hwf : s.graph.WellFormed) (a b : Term) (he : e ∈ s.graph.entries)
    (hpredicate : ∀ f ∈ s.graph.entries,
      (s.equate a b).graph.alike f.statement.predicate e.statement.predicate = true →
        s.graph.alike f.statement.predicate e.statement.predicate = true)
    (hrivals : ∀ f ∈ s.graph.entries,
      σ.rivals (s.equate a b).graph f.statement e.statement = true →
        σ.rivals s.graph f.statement e.statement = true) :
    σ.first? (s.equate a b).graph e.statement = σ.first? s.graph e.statement ∨
      σ.first? (s.equate a b).graph e.statement =
        (s.graph.bucket .predicate e.statement.predicate).find? fun f =>
          σ.rivals s.graph f.statement e.statement := by
  have hwf' := Store.wellFormed_equate hwf a b
  have he' : e ∈ (s.equate a b).graph.entries := by rwa [Store.entries_equate]
  have hgrows := Graph.Grows.equate hwf a b
  have hsame : (s.equate a b).graph.bucket .predicate e.statement.predicate =
      s.graph.bucket .predicate e.statement.predicate :=
    Store.bucket_equate_of_none hwf a b hpredicate
  obtain ⟨as, bs, hkey, hnew⟩ := Store.bucket_equate hwf a b σ.key (e.statement.get σ.key)
  rw [first?_eq_find? hwf he, first?_eq_find? hwf' he', hsame]
  split
  case isTrue =>
    right
    refine List.find?_congr fun f hf => ?_
    obtain ⟨hmem, halike⟩ := hwf.mem_bucket.mp hf
    have halike' := hgrows.alike _ _ halike
    rw [Bool.eq_iff_iff]
    constructor
    · intro h
      exact hrivals f hmem (rivals_iff.mpr ⟨halike', h⟩)
    · intro h
      exact hgrows.alike _ _ (rivals_iff.mp h).2
  case isFalse hnot =>
    left
    rw [if_neg fun h => hnot (byPredicate_mono h (by rw [hkey]; simp; omega)), hkey]
    -- what came to the bucket has another predicate
    have hnone : ∀ f ∈ as ++ bs,
        (s.equate a b).graph.alike f.statement.predicate e.statement.predicate = false := by
      intro f hf
      obtain ⟨hmem, halike, hnot⟩ := hnew f hf
      refine Bool.eq_false_iff.mpr fun h => ?_
      have hrival := hrivals f hmem (rivals_iff.mpr ⟨h, halike⟩)
      exact Bool.false_ne_true (hnot.symm.trans (rivals_iff.mp hrival).2)
    have has : as.find? (fun f => (s.equate a b).graph.alike f.statement.predicate
        e.statement.predicate) = none :=
      List.find?_eq_none.mpr fun f hf => by simp [hnone f (List.mem_append_left _ hf)]
    have hbs : bs.find? (fun f => (s.equate a b).graph.alike f.statement.predicate
        e.statement.predicate) = none :=
      List.find?_eq_none.mpr fun f hf => by simp [hnone f (List.mem_append_right _ hf)]
    rw [List.find?_append, List.find?_append, has, hbs, Option.none_or, Option.or_none]
    refine List.find?_congr fun f hf => ?_
    obtain ⟨hmem, halike⟩ := hwf.mem_bucket.mp hf
    exact Bool.eq_iff_iff.mpr ⟨hpredicate f hmem, hgrows.alike _ _⟩

end Sense

end QuadGraph
