import Mathlib.Data.List.Nodup
import QuadGraph.Graph.Lookup
import QuadGraph.Proofs.Merging

/-!
# Indexes of a graph

In a well-formed graph the bucket under a key lists exactly the entries whose component there is
now stood for by a term of that key (`WellFormed.filed`). Adding and dropping an entry and merging
two terms keep a graph well-formed. A merge moves one bucket behind another, so it spoils the
order in a bucket but not what is in it.
-/

namespace QuadGraph

/-! ## Lists of entries -/

section
variable {α : Type} {p q : α → Bool} {l : List α}

theorem filter_eraseP_of_imp (h : ∀ x ∈ l, q x = true → p x = true) :
    (l.eraseP q).filter p = (l.filter p).eraseP q := by
  induction l with
  | nil => rfl
  | cons x l ih =>
    have ih := ih fun y hy => h y (List.mem_cons_of_mem x hy)
    by_cases hq : q x = true
    · have hp := h x (List.mem_cons_self ..) hq
      simp [hq, hp]
    · by_cases hp : p x = true <;> simp [hq, hp, ih]

theorem filter_eraseP_of_not (h : ∀ x ∈ l, q x = true → p x = false) :
    (l.eraseP q).filter p = l.filter p := by
  induction l with
  | nil => rfl
  | cons x l ih =>
    have ih := ih fun y hy => h y (List.mem_cons_of_mem x hy)
    by_cases hq : q x = true
    · have hp := h x (List.mem_cons_self ..) hq
      simp [hq, hp]
    · by_cases hp : p x = true <;> simp [hq, hp, ih]

/-- What passes either of two tests that exclude each other, sorted by the test. -/
theorem filter_or_perm (h : ∀ x ∈ l, p x = true → q x = false) :
    (l.filter p ++ l.filter q).Perm (l.filter fun x => p x || q x) := by
  induction l with
  | nil => exact .refl _
  | cons x l ih =>
    have ih := ih fun y hy => h y (List.mem_cons_of_mem x hy)
    by_cases hp : p x = true
    · have hq := h x (List.mem_cons_self ..) hp
      simpa [hp, hq] using ih
    · by_cases hq : q x = true
      · simp only [List.filter_cons, hp, hq, Bool.or_true, if_true, if_false, Bool.false_eq_true]
        exact List.perm_middle.trans (ih.cons x)
      · simpa [hp, hq] using ih

/-- What is sorted by a key, after one key takes the place of another. -/
theorem filter_key_perm {key key' : α → String} {big small : String} (hne : big ≠ small)
    (hkey : ∀ x, key' x = if key x = big then small else key x) (l : List α) (k : String) :
    (l.filter fun x => key' x == k).Perm
      (if k = small then (l.filter fun x => key x == small) ++ l.filter fun x => key x == big
       else if k = big then [] else l.filter fun x => key x == k) := by
  simp only [hkey]
  split
  case isTrue hk =>
    subst hk
    refine .trans (.of_eq (List.filter_congr fun x _ => ?_)) (filter_or_perm fun x _ hx => ?_).symm
    · by_cases hx : key x = big <;> simp [hx]
    · rw [beq_iff_eq.mp hx]
      exact beq_eq_false_iff_ne.mpr (Ne.symm hne)
  case isFalse hks =>
    split
    case isTrue hk =>
      subst hk
      refine .of_eq (List.filter_eq_nil_iff.mpr fun x _ => ?_)
      by_cases hx : key x = k
      · simpa [hx] using Ne.symm hne
      · simp [hx]
    case isFalse hkb =>
      refine .of_eq (List.filter_congr fun x _ => ?_)
      by_cases hx : key x = big
      · simp [hx, Ne.symm hks, Ne.symm hkb]
      · simp [hx]

end

/-! ## Lists under keys -/

section
variable {α : Type} (m : Std.ExtTreeMap String (List α))

theorem getD_append (key : String) (l : List α) (k : String) :
    (m.insert key (m.getD key [] ++ l)).getD k [] =
      if k = key then m.getD k [] ++ l else m.getD k [] := by
  simp only [Std.ExtTreeMap.getD_insert, Std.LawfulEqOrd.compare_eq_iff_eq]
  by_cases hk : key = k
  · subst hk; simp
  · simp [hk, Ne.symm hk]

/-- Here the list under one key was put behind that under another. -/
theorem getD_moved {m' : Std.ExtTreeMap String (List α)} {source target : String}
    (hnone : m[source]? = none → m' = m)
    (hsome : ∀ moved, m[source]? = some moved →
      m' = (m.erase source).insert target ((m.erase source).getD target [] ++ moved))
    (hne : source ≠ target) (k : String) :
    m'.getD k [] = if k = target then m.getD target [] ++ m.getD source []
      else if k = source then [] else m.getD k [] := by
  have hsource : m.getD source [] = (m[source]?).getD [] := Std.ExtTreeMap.getD_eq_getD_getElem?
  cases hmoved : m[source]? with
  | none =>
    rw [hmoved, Option.getD_none] at hsource
    rw [hnone hmoved, hsource, List.append_nil]
    by_cases hk : k = target
    · rw [if_pos hk, hk]
    · by_cases hks : k = source
      · rw [if_neg hk, if_pos hks, hks, hsource]
      · rw [if_neg hk, if_neg hks]
  | some moved =>
    rw [hmoved, Option.getD_some] at hsource
    simp only [hsome moved hmoved, Std.ExtTreeMap.getD_insert, Std.ExtTreeMap.getD_erase,
      Std.LawfulEqOrd.compare_eq_iff_eq, hne, if_false, eq_comm (b := k)] at hsource ⊢
    rw [hsource]

end

theorem pairwise_hasId {l : List Entry} (h : (l.map Entry.id).Nodup) (e : Entry) :
    l.Pairwise fun x y => Graph.hasId e x = true → Graph.hasId e y = true → False := by
  rw [List.Nodup, List.pairwise_map] at h
  refine h.imp fun hne hx hy => hne ?_
  rw [beq_iff_eq.mp hx, beq_iff_eq.mp hy]

theorem eq_of_hasId {l : List Entry} (h : (l.map Entry.id).Nodup) {e x : Entry} (he : e ∈ l)
    (hx : x ∈ l) (hid : Graph.hasId e x = true) : x = e :=
  List.inj_on_of_nodup_map h hx he (beq_iff_eq.mp hid)

@[simp] theorem Quad.get_mapAt {α β : Type} (f : Position → α → β) (q : Quad α) (p : Position) :
    (q.mapAt f).get p = f p (q.get p) := by
  cases p <;> rfl

@[simp] theorem Quad.get_map {α β : Type} (f : α → β) (q : Quad α) (p : Position) :
    (q.map f).get p = f (q.get p) := by
  cases p <;> rfl

/-! ## Buckets -/

namespace Index

def Filled (i : Index) : Prop := ∀ (key : String) (es : List Entry), i[key]? = some es → es ≠ []

theorem bucket_eq (i : Index) (key : String) : i.bucket key = (i[key]?).getD [] :=
  Std.ExtTreeMap.getD_eq_getD_getElem?

theorem bucket_add (i : Index) (key : String) (e : Entry) (k : String) :
    (i.add key e).bucket k = if k = key then i.bucket k ++ [e] else i.bucket k :=
  getD_append i key [e] k

theorem Filled.add {i : Index} (h : i.Filled) (key : String) (e : Entry) : (i.add key e).Filled := by
  intro k es hk
  rw [Index.add, Std.ExtTreeMap.getElem?_insert] at hk
  split at hk
  · obtain rfl := Option.some.inj hk
    simp
  · exact h k es hk

theorem bucket_drop (i : Index) (key : String) (e : Entry) (k : String) :
    (i.drop key e).bucket k =
      if k = key then (i.bucket k).eraseP (Graph.hasId e) else i.bucket k := by
  simp only [bucket_eq, drop]
  by_cases hk : k = key
  · subst hk
    rw [if_pos rfl]
    cases hes : i[k]? with
    | none => simp [hes]
    | some es =>
      change (_ : Option _).getD [] = es.eraseP fun x => x.id == e.id
      simp only
      split
      case h_1 hnil => simp [hnil]
      case h_2 => simp
  · rw [if_neg hk]
    cases hes : i[key]? with
    | none => rfl
    | some es =>
      simp only
      split <;> simp [Std.ExtTreeMap.getElem?_insert, Std.ExtTreeMap.getElem?_erase, Ne.symm hk]

theorem Filled.drop {i : Index} (h : i.Filled) (key : String) (e : Entry) :
    (i.drop key e).Filled := by
  intro k es hk
  unfold Index.drop at hk
  split at hk
  case h_1 => exact h k es hk
  case h_2 =>
    split at hk
    case h_1 =>
      rw [Std.ExtTreeMap.getElem?_erase] at hk
      split at hk
      · cases hk
      · exact h k es hk
    case h_2 hne =>
      rw [Std.ExtTreeMap.getElem?_insert] at hk
      split at hk
      · obtain rfl := Option.some.inj hk
        exact hne
      · exact h k es hk

theorem bucket_move (i : Index) {source target : String} (hne : source ≠ target) (k : String) :
    (i.move source target).bucket k =
      if k = target then i.bucket target ++ i.bucket source
      else if k = source then [] else i.bucket k := by
  refine getD_moved i (fun hnone => ?_) (fun moved hmoved => ?_) hne k
  · rw [move, hnone]
  · rw [move, hmoved]
    rfl

theorem Filled.move {i : Index} (h : i.Filled) (source target : String) :
    (i.move source target).Filled := by
  intro k es hk
  unfold Index.move at hk
  split at hk
  case h_1 => exact h k es hk
  case h_2 moved hmoved =>
    rw [Std.ExtTreeMap.getElem?_insert] at hk
    split at hk
    · obtain rfl := Option.some.inj hk
      simp [h source moved hmoved]
    · rw [Std.ExtTreeMap.getElem?_erase] at hk
      split at hk
      · cases hk
      · exact h k es hk

end Index

/-! ## Well-formed graphs -/

namespace Graph

def filedUnder (g : Graph) (p : Position) (key : String) : List Entry :=
  g.entries.filter fun e => g.canonKey (e.statement.get p) == key

structure WellFormed (g : Graph) : Prop where
  flat : g.equivalence.Flat
  numbered : ∀ e ∈ g.entries, e.id < g.nextId
  distinct : (g.entries.map Entry.id).Nodup
  filled : ∀ p, (g.indexes.get p).Filled
  filed : ∀ p key, ((g.indexes.get p).bucket key).Perm (g.filedUnder p key)
  /-- Until terms are merged each bucket is in the order of the list. -/
  ordered : g.equivalence.isEmpty = true →
    ∀ p key, (g.indexes.get p).bucket key = g.filedUnder p key

theorem wellFormed_empty : WellFormed {} where
  flat := Equivalence.flat_empty
  numbered := by simp
  distinct := by simp
  filled := by
    intro p key es hes
    cases p <;> simp [Quad.get] at hes
  filed := by
    intro p key
    cases p <;> simp [Quad.get, Index.bucket, filedUnder]
  ordered := by
    intro _ p key
    cases p <;> simp [Quad.get, Index.bucket, filedUnder]

variable {g : Graph}

theorem WellFormed.bucket_distinct (h : g.WellFormed) (p : Position) (key : String) :
    (((g.indexes.get p).bucket key).map Entry.id).Nodup := by
  have hsub : ((g.filedUnder p key).map Entry.id).Nodup :=
    h.distinct.sublist (List.filter_sublist.map Entry.id)
  exact ((h.filed p key).map Entry.id).nodup_iff.mpr hsub

theorem WellFormed.mem_filed (h : g.WellFormed) {p : Position} {key : String} {e : Entry} :
    e ∈ (g.indexes.get p).bucket key ↔
      e ∈ g.entries ∧ g.canonKey (e.statement.get p) = key := by
  rw [(h.filed p key).mem_iff, filedUnder, List.mem_filter, beq_iff_eq]

/-! ### Adding -/

theorem filedUnder_insert (g : Graph) (st : Statement) (p : Position) (key : String) :
    (g.insert st).2.filedUnder p key =
      if key = g.canonKey (st.get p) then g.filedUnder p key ++ [(g.insert st).1]
      else g.filedUnder p key := by
  have hcanon : ∀ t, (g.insert st).2.canonKey t = g.canonKey t := fun _ => rfl
  unfold filedUnder
  simp only [hcanon]
  simp only [insert, List.filter_append, List.filter_cons, List.filter_nil, beq_iff_eq]
  by_cases hk : key = g.canonKey (st.get p)
  · simp [hk]
  · simp [hk, Ne.symm hk]

theorem bucket_insert (g : Graph) (st : Statement) (p : Position) (key : String) :
    ((g.insert st).2.indexes.get p).bucket key =
      if key = g.canonKey (st.get p) then (g.indexes.get p).bucket key ++ [(g.insert st).1]
      else (g.indexes.get p).bucket key := by
  simp only [insert, Quad.get_mapAt, Index.bucket_add]

theorem WellFormed.insert (h : g.WellFormed) (st : Statement) : (g.insert st).2.WellFormed where
  flat := h.flat
  numbered := by
    intro e he
    simp only [Graph.insert, List.mem_append, List.mem_singleton] at he ⊢
    rcases he with he | rfl
    · have := h.numbered e he
      omega
    · exact Nat.lt_succ_self _
  distinct := by
    simp only [Graph.insert, List.map_append, List.map_cons, List.map_nil]
    rw [List.nodup_append]
    refine ⟨h.distinct, by simp, ?_⟩
    intro i hi j hj hij
    obtain ⟨e, he, rfl⟩ := List.mem_map.mp hi
    rw [List.mem_singleton.mp hj] at hij
    have := h.numbered e he
    omega
  filled := by
    intro p
    simp only [Graph.insert, Quad.get_mapAt]
    exact (h.filled p).add _ _
  filed := by
    intro p key
    rw [bucket_insert, filedUnder_insert]
    split
    · exact (h.filed p key).append_right _
    · exact h.filed p key
  ordered := by
    intro hempty p key
    rw [bucket_insert, filedUnder_insert, h.ordered hempty]

/-! ### Dropping -/

theorem WellFormed.filedUnder_drop (h : g.WellFormed) {e : Entry} (he : e ∈ g.entries)
    (p : Position) (key : String) :
    (g.drop e).filedUnder p key =
      if key = g.canonKey (e.statement.get p) then (g.filedUnder p key).eraseP (hasId e)
      else g.filedUnder p key := by
  have hcanon : ∀ t, (g.drop e).canonKey t = g.canonKey t := fun _ => rfl
  unfold filedUnder
  simp only [hcanon]
  split
  case isTrue hk =>
    refine filter_eraseP_of_imp fun x hx hid => ?_
    rw [eq_of_hasId h.distinct he hx hid, hk, beq_self_eq_true]
  case isFalse hk =>
    refine filter_eraseP_of_not fun x hx hid => ?_
    rw [eq_of_hasId h.distinct he hx hid]
    exact beq_eq_false_iff_ne.mpr (Ne.symm hk)

theorem bucket_drop (g : Graph) (e : Entry) (p : Position) (key : String) :
    ((g.drop e).indexes.get p).bucket key =
      if key = g.canonKey (e.statement.get p) then
        ((g.indexes.get p).bucket key).eraseP (hasId e)
      else (g.indexes.get p).bucket key := by
  simp only [drop, Quad.get_mapAt, Index.bucket_drop]

theorem WellFormed.drop (h : g.WellFormed) {e : Entry} (he : e ∈ g.entries) :
    (g.drop e).WellFormed where
  flat := h.flat
  numbered := fun x hx => h.numbered x (List.mem_of_mem_eraseP hx)
  distinct := h.distinct.sublist (List.eraseP_sublist.map Entry.id)
  filled := by
    intro p
    simp only [Graph.drop, Quad.get_mapAt]
    exact (h.filled p).drop _ _
  filed := by
    intro p key
    rw [bucket_drop, h.filedUnder_drop he]
    split
    · exact List.Perm.eraseP _ (pairwise_hasId (h.bucket_distinct p key) e) (h.filed p key)
    · exact h.filed p key
  ordered := by
    intro hempty p key
    rw [bucket_drop, h.filedUnder_drop he, h.ordered hempty]

theorem mem_drop {e x : Entry} (hx : x ∈ g.entries) (hne : x.id ≠ e.id) : x ∈ (g.drop e).entries :=
  (List.mem_eraseP_of_neg (by simpa [hasId] using hne)).mpr hx

/-! ### Merging -/

section
variable (h : g.WellFormed) {big small : Term} (hb : g.equivalence.redirections[big.key]? = none)
  (hs : g.equivalence.redirections[small.key]? = none) (hne : big.key ≠ small.key)
include h hb hs hne

theorem WellFormed.canonKey_redirect (t : Term) :
    (g.redirect big small).canonKey t =
      if g.canonKey t = big.key then small.key else g.canonKey t := by
  unfold canonKey canon
  rw [show (g.redirect big small).equivalence = g.equivalence.union big small from rfl,
    h.flat.find_union hb hs hne, apply_ite Term.key]

theorem WellFormed.filedUnder_redirect (p : Position) (key : String) :
    ((g.redirect big small).filedUnder p key).Perm
      (if key = small.key then g.filedUnder p small.key ++ g.filedUnder p big.key
       else if key = big.key then [] else g.filedUnder p key) := by
  have hkey : ∀ e : Entry, (g.redirect big small).canonKey (e.statement.get p) =
      if g.canonKey (e.statement.get p) = big.key then small.key
      else g.canonKey (e.statement.get p) := fun e => h.canonKey_redirect hb hs hne _
  unfold filedUnder
  exact filter_key_perm hne hkey g.entries key

theorem WellFormed.redirect : (g.redirect big small).WellFormed where
  flat := h.flat.union hb hs hne
  numbered := h.numbered
  distinct := h.distinct
  filled := by
    intro p
    simp only [Graph.redirect, Quad.get_map]
    exact (h.filled p).move _ _
  filed := by
    intro p key
    refine .trans ?_ (h.filedUnder_redirect hb hs hne p key).symm
    simp only [Graph.redirect, Quad.get_map, Index.bucket_move _ hne]
    split
    · exact (h.filed p small.key).append (h.filed p big.key)
    · split
      · exact .refl _
      · exact h.filed p key
  ordered := by
    intro hempty
    rw [show (g.redirect big small).equivalence = g.equivalence.union big small from rfl,
      Equivalence.isEmpty_union] at hempty
    cases hempty

end

/-! ## What a bucket holds -/

theorem canonKey_congr {t u : Term} (h : t.key = u.key) : g.canonKey t = g.canonKey u :=
  Equivalence.find_congr h

theorem WellFormed.canon_canon (h : g.WellFormed) (t : Term) : g.canon (g.canon t) = g.canon t :=
  h.flat.find_find t

/-- A key with a bucket is the key of a term that stands for itself. -/
theorem WellFormed.current (h : g.WellFormed) {p : Position} {key : String}
    (hk : key ∈ g.indexes.get p) : ∃ t, g.canon t = t ∧ t.key = key := by
  obtain ⟨es, hes⟩ := Option.isSome_iff_exists.mp (Std.ExtTreeMap.mem_iff_isSome_getElem?.mp hk)
  have hbucket : (g.indexes.get p).bucket key = es := by rw [Index.bucket_eq, hes]; rfl
  obtain ⟨e, he⟩ := List.exists_mem_of_ne_nil es (h.filled p key es hes)
  rw [← hbucket, h.mem_filed] at he
  exact ⟨g.canon (e.statement.get p), h.canon_canon _, he.2⟩

end Graph

end QuadGraph
