import QuadGraph.Proofs.Indexing

/-!
# Looking up and scanning

A look-up scans one bucket and tests in it the positions that the bucket does not settle. In a
well-formed graph that finds what a scan of the whole list finds (`WellFormed.matching_perm`), in
the same order as long as no terms are merged (`WellFormed.matching_eq_filter`).
-/

namespace QuadGraph

theorem Position.mem_all (p : Position) : p ∈ Position.all := by
  cases p <;> decide

theorem exists_of_mapM_eq_none {α β : Type} {f : α → Option β} {l : List α}
    (h : l.mapM f = none) : ∃ a ∈ l, f a = none := by
  induction l with
  | nil => simp at h
  | cons a l ih =>
    rw [List.mapM_cons] at h
    cases ha : f a with
    | none => exact ⟨a, List.mem_cons_self .., ha⟩
    | some b =>
      cases hl : l.mapM f with
      | none =>
        obtain ⟨a', ha', hnone⟩ := ih hl
        exact ⟨a', List.mem_cons_of_mem a ha', hnone⟩
      | some bs => simp [ha, hl] at h

theorem exists_of_mapM_eq_some {α β : Type} {f : α → Option β} {l : List α} {bs : List β}
    (h : l.mapM f = some bs) {b : β} (hb : b ∈ bs) : ∃ a ∈ l, f a = some b := by
  induction l generalizing bs with
  | nil =>
    simp only [List.mapM_nil, Option.pure_def, Option.some.injEq] at h
    rw [← h] at hb
    cases hb
  | cons a l ih =>
    rw [List.mapM_cons] at h
    cases ha : f a with
    | none => simp [ha] at h
    | some b' =>
      cases hl : l.mapM f with
      | none => simp [ha, hl] at h
      | some bs' =>
        simp only [ha, hl, Option.pure_def, Option.bind_eq_bind, Option.bind_some,
          Option.some.injEq] at h
        subst h
        rcases List.mem_cons.mp hb with rfl | hb
        · exact ⟨a, List.mem_cons_self .., ha⟩
        · obtain ⟨a', ha', hsome⟩ := ih hl hb
          exact ⟨a', List.mem_cons_of_mem a ha', hsome⟩

namespace Graph

variable {g : Graph}

def meets (g : Graph) (m : Mask) (e : Entry) : Bool :=
  Position.all.all fun p => (m.get p).all fun t => (g.canon (e.statement.get p)).same (g.canon t)

def Unmerged (g : Graph) : Prop := ∀ t, g.canon t = t

theorem mem_given {m : Mask} {k : Position × String} :
    k ∈ g.given m ↔ ∃ t, m.get k.1 = some t ∧ g.canonKey t = k.2 := by
  obtain ⟨p, key⟩ := k
  simp only [given, List.mem_filterMap, Option.map_eq_some_iff, Prod.mk.injEq]
  constructor
  · rintro ⟨p', -, t, ht, rfl, rfl⟩
    exact ⟨t, ht, rfl⟩
  · rintro ⟨t, ht, rfl⟩
    exact ⟨p, p.mem_all, t, ht, rfl, rfl⟩

theorem given_inj {m : Mask} {p : Position} {k l : String} (hk : (p, k) ∈ g.given m)
    (hl : (p, l) ∈ g.given m) : k = l := by
  obtain ⟨t, ht, rfl⟩ := mem_given.mp hk
  obtain ⟨u, hu, rfl⟩ := mem_given.mp hl
  rw [ht] at hu
  rw [Option.some.inj hu]

theorem meets_iff {m : Mask} {e : Entry} :
    g.meets m e = true ↔ ∀ k ∈ g.given m, g.canonKey (e.statement.get k.1) = k.2 := by
  simp only [meets, List.all_eq_true, Option.all_eq_true, Term.same_iff_key]
  constructor
  · intro h k hk
    obtain ⟨t, ht, hkey⟩ := mem_given.mp hk
    exact (h k.1 k.1.mem_all t ht).trans hkey
  · intro h p _ t ht
    exact h (p, g.canonKey t) (mem_given.mpr ⟨t, ht, rfl⟩)

/-! ## The bucket to scan -/

theorem shorter_foldl_mem (b : Position × List Entry) (bs : List (Position × List Entry)) :
    bs.foldl shorter b ∈ b :: bs := by
  induction bs generalizing b with
  | nil => exact List.mem_cons_self ..
  | cons c cs ih =>
    rw [List.foldl_cons]
    rcases List.mem_cons.mp (ih (shorter b c)) with h | h
    · rw [h]
      unfold shorter
      split
      · exact List.mem_cons_of_mem _ (List.mem_cons_self ..)
      · exact List.mem_cons_self ..
    · exact List.mem_cons_of_mem _ (List.mem_cons_of_mem _ h)

theorem shortestBucket?_eq_some {ks : List (Position × String)} {p : Position} {es : List Entry}
    (h : g.shortestBucket? ks = some (p, es)) :
    ∃ key, (p, key) ∈ ks ∧ (g.indexes.get p)[key]? = some es := by
  unfold shortestBucket? at h
  cases hbs : ks.mapM fun k => (g.indexes.get k.1)[k.2]?.map (k.1, ·) with
  | none => simp [hbs] at h
  | some bs =>
    cases bs with
    | nil => simp [hbs] at h
    | cons b bs =>
      simp only [hbs, Option.bind_eq_bind, Option.bind_some, Option.some.injEq] at h
      obtain ⟨k, hk, hb⟩ := exists_of_mapM_eq_some hbs (h ▸ shorter_foldl_mem b bs)
      obtain ⟨es', hes, heq⟩ := Option.map_eq_some_iff.mp hb
      obtain ⟨rfl, rfl⟩ := Prod.mk.inj heq
      exact ⟨k.2, hk, hes⟩

theorem shortestBucket?_eq_none {k : Position × String} {ks : List (Position × String)}
    (h : g.shortestBucket? (k :: ks) = none) : ∃ l ∈ k :: ks, (g.indexes.get l.1)[l.2]? = none := by
  unfold shortestBucket? at h
  cases hbs : (k :: ks).mapM fun k => (g.indexes.get k.1)[k.2]?.map (k.1, ·) with
  | none =>
    obtain ⟨l, hl, hnone⟩ := exists_of_mapM_eq_none hbs
    exact ⟨l, hl, Option.map_eq_none_iff.mp hnone⟩
  | some bs =>
    cases bs with
    | nil =>
      rw [List.mapM_cons] at hbs
      cases hk : (g.indexes.get k.1)[k.2]? with
      | none => simp [hk] at hbs
      | some es =>
        cases hks : ks.mapM fun k => (g.indexes.get k.1)[k.2]?.map (k.1, ·) <;>
          simp [hk, hks] at hbs
    | cons b bs => simp [hbs] at h

/-- The test left for a bucket of one of the keys given, together with that key, is the test for
all of them. -/
theorem filedUnder_filter_fits {m : Mask} {p : Position} {key : String}
    (hk : (p, key) ∈ g.given m) :
    (g.filedUnder p key).filter (g.fits (g.given m) p) = g.entries.filter (g.meets m) := by
  unfold filedUnder
  rw [List.filter_filter]
  refine List.filter_congr fun e _ => ?_
  rw [Bool.eq_iff_iff, meets_iff, Bool.and_eq_true, beq_iff_eq]
  unfold fits
  simp only [List.all_eq_true, Bool.or_eq_true, beq_iff_eq]
  constructor
  · rintro ⟨hfits, hp⟩ l hl
    rcases hfits l hl with hlp | hl'
    · obtain ⟨q, x⟩ := l
      subst hlp
      rw [given_inj hl hk, hp]
    · exact hl'
  · intro h
    exact ⟨fun l hl => .inr (h l hl), h (p, key) hk⟩

/-- What is found is what a scan of the list finds, or part of one bucket. -/
theorem WellFormed.matching_cases (h : g.WellFormed) (m : Mask) :
    g.matching m = g.entries.filter (g.meets m) ∨
      ∃ p key f, g.matching m = ((g.indexes.get p).bucket key).filter f ∧
        (g.filedUnder p key).filter f = g.entries.filter (g.meets m) := by
  unfold matching scan
  split
  case h_1 hgiven =>
    refine .inl (List.filter_congr fun e _ => ?_)
    rw [eq_comm, meets_iff, hgiven]
    exact fun k hk => absurd hk List.not_mem_nil
  case h_2 k hgiven =>
    refine .inr ⟨k.1, k.2, fun _ => true, rfl, ?_⟩
    unfold filedUnder
    rw [List.filter_filter]
    refine List.filter_congr fun e _ => ?_
    rw [Bool.eq_iff_iff, meets_iff, hgiven, Bool.true_and, beq_iff_eq]
    simp
  case h_3 hnil hone =>
    split
    case h_1 hnone =>
      -- no entry is filed under a key that is missing
      obtain ⟨k, ks, hgiven⟩ := List.exists_cons_of_ne_nil hnil
      rw [hgiven] at hnone
      obtain ⟨l, hl, hmissing⟩ := shortestBucket?_eq_none hnone
      rw [← hgiven] at hl
      have hfiled := h.filed l.1 l.2
      rw [Index.bucket_eq, hmissing, Option.getD_none] at hfiled
      refine .inl ?_
      rw [← filedUnder_filter_fits hl, ← hfiled.nil_eq]
      rfl
    case h_2 p es hsome =>
      obtain ⟨key, hk, hes⟩ := shortestBucket?_eq_some hsome
      refine .inr ⟨p, key, g.fits (g.given m) p, ?_, filedUnder_filter_fits hk⟩
      rw [Index.bucket_eq, hes, Option.getD_some]

theorem WellFormed.matching_perm (h : g.WellFormed) (m : Mask) :
    (g.matching m).Perm (g.entries.filter (g.meets m)) := by
  rcases h.matching_cases m with heq | ⟨p, key, f, heq, hfilter⟩
  · exact .of_eq heq
  · rw [heq, ← hfilter]
    exact (h.filed p key).filter f

theorem WellFormed.unmerged_iff (h : g.WellFormed) :
    g.Unmerged ↔ g.equivalence.isEmpty = true :=
  h.flat.isEmpty_iff.symm

theorem WellFormed.matching_eq_filter (h : g.WellFormed) (hun : g.Unmerged) (m : Mask) :
    g.matching m = g.entries.filter (g.meets m) := by
  rcases h.matching_cases m with heq | ⟨p, key, f, heq, hfilter⟩
  · exact heq
  · rw [heq, ← hfilter, h.ordered (h.unmerged_iff.mp hun)]

theorem WellFormed.mem_matching (h : g.WellFormed) {m : Mask} {e : Entry} (he : e ∈ g.matching m) :
    e ∈ g.entries :=
  (List.mem_filter.mp ((h.matching_perm m).mem_iff.mp he)).1

theorem WellFormed.matching_distinct (h : g.WellFormed) (m : Mask) :
    ((g.matching m).map Entry.id).Nodup :=
  ((h.matching_perm m).map Entry.id).nodup_iff.mpr (h.distinct.sublist (List.filter_sublist.map _))

/-! ## The first of those found -/

theorem firstMatching?_eq (m : Mask) : g.firstMatching? m = (g.matching m).head? := by
  unfold firstMatching? matching
  rw [List.head?_filter]

theorem holds_eq (m : Mask) : g.holds m = !(g.matching m).isEmpty := by
  unfold holds
  rw [firstMatching?_eq]
  cases g.matching m <;> rfl

theorem any?_eq (m : Mask) : g.any? m = (g.each m).head? := by
  unfold any? each
  cases m.wildcard? with
  | none => rfl
  | some p =>
    rw [firstMatching?_eq]
    cases g.matching m <;> rfl

end Graph

end QuadGraph
