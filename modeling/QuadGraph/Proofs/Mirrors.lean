import QuadGraph.Proofs.Likeness
import QuadGraph.Proofs.Permutations
import QuadGraph.Proofs.Representatives

/-!
# Stores that mirror each other

Two stores mirror each other when the same terms are alike in both and their entries are alike, one by
one (`Graph.Mirrors`). A plan sees of a store just how long its buckets are, and the buckets of the two
hold entries of the same pairs; so both plan alike (`Mirrors.prepared_shape`), and as matching does not
tell entries apart that are alike, both return the same rows (`Query.returns_mirrored`). Only
collections with variables in them tell such entries apart (`Query.mirrored_apart`).
-/

namespace QuadGraph

/-! ## Pairs of entries -/

/-- The two lists are those of the first and of the second entries of some of the pairs, in any
order. -/
def Paired (pairs : List (Entry × Entry)) (es fs : List Entry) : Prop :=
  ∃ via : List (Entry × Entry), (∀ x ∈ via, x ∈ pairs) ∧ es.Perm (via.map Prod.fst) ∧
    fs.Perm (via.map Prod.snd)

theorem Paired.length_eq {pairs : List (Entry × Entry)} {es fs : List Entry} (h : Paired pairs es fs) :
    es.length = fs.length := by
  obtain ⟨via, -, hes, hfs⟩ := h
  rw [hes.length_eq, hfs.length_eq, List.length_map, List.length_map]

theorem Paired.flatMap_perm {α β γ : Type} {pairs : List (Entry × Entry)} {es fs : List Entry}
    (h : Paired pairs es fs) {key : α → γ} {key' : β → γ} {f f' : Entry → Option α}
    {rows rows' : α → List β}
    (hf : ∀ x ∈ pairs, (f x.1).map key = (f' x.2).map key)
    (hrows : ∀ a a', key a = key a' → ((rows a).map key').Perm ((rows' a').map key')) :
    (((es.filterMap f).flatMap rows).map key').Perm (((fs.filterMap f').flatMap rows').map key') := by
  obtain ⟨via, hvia, hes, hfs⟩ := h
  have hleft := ((hes.filterMap f).flatMap_right rows).map key'
  have hright := ((hfs.filterMap f').flatMap_right rows').map key'
  refine hleft.trans (List.Perm.trans ?_ hright.symm)
  simp only [List.filterMap_eq_flatMap_toList, List.flatMap_assoc, List.map_flatMap, List.flatMap_map]
  refine List.Perm.flatMap_left via fun x hx => ?_
  rcases map_eq_cases (hf x (hvia x hx)) with ⟨ha, ha'⟩ | ⟨a, a', ha, ha', hkey⟩
  · rw [ha, ha']
    exact .refl _
  · rw [ha, ha']
    simpa using hrows a a' hkey

namespace Graph

structure Mirrors (g g' : Graph) (pairs : List (Entry × Entry)) : Prop where
  wellFormed : g.WellFormed
  wellFormed' : g'.WellFormed
  canonKey : ∀ t, g.canonKey t = g'.canonKey t
  fst : g.entries = pairs.map Prod.fst
  snd : g'.entries = pairs.map Prod.snd
  alike : ∀ x ∈ pairs, ∀ pos ∈ Prepared.matched,
    g.alike (x.1.statement.get pos) (x.2.statement.get pos) = true

variable {g g' : Graph} {pairs : List (Entry × Entry)} {b b' : Bindings}

theorem Mirrors.entries_paired (h : g.Mirrors g' pairs) : Paired pairs g.entries g'.entries :=
  ⟨pairs, fun _ hx => hx, .of_eq h.fst, .of_eq h.snd⟩

theorem Mirrors.bucket_paired (h : g.Mirrors g' pairs) {pos : Position} (hpos : pos ∈ Prepared.matched)
    {t u : Term} (hkey : t.key = u.key) : Paired pairs (g.bucket pos t) (g'.bucket pos u) := by
  have hunder : g'.canonKey u = g.canonKey t := by rw [← h.canonKey, canonKey_congr hkey]
  refine ⟨pairs.filter fun x => g.canonKey (x.1.statement.get pos) == g.canonKey t,
    fun x hx => List.mem_of_mem_filter hx, ?_, ?_⟩
  · refine (h.wellFormed.filed pos _).trans (.of_eq ?_)
    rw [filedUnder, h.fst, List.filter_map]
    rfl
  · refine (h.wellFormed'.filed pos _).trans (.of_eq ?_)
    rw [filedUnder, h.snd, List.filter_map, hunder]
    refine congrArg (List.map Prod.snd) (List.filter_congr fun x hx => ?_)
    show (g'.canonKey (x.2.statement.get pos) == g.canonKey t) = _
    rw [← h.canonKey, ← beq_iff_eq.mp (h.alike x hx pos hpos)]

end Graph

/-! ## Planning -/

namespace Prepared

variable {g g' : Graph} {pairs : List (Entry × Entry)} {b b' : Bindings}

theorem narrower_paired {best best' : Option (List Entry)} {es fs : List Entry}
    (hbest : Option.Rel (Paired pairs) best best') (h : Paired pairs es fs) :
    Option.Rel (Paired pairs) (narrower best es) (narrower best' fs) := by
  cases hbest with
  | none => exact .some h
  | @some es' fs' hold =>
    have hlength : es.length < es'.length ↔ fs.length < fs'.length := by
      rw [h.length_eq, hold.length_eq]
    by_cases hshorter : fs.length < fs'.length
    · simp only [narrower, hlength.mpr hshorter, hshorter, if_true]
      exact .some h
    · simp only [narrower, mt hlength.mp hshorter, hshorter, if_false]
      exact .some hold

theorem getD_paired {best best' : Option (List Entry)} {es fs : List Entry}
    (hbest : Option.Rel (Paired pairs) best best') (h : Paired pairs es fs) :
    Paired pairs (best.getD es) (best'.getD fs) := by
  cases hbest with
  | none => exact h
  | some hpaired => exact hpaired

theorem foldl_narrower_paired {f f' : Position → List Entry} {ps : List Position}
    (h : ∀ p ∈ ps, Paired pairs (f p) (f' p)) {best best' : Option (List Entry)}
    (hbest : Option.Rel (Paired pairs) best best') :
    Option.Rel (Paired pairs) (ps.foldl (fun best p => narrower best (f p)) best)
      (ps.foldl (fun best p => narrower best (f' p)) best') := by
  induction ps generalizing best best' with
  | nil => exact hbest
  | cons p ps ih =>
    rw [List.forall_mem_cons] at h
    exact ih h.2 (narrower_paired hbest h.1)

theorem ofStatement_eq (g : Graph) (b : Bindings) (i : Nat) (st : Statement) :
    ofStatement g b i st =
      { index := i
        free := (matched.filter fun p => (b.substitute (st.get p)).hasVariable).length
        candidates := ((matched.filter fun p => !(b.substitute (st.get p)).hasVariable).foldl
          (fun best p => narrower best (g.bucket p (b.substitute (st.get p)))) none).getD g.entries } := by
  simp only [ofStatement, List.filter_map, List.foldl_map, List.length_map, Function.comp_def]

def shape (x : Prepared) : Nat × Nat × Nat := (x.index, x.free, x.candidates.length)

theorem map_shape_order (ps : List Prepared) : (order ps).map shape =
    (ps.map shape).mergeSort fun x y =>
      decide (x.2.1 < y.2.1) || (x.2.1 == y.2.1 && decide (x.2.2 ≤ y.2.2)) :=
  List.map_mergeSort fun _ _ _ _ => rfl

end Prepared

namespace Graph.Mirrors

variable {g g' : Graph} {pairs : List (Entry × Entry)} {b b' : Bindings}

section
variable (h : g.Mirrors g' pairs) (hb : b.keyed = b'.keyed)
include h hb

theorem candidates_paired (i : Nat) (st : Statement) :
    Paired pairs (Prepared.ofStatement g b i st).candidates
      (Prepared.ofStatement g' b' i st).candidates := by
  have hbuckets : ∀ p ∈ Prepared.matched.filter fun p => !(b'.substitute (st.get p)).hasVariable,
      Paired pairs (g.bucket p (b.substitute (st.get p))) (g'.bucket p (b'.substitute (st.get p))) :=
    fun p hp => h.bucket_paired (List.mem_of_mem_filter hp)
      (Term.key_eq_iff.mpr (Bindings.keyChars_substitute_congr hb (st.get p)))
  have hbest := Prepared.foldl_narrower_paired hbuckets .none
  rw [Prepared.ofStatement_eq, Prepared.ofStatement_eq]
  simp only [Bindings.hasVariable_substitute hb]
  exact Prepared.getD_paired hbest h.entries_paired

theorem shape_ofStatement (i : Nat) (st : Statement) :
    (Prepared.ofStatement g b i st).shape = (Prepared.ofStatement g' b' i st).shape := by
  have hfree : (Prepared.ofStatement g b i st).free = (Prepared.ofStatement g' b' i st).free := by
    rw [Prepared.ofStatement_eq, Prepared.ofStatement_eq]
    simp only [Bindings.hasVariable_substitute hb]
  rw [Prepared.shape, Prepared.shape, hfree, (h.candidates_paired hb i st).length_eq]
  rfl

theorem prepared_shape (p : Pattern) (remaining : List Nat) :
    (p.prepared g remaining b).map Prepared.shape =
      (p.prepared g' remaining b').map Prepared.shape := by
  have hshapes : ∀ i : Nat,
      (p.statements[i]?.map (Prepared.ofStatement g b i)).map Prepared.shape =
        (p.statements[i]?.map (Prepared.ofStatement g' b' i)).map Prepared.shape := by
    intro i
    cases p.statements[i]? with
    | none => rfl
    | some st => exact congrArg some (h.shape_ofStatement hb i st)
  rw [Pattern.prepared, Pattern.prepared, Prepared.map_shape_order, Prepared.map_shape_order,
    List.map_filterMap, List.map_filterMap]
  simp only [hshapes]

theorem prepared_nil {p : Pattern} {remaining : List Nat} (hplan : p.prepared g remaining b = []) :
    p.prepared g' remaining b' = [] := by
  have hshape := h.prepared_shape hb p remaining
  rw [hplan] at hshape
  exact List.map_eq_nil_iff.mp hshape.symm

/-- The same statement is to be matched next, and the same ones after it. -/
theorem prepared_cons {p : Pattern} {remaining : List Nat} {chosen : Prepared}
    {others : List Prepared} (hplan : p.prepared g remaining b = chosen :: others) :
    ∃ st others', p.statements[chosen.index]? = some st ∧
      chosen = Prepared.ofStatement g b chosen.index st ∧
      p.prepared g' remaining b' = Prepared.ofStatement g' b' chosen.index st :: others' ∧
      others'.map Prepared.index = others.map Prepared.index := by
  have hshape := h.prepared_shape hb p remaining
  rw [hplan, List.map_cons] at hshape
  cases hplan' : p.prepared g' remaining b' with
  | nil =>
    rw [hplan'] at hshape
    cases hshape
  | cons chosen' others' =>
    rw [hplan', List.map_cons] at hshape
    obtain ⟨hhead, htail⟩ := List.cons.inj hshape
    have hindices := congrArg (List.map Prod.fst) htail
    rw [List.map_map, List.map_map] at hindices
    obtain ⟨st, hst, hchosen⟩ := Pattern.mem_prepared (hplan ▸ List.mem_cons_self ..)
    obtain ⟨st', hst', hchosen'⟩ := Pattern.mem_prepared (hplan' ▸ List.mem_cons_self ..)
    have hindex : chosen'.index = chosen.index := (congrArg Prod.fst hhead).symm
    rw [hindex] at hst' hchosen'
    obtain rfl : st = st' := Option.some.inj (hst.symm.trans hst')
    exact ⟨st, others', hst, hchosen, by rw [hchosen'], hindices.symm⟩

end

theorem unify_pair (h : g.Mirrors g' pairs) {p : Pattern} {st : Statement}
    (hopen : ∀ pos ∈ Prepared.matched, (st.get pos).isOpen = true → ∀ x ∈ pairs,
      g.Likewise (st.get pos) (x.1.statement.get pos) (x.2.statement.get pos))
    (hclosures : ∀ name c, p.constraint? name = some c → c.Respectful) (hb : b.keyed = b'.keyed)
    {x : Entry × Entry} (hx : x ∈ pairs) :
    (g.unifyStatement p st x.1.statement b).map Bindings.keyed =
      (g'.unifyStatement p st x.2.statement b').map Bindings.keyed := by
  refine unifyStatement_likewise h.canonKey (fun pos hpos => ?_) hclosures hb
  by_cases hisOpen : (st.get pos).isOpen = true
  · exact hopen pos hpos hisOpen x hx
  · exact likewise_of_alike (Bool.eq_false_iff.mpr hisOpen) (h.alike x hx pos hpos)

/-- Whatever is planned in one of the graphs is planned in the other, and it finds the same. -/
theorem eval_perm (h : g.Mirrors g' pairs) (p : Pattern) (remaining : List Nat)
    (hopen : ∀ r : Pattern, r.Within p → ∀ st ∈ r.statements, ∀ pos ∈ Prepared.matched,
      (st.get pos).isOpen = true → ∀ x ∈ pairs,
        g.Likewise (st.get pos) (x.1.statement.get pos) (x.2.statement.get pos))
    (hclosures : ∀ r : Pattern, r.Within p → ∀ name c, r.constraint? name = some c → c.Respectful)
    (hb : b.keyed = b'.keyed) :
    ((p.eval g remaining b).map Bindings.keyed).Perm ((p.eval g' remaining b').map Bindings.keyed) := by
  -- along the recursion of the evaluator for the first graph, which the other one follows
  induction p, remaining, b using Pattern.eval.induct g generalizing b' with
  | case1 p remaining b hplan ih =>
    rw [Pattern.eval_of_nil g hplan, Pattern.eval_of_nil g' (h.prepared_nil hb hplan),
      crossings_map Bindings.keyed_merge, crossings_map Bindings.keyed_merge, hb, List.map_map,
      List.map_map]
    refine crossings_perm (fun o ho => ?_) b'.keyed
    have hopen' : ∀ r : Pattern, r.Within o → _ := fun r hr => hopen r (.optional ho hr)
    exact ih ⟨o, ho⟩ hopen' (fun r hr => hclosures r (.optional ho hr)) hb
  | case2 p remaining b chosen others hplan ih =>
    obtain ⟨st, others', hst, hchosen, hplan', hothers⟩ := h.prepared_cons hb hplan
    have hst' : p.statements[(Prepared.ofStatement g' b' chosen.index st).index]? = some st := hst
    rw [Pattern.eval_of_cons g hplan, Pattern.eval_of_cons g' hplan', Pattern.extensions_eq hst,
      Pattern.extensions_eq hst', hothers, hchosen]
    have hself := hopen p (.self p) st (List.mem_of_getElem? hst)
    have hunify : ∀ x ∈ pairs, (g.unifyStatement p st x.1.statement b).map Bindings.keyed =
        (g'.unifyStatement p st x.2.statement b').map Bindings.keyed :=
      fun x hx => h.unify_pair hself (hclosures p (.self p)) hb hx
    exact (h.candidates_paired hb chosen.index st).flatMap_perm hunify fun a a' ha =>
      ih a hopen hclosures ha

end Graph.Mirrors

/-! ## Queries -/

namespace Store

theorem Reachable.canonKey_eq {s t : Store} (hs : s.Reachable) (ht : t.Reachable)
    (h : ∀ a b, s.graph.alike a b = t.graph.alike a b) (a : Term) :
    s.graph.canonKey a = t.graph.canonKey a := by
  obtain ⟨es, hes⟩ := reachable_iff_history.mp hs
  obtain ⟨fs, hfs⟩ := reachable_iff_history.mp ht
  refine hes.represents.canonKey_eq hfs.represents (fun x y => ?_) a
  have hxy := Bool.eq_iff_iff.mp (h x y)
  rw [Graph.alike, Graph.alike, beq_iff_eq, beq_iff_eq] at hxy
  rw [← hes.represents.canonKey_eq_iff, ← hfs.represents.canonKey_eq_iff]
  exact hxy

/-- What a merge does to the terms that stand for others does not depend on what is stored. -/
theorem equivalence_equate {s t : Store} (h : s.graph.equivalence = t.graph.equivalence) (a b : Term) :
    (s.equate a b).graph.equivalence = (t.equate a b).graph.equivalence := by
  unfold equate Graph.canon
  rw [h]
  split
  · exact h
  · show Equivalence.union _ _ _ = Equivalence.union _ _ _
    rw [h]

end Store

theorem Graph.alike_congr {g g' : Graph} (h : g.equivalence = g'.equivalence) (a b : Term) :
    g.alike a b = g'.alike a b := by
  unfold alike canonKey canon
  rw [h]

/-- Two stores in which the same terms are alike, and whose statements are alike one by one, return the
same rows. Where the query has a collection with variables in it, what stands in its place must have
items that are alike as well. -/
theorem Query.returns_mirrored {s t : Store} (hs : s.Reachable) (ht : t.Reachable)
    (hclasses : ∀ a b, s.graph.alike a b = t.graph.alike a b)
    (hentries : List.Forall₂ (fun e f => ∀ pos ∈ Prepared.matched,
      s.graph.alike (e.statement.get pos) (f.statement.get pos) = true) s.graph.entries t.graph.entries)
    (q : Query) (hfuel : q.maxFuel = none)
    (hopen : ∀ p : Pattern, p.Within q.pattern → ∀ st ∈ p.statements, ∀ pos ∈ Prepared.matched,
      (st.get pos).isOpen = true → List.Forall₂ (fun e f =>
        s.graph.Likewise (st.get pos) (e.statement.get pos) (f.statement.get pos))
          s.graph.entries t.graph.entries)
    (hclosures : ∀ p : Pattern, p.Within q.pattern →
      ∀ name c, p.constraint? name = some c → c.Respectful) :
    ∃ rows rows', q.Returns s rows ∧ q.Returns t rows' ∧
      (rows.map Bindings.keyed).Perm (rows'.map Bindings.keyed) := by
  have hlength := hentries.length_eq
  have hmirrors : s.graph.Mirrors t.graph (s.graph.entries.zip t.graph.entries) :=
    { wellFormed := hs.wellFormed
      wellFormed' := ht.wellFormed
      canonKey := hs.canonKey_eq ht hclasses
      fst := (List.map_fst_zip (Nat.le_of_eq hlength)).symm
      snd := (List.map_snd_zip (Nat.le_of_eq hlength.symm)).symm
      alike := fun x hx => List.forall₂_zip hentries hx }
  refine ⟨_, _, q.returns_rows hfuel s, q.returns_rows hfuel t, ?_⟩
  refine hmirrors.eval_perm q.pattern _ (fun p hp st hst pos hpos hisOpen x hx => ?_) hclosures rfl
  exact List.forall₂_zip (hopen p hp st hst pos hpos hisOpen) hx

/-- The same statement was stored by different names of the same terms. -/
theorem Query.returns_mirrored_names :
    let stored : String → Store := fun name =>
      ((Store.ofStatement ⟨.named "x", .named "p", .collection [.named name], .named "g"⟩).equate
        (.named "a") (.named "b")).equate (.collection [.named "a"]) (.collection [.named "b"])
    let q : Query := { pattern := ⟨[⟨.var "x", .named "p", .collection [.var "y"], .defaultGraph⟩], [], ∅⟩ }
    (stored "a").Reachable ∧ (stored "b").Reachable ∧
      ∃ rows rows', q.Returns (stored "a") rows ∧ q.Returns (stored "b") rows' ∧
        (rows.map Bindings.keyed).Perm (rows'.map Bindings.keyed) := by
  intro stored q
  have hreachable : ∀ name, (stored name).Reachable := fun name =>
    ((Store.reachable_ofStatement _).equate _ _).equate _ _
  have hclasses : ∀ x y, (stored "a").graph.alike x y = (stored "b").graph.alike x y :=
    Graph.alike_congr (Store.equivalence_equate (Store.equivalence_equate rfl _ _) _ _)
  have hentries : ∀ name, (stored name).graph.entries =
      [⟨0, ⟨.named "x", .named "p", .collection [.named name], .named "g"⟩⟩] := by
    intro name
    rw [Store.entries_equate, Store.entries_equate]
    rfl
  have hitems : (stored "a").graph.alike (.named "a") (.named "b") = true := by decide +kernel
  have hwithin : ∀ p : Pattern, p.Within q.pattern → p = q.pattern := by
    intro p hp
    cases hp with
    | self => rfl
    | optional ho _ => exact absurd ho List.not_mem_nil
  refine ⟨hreachable "a", hreachable "b",
    q.returns_mirrored (hreachable "a") (hreachable "b") hclasses ?_ rfl ?_ ?_⟩
  · rw [hentries, hentries]
    refine .cons ?_ .nil
    decide +kernel
  · intro p hp st hst pos hpos hopen
    obtain rfl := hwithin p hp
    obtain rfl := List.mem_singleton.mp hst
    rw [hentries, hentries]
    refine .cons ?_ .nil
    cases pos with
    | object => exact .inl ⟨_, _, rfl, rfl, hitems, trivial⟩
    | _ => cases hopen
  · intro p hp name c hc
    obtain rfl := hwithin p hp
    rw [Pattern.constraint?, Std.ExtTreeMap.getElem?_empty] at hc
    cases hc

/-- A collection and a name for it were merged. A collection with a variable in it is matched with the
one that is stored and not with the name. -/
theorem Query.mirrored_apart :
    let list : Term := .collection [.named "a"]
    let stored : Term → Store := fun object =>
      (Store.ofStatement ⟨.named "x", .named "p", object, .named "g"⟩).equate (.named "l") list
    let q : Query := { pattern := ⟨[⟨.var "x", .named "p", .collection [.var "y"], .defaultGraph⟩], [], ∅⟩ }
    (stored list).Reachable ∧ (stored (.named "l")).Reachable ∧
      (∀ a b, (stored list).graph.alike a b = (stored (.named "l")).graph.alike a b) ∧
      List.Forall₂ (fun e f => ∀ pos ∈ Prepared.matched,
        (stored list).graph.alike (e.statement.get pos) (f.statement.get pos) = true)
        (stored list).graph.entries (stored (.named "l")).graph.entries ∧
      (∃ row, q.Returns (stored list) [row]) ∧ q.Returns (stored (.named "l")) [] := by
  intro list stored q
  have hentries : ∀ object, (stored object).graph.entries =
      [⟨0, ⟨.named "x", .named "p", object, .named "g"⟩⟩] := by
    intro object
    rw [Store.entries_equate]
    rfl
  have hreachable : ∀ object, (stored object).Reachable := fun object =>
    (Store.reachable_ofStatement _).equate _ _
  let rows : Term → List Bindings := fun object => q.pattern.extensions (stored object).graph
    (Prepared.ofStatement (stored object).graph .empty 0
      ⟨.var "x", .named "p", .collection [.var "y"], .defaultGraph⟩) .empty
  have hreturns : ∀ object, q.Returns (stored object) (rows object) := by
    intro object
    have hrows := q.returns_rows rfl (stored object)
    have hrange : List.range q.pattern.size = [0] := rfl
    rw [Pattern.rows, hrange, Pattern.eval_singleton rfl rfl] at hrows
    exact hrows
  have hone : (rows list).length = 1 := by decide +kernel
  have hnone : (rows (.named "l")).length = 0 := by decide +kernel
  obtain ⟨row, hrow⟩ := List.length_eq_one_iff.mp hone
  refine ⟨hreachable list, hreachable _, Graph.alike_congr (Store.equivalence_equate rfl _ _), ?_,
    ⟨row, hrow ▸ hreturns list⟩, List.eq_nil_of_length_eq_zero hnone ▸ hreturns (.named "l")⟩
  rw [hentries, hentries]
  refine .cons ?_ .nil
  decide +kernel

end QuadGraph
