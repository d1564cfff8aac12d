import QuadGraph.Proofs.Answers
import QuadGraph.Proofs.Selections

/-!
# The order in which a pattern is written

The answers of a pattern do not depend on the order of its statements, nor on that in its optional
patterns (`Permuted.answers_perm`). So neither do the rows of a query, as long as candidates are looked
up under the keys of what they match (`Query.returns_permuted`). A collection with variables in it is
looked up as one term once its variables are bound, but matched item by item; when terms were merged
the two differ, and the order of the statements decides what is found (`Query.permuted_apart`).
-/

namespace QuadGraph

namespace Pattern

/-- The same pattern but for the order of the statements, in it and in its optional patterns. -/
inductive Permuted : Pattern → Pattern → Prop
  | intro {p p' : Pattern} (statements : p.statements.Perm p'.statements)
      (length : p.optionals.length = p'.optionals.length)
      (optionals : ∀ x ∈ p.optionals.zip p'.optionals, Permuted x.1 x.2)
      (constraints : p.constraints = p'.constraints) : Permuted p p'

/-! ## Answers -/

theorem solution?_congr_constraints {p p' : Pattern} (h : p.constraints = p'.constraints) (g : Graph)
    (start : Bindings) : p.solution? g start = p'.solution? g start := by
  have hadmits : p.Admits = p'.Admits := by
    funext b name
    simp only [Admits, constraint?, h]
  have hsolution : p.Solution g start = p'.Solution g start := by
    funext ws b
    refine propext ⟨fun hsol => ?_, fun hsol => ?_⟩
    · exact ⟨hsol.below, hsol.binds, hsol.fits, hadmits ▸ hsol.admits⟩
    · exact ⟨hsol.below, hsol.binds, hsol.fits, hadmits.symm ▸ hsol.admits⟩
  funext ws
  unfold solution?
  rw [hsolution]

/-- Solutions are extended alike when the optional patterns, one by one, have the same answers. -/
theorem extended_perm {g : Graph} {p p' : Pattern} {b : Bindings}
    (hlength : p.optionals.length = p'.optionals.length)
    (h : ∀ x ∈ p.optionals.zip p'.optionals,
      ((x.1.answers g b).map Bindings.keyed).Perm ((x.2.answers g b).map Bindings.keyed)) :
    ((p.extended g b).map Bindings.keyed).Perm ((p'.extended g b).map Bindings.keyed) := by
  obtain ⟨pairs, hfst, hsnd, hpairs⟩ : ∃ pairs : List (Pattern × Pattern),
      p.optionals = pairs.map Prod.fst ∧ p'.optionals = pairs.map Prod.snd ∧ ∀ x ∈ pairs,
      ((x.1.answers g b).map Bindings.keyed).Perm ((x.2.answers g b).map Bindings.keyed) :=
    ⟨_, (List.map_fst_zip (Nat.le_of_eq hlength)).symm,
      (List.map_snd_zip (Nat.le_of_eq hlength.symm)).symm, h⟩
  rw [extended, extended, crossings_map Bindings.keyed_merge, crossings_map Bindings.keyed_merge,
    hfst, hsnd, List.map_map, List.map_map, List.map_map, List.map_map]
  exact crossings_perm hpairs b.keyed

theorem Permuted.answers_perm {p p' : Pattern} (h : p.Permuted p') (g : Graph) (start : Bindings) :
    ((p.answers g start).map Bindings.keyed).Perm ((p'.answers g start).map Bindings.keyed) := by
  induction h generalizing start with
  | @intro p p' statements length optionals constraints ih =>
    have hsolutions := choices_perm (g := g) statements (f := p.solution? g start) fun _ _ h =>
      solution?_perm h
    rw [answers_eq, answers_eq, ← solution?_congr_constraints constraints, List.map_flatMap,
      List.map_flatMap]
    refine (hsolutions.flatMap_right _).trans (List.Perm.flatMap_left _ fun b _ => ?_)
    exact extended_perm length fun x hx => ih x hx b

/-! ## What a plan may not tell apart -/

theorem Permuted.within {p p' r' : Pattern} (h : p.Permuted p') (hr : r'.Within p') :
    ∃ r : Pattern, r.Within p ∧ r.Permuted r' := by
  induction hr generalizing p with
  | self p' => exact ⟨p, .self p, h⟩
  | @optional o' p' r' ho' _ ih =>
    obtain ⟨statements, length, optionals, constraints⟩ := h
    obtain ⟨i, hi, rfl⟩ := List.mem_iff_getElem.mp ho'
    have hi' : i < p.optionals.length := by omega
    have hmem : (p.optionals[i], p'.optionals[i]) ∈ p.optionals.zip p'.optionals := by
      refine List.mem_iff_getElem?.mpr ⟨i, List.getElem?_zip_eq_some.mpr ⟨?_, ?_⟩⟩
      · exact List.getElem?_eq_getElem hi'
      · exact List.getElem?_eq_getElem hi
    obtain ⟨r, hr, hpermuted⟩ := ih (optionals _ hmem)
    exact ⟨r, .optional (List.getElem_mem hi') hr, hpermuted⟩

theorem Permuted.regular {p p' : Pattern} (h : p.Permuted p') {g : Graph} (hregular : p.Regular g) :
    p'.Regular g := by
  obtain ⟨statements, -, -, constraints⟩ := h
  refine ⟨fun st hst => ?_, fun name c hc => ?_, hregular.closed.imp_right fun h st hst => ?_⟩
  · exact hregular.names st (statements.mem_iff.mpr hst)
  · rw [constraint?, ← constraints] at hc
    exact hregular.closures name c hc
  · exact h st (statements.mem_iff.mpr hst)

end Pattern

/-! ## Queries -/

/-- A query returns the same rows in whatever order its statements are written, and those of its
optional patterns: the candidates for a statement always contain every entry that it can be matched
with. Unless nothing was merged, no term of the pattern may be a collection that holds variables. -/
theorem Query.returns_permuted {s : Store} (h : s.Reachable) (q : Query) {p' : Pattern}
    (hpermuted : q.pattern.Permuted p') (hfuel : q.maxFuel = none)
    (hnames : ∀ name ∈ q.pattern.occurrences, name.toList.head? ≠ some '?')
    (hclosed : s.graph.Unmerged ∨ ∀ p : Pattern, p.Within q.pattern →
      ∀ st ∈ p.statements, ∀ pos ∈ Prepared.matched, (st.get pos).isOpen = false)
    (hclosures : ∀ p : Pattern, p.Within q.pattern →
      ∀ name c, p.constraint? name = some c → c.Respectful) :
    (∃ rows rows', q.Returns s rows ∧ Query.Returns { q with pattern := p' } s rows' ∧
      (rows.map Bindings.keyed).Perm (rows'.map Bindings.keyed)) ∧
    ∀ p : Pattern, p.Within q.pattern → ∀ st ∈ p.statements, ∀ (i : Nat) (b b' : Bindings),
      ∀ e ∈ s.graph.entries, s.graph.unifyStatement p st e.statement b = some b' →
        e ∈ (Prepared.ofStatement s.graph b i st).candidates := by
  have hregular : ∀ r : Pattern, r.Within q.pattern → r.Regular s.graph := fun r hr =>
    { names := fun st hst name hname => Pattern.bareName_eq (hnames name (hr.mem_occurrences hst hname))
      closures := hclosures r hr
      closed := hclosed.imp_right fun h => h r hr }
  have hregular' : ∀ r : Pattern, r.Within p' → r.Regular s.graph := by
    intro r' hr'
    obtain ⟨r, hr, hsame⟩ := hpermuted.within hr'
    exact hsame.regular (hregular r hr)
  -- either query has the rows that its answers are
  have hanswers : ∀ p : Pattern, (∀ r : Pattern, r.Within p → r.Regular s.graph) →
      ((p.rows s.graph q.initial).map Bindings.keyed).Perm
        ((p.answers s.graph q.initial).map Bindings.keyed) := by
    intro p hp
    have hperm := Pattern.eval_perm_answersWith h.wellFormed p (List.range p.size) q.initial hp
      (p.solution_self s.graph q.initial)
    rw [Pattern.statementsAt_range, Pattern.answersWith_nil] at hperm
    exact hperm
  refine ⟨⟨_, _, q.returns_rows hfuel s, Query.returns_rows { q with pattern := p' } hfuel s, ?_⟩,
    fun p hp st hst i b b' e he hunify => ?_⟩
  · have hsame := hpermuted.answers_perm s.graph q.initial
    exact ((hanswers q.pattern hregular).trans hsame).trans (hanswers p' hregular').symm
  · have hp := hregular p hp
    exact Graph.mem_candidates h.wellFormed (Graph.grown_self s.graph b) p (hp.names st hst)
      (hp.closed.imp_right fun h => h st hst) i he hunify

theorem Query.returns_permuted_pairs :
    let s := Store.ofStatement ⟨.named "a", .named "p", .collection [.named "b"], .named "g"⟩
    let x : Term := .collection [.var "x"]
    let inner := (Pattern.empty.add (.var "x") (.named "p") (.var "y")).add (.var "y") (.named "p") x
    let inner' := (Pattern.empty.add (.var "y") (.named "p") x).add (.var "x") (.named "p") (.var "y")
    let outer := ((Pattern.empty.add (.var "z") (.named "p") x).add (.var "z") (.named "p")
      (.var "u")).addOptional inner
    let outer' := ((Pattern.empty.add (.var "z") (.named "p") (.var "u")).add (.var "z") (.named "p")
      x).addOptional inner'
    let q : Query := { pattern := outer }
    s.Reachable ∧ outer.Permuted outer' ∧ q.maxFuel = none ∧
    (∀ name ∈ q.pattern.occurrences, name.toList.head? ≠ some '?') ∧ s.graph.Unmerged ∧
    (∃ rows rows', q.Returns s rows ∧ Query.Returns { q with pattern := outer' } s rows' ∧
      (rows.map Bindings.keyed).Perm (rows'.map Bindings.keyed)) ∧
    ∀ p : Pattern, p.Within q.pattern → ∀ st ∈ p.statements, ∀ (i : Nat) (b b' : Bindings),
      ∀ e ∈ s.graph.entries, s.graph.unifyStatement p st e.statement b = some b' →
        e ∈ (Prepared.ofStatement s.graph b i st).candidates := by
  intro s x inner inner' outer outer' q
  have hs : s.Reachable := Store.reachable_ofStatement _
  have hinner : inner.Permuted inner' :=
    .intro (.swap _ _ _) rfl (fun _ h => absurd h List.not_mem_nil) rfl
  have houter : outer.Permuted outer' := by
    refine .intro (.swap _ _ _) rfl (fun pair h => ?_) rfl
    obtain rfl := List.mem_singleton.mp h
    exact hinner
  have hnames : ∀ name ∈ q.pattern.occurrences, name.toList.head? ≠ some '?' := by
    have hoccurrences : q.pattern.occurrences = ["z", "x", "z", "u", "x", "y", "y", "x"] := by decide
    rw [hoccurrences]
    decide
  have hunmerged : s.graph.Unmerged := hs.wellFormed.unmerged_iff.mpr rfl
  have hnone : ∀ p : Pattern, p.Within outer → p.constraints = ∅ := by
    intro p hp
    cases hp with
    | self => rfl
    | optional ho hp =>
      obtain rfl := List.mem_singleton.mp ho
      cases hp with
      | self => rfl
      | optional ho _ => exact absurd ho List.not_mem_nil
  have hclosures : ∀ p : Pattern, p.Within q.pattern →
      ∀ name c, p.constraint? name = some c → c.Respectful := by
    intro p hp name c hc
    rw [Pattern.constraint?, hnone p hp, Std.ExtTreeMap.getElem?_empty] at hc
    cases hc
  exact ⟨hs, houter, rfl, hnames, hunmerged,
    q.returns_permuted hs houter rfl hnames (.inl hunmerged) hclosures⟩

/-! ## Collections and merged terms -/

theorem Prepared.order_pair (x y : Prepared) :
    Prepared.order [x, y] = if x.before y then [x, y] else [y, x] := by
  simp [order, List.mergeSort, List.MergeSort.Internal.splitInTwo, List.merge]

namespace Pattern

def pairRows (g : Graph) (p : Pattern) (st st' : Statement) (b : Bindings) : List Bindings :=
  if (Prepared.ofStatement g b 0 st).before (Prepared.ofStatement g b 1 st') then
    (p.extensions g (Prepared.ofStatement g b 0 st) b).flatMap fun b' =>
      p.extensions g (Prepared.ofStatement g b' 1 st') b'
  else
    (p.extensions g (Prepared.ofStatement g b 1 st') b).flatMap fun b' =>
      p.extensions g (Prepared.ofStatement g b' 0 st) b'

section
variable {g : Graph} {p : Pattern} (hoptionals : p.optionals = [])
include hoptionals

theorem eval_singleton {i : Nat} {st : Statement} (hst : p.statements[i]? = some st) (b : Bindings) :
    p.eval g [i] b = p.extensions g (Prepared.ofStatement g b i st) b := by
  have hplan : p.prepared g [i] b = [Prepared.ofStatement g b i st] := by
    simp [prepared, hst, Prepared.order]
  have hrest : ∀ b', p.eval g [] b' = [b'] := by
    intro b'
    have hnone : p.prepared g [] b' = [] := by simp [prepared, Prepared.order]
    rw [eval_of_nil g hnone, hoptionals, List.map_nil, crossings]
  rw [eval_of_cons g hplan, List.map_nil]
  simp [hrest]

theorem rows_eq_pairRows {st st' : Statement} (hstatements : p.statements = [st, st'])
    (b : Bindings) : p.rows g b = p.pairRows g st st' b := by
  have hfirst : p.statements[0]? = some st := by rw [hstatements]; rfl
  have hsecond : p.statements[1]? = some st' := by rw [hstatements]; rfl
  have hplan : p.prepared g [0, 1] b =
      Prepared.order [Prepared.ofStatement g b 0 st, Prepared.ofStatement g b 1 st'] := by
    simp [prepared, hfirst, hsecond]
  have hrange : List.range p.size = [0, 1] := by rw [size, hstatements]; rfl
  rw [Prepared.order_pair] at hplan
  rw [rows, hrange, pairRows]
  by_cases hbefore : (Prepared.ofStatement g b 0 st).before (Prepared.ofStatement g b 1 st') = true
  · rw [if_pos hbefore] at hplan ⊢
    rw [eval_of_cons g hplan]
    exact List.flatMap_congr fun b' _ => eval_singleton hoptionals hsecond b'
  · rw [if_neg hbefore] at hplan ⊢
    rw [eval_of_cons g hplan]
    exact List.flatMap_congr fun b' _ => eval_singleton hoptionals hfirst b'

end

end Pattern

/-- A collection was stored whose item was then merged into another term. A variable in its place is
bound to that term, and with it the collection is looked up under a key that nothing is stored
under. -/
theorem Query.permuted_apart :
    let collection : Statement := ⟨.var "s", .named "p", .collection [.var "y"], .defaultGraph⟩
    let item : Statement := ⟨.var "y", .named "q", .var "z", .defaultGraph⟩
    ∃ s t : Store,
      (Operation.add ⟨.named "s", .named "p", .collection [.named "b"], .defaultGraph⟩).run 5
        (.ofOptions {}) = some ((), s) ∧
      (Operation.add ⟨.named "b", .named "q", .named "z", .defaultGraph⟩).run 5 s = some ((), t) ∧
      (t.equate (.named "a") (.named "b")).Reachable ∧
      Pattern.Permuted ⟨[collection, item], [], ∅⟩ ⟨[item, collection], [], ∅⟩ ∧
      (∃ row, Query.Returns { pattern := ⟨[collection, item], [], ∅⟩ }
        (t.equate (.named "a") (.named "b")) [row]) ∧
      Query.Returns { pattern := ⟨[item, collection], [], ∅⟩ }
        (t.equate (.named "a") (.named "b")) [] := by
  intro collection item
  have hrun : ((Operation.add ⟨.named "s", .named "p", .collection [.named "b"], .defaultGraph⟩).run 5
      (.ofOptions {})).any (fun x =>
        ((Operation.add ⟨.named "b", .named "q", .named "z", .defaultGraph⟩).run 5 x.2).any fun y =>
          let g := (y.2.equate (.named "a") (.named "b")).graph
          (Pattern.pairRows g ⟨[collection, item], [], ∅⟩ collection item .empty).length == 1 &&
            (Pattern.pairRows g ⟨[item, collection], [], ∅⟩ item collection .empty).length == 0) =
      true := by decide +kernel
  obtain ⟨⟨⟨⟩, s⟩, hs, hrest⟩ := (Option.any_eq_true ..).mp hrun
  obtain ⟨⟨⟨⟩, t⟩, ht, hlengths⟩ := (Option.any_eq_true ..).mp hrest
  simp only [Bool.and_eq_true, beq_iff_eq] at hlengths
  obtain ⟨row, hrow⟩ := List.length_eq_one_iff.mp hlengths.1
  have hreachable : (t.equate (.named "a") (.named "b")).Reachable :=
    ((Store.Reachable.start {}).after 5 _ hs |>.after 5 _ ht).equate _ _
  have hpermuted : Pattern.Permuted ⟨[collection, item], [], ∅⟩ ⟨[item, collection], [], ∅⟩ :=
    .intro (.swap _ _ _) rfl (fun _ h => absurd h List.not_mem_nil) rfl
  refine ⟨s, t, hs, ht, hreachable, hpermuted, ⟨row, ?_⟩, ?_⟩
  · have hreturns := Query.returns_rows { pattern := ⟨[collection, item], [], ∅⟩ } rfl
      (t.equate (.named "a") (.named "b"))
    rw [Pattern.rows_eq_pairRows rfl rfl] at hreturns
    exact hrow ▸ hreturns
  · have hreturns := Query.returns_rows { pattern := ⟨[item, collection], [], ∅⟩ } rfl
      (t.equate (.named "a") (.named "b"))
    rw [Pattern.rows_eq_pairRows rfl rfl] at hreturns
    exact List.eq_nil_of_length_eq_zero hlengths.2 ▸ hreturns

end QuadGraph
