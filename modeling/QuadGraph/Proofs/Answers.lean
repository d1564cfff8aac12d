import QuadGraph.Proofs.Planning
import QuadGraph.Proofs.Reachable
import QuadGraph.Proofs.Solutions
import QuadGraph.Proofs.WorkQueue

/-!
# Queries return the answers

Whatever order of matching is planned, the bindings of a task are a solution for the choice that
was made on the way to it (`Solution.extend`), and a choice that has a solution is never missed
(`Solution.exists_extension`). So the rows of a pattern are its answers, up to order
(`eval_perm_answersWith`).
-/

namespace QuadGraph

namespace Pattern

inductive Within : Pattern → Pattern → Prop
  | self (p : Pattern) : Within p p
  | optional {o p r : Pattern} (ho : o ∈ p.optionals) (h : Within r o) : Within r p

/-- What the plan must not be able to tell apart: variables have bare names, tests that callers
supply respect the sameness of terms, and merged terms do not meet open collections. -/
structure Regular (g : Graph) (p : Pattern) : Prop where
  names : ∀ st ∈ p.statements, ∀ name ∈ st.vars, bareName name = name
  closures : ∀ name c, p.constraint? name = some c → c.Respectful
  closed : g.Unmerged ∨ ∀ st ∈ p.statements, ∀ pos ∈ Prepared.matched,
    (st.get pos).isOpen = false

section
variable {g : Graph} (hwf : g.WellFormed) {p : Pattern} {start b b' : Bindings} {done ws : Choice}
  {st : Statement} {e : Entry}

theorem solution_self (g : Graph) (p : Pattern) (start : Bindings) : p.Solution g start [] start where
  below := fun _ t ht => ⟨t, ht, rfl⟩
  binds := by simp
  fits := by simp
  admits := by simp

include hwf in
theorem Solution.grown (h : p.Solution g start done b) : g.Grown start b where
  keeps := fun name hname => (h.binds name).mpr (.inl hname)
  canonical := by
    intro name t hnew ht
    have hmem : name ∈ b.values := Bindings.mem_values.mpr ⟨t, ht⟩
    obtain ⟨w, hw, hname⟩ := ((h.binds name).mp hmem).resolve_left hnew
    obtain ⟨u, v, hv, hif⟩ := (h.fits w hw).exists_meets hname
    rw [ht] at hv
    obtain rfl := Option.some.inj hv
    rw [if_neg hnew, Term.same_iff_key] at hif
    rw [Graph.canonKey_congr hif, Graph.canonKey_canon hwf, hif]
    rfl

theorem Admits.of_under (hunder : b.Under b') {name : String} (hname : name ∈ b.values)
    (h : p.Admits b name) : p.Admits b' name := by
  intro c t hc ht
  obtain ⟨u, hu⟩ := Bindings.mem_values.mp hname
  rw [hunder name u hu] at ht
  obtain rfl := Option.some.inj ht
  exact h c u hc hu

include hwf

/-- A match extends a solution by the choice that was made. -/
theorem Solution.extend (h : p.Solution g start done b)
    (hnames : ∀ name ∈ st.vars, bareName name = name)
    (hunify : g.unifyStatement p st e.statement b = some b') :
    p.Solution g start ((st, e.statement) :: done) b' := by
  obtain ⟨-, hunder, hbinds, hfits, hadmits⟩ :=
    Graph.unifyStatement_sound hwf (h.grown hwf) hnames hunify
  refine ⟨fun name t ht => ?_, fun name => ?_, fun w hw => ?_, fun w hw name hname hnew => ?_⟩
  · obtain ⟨u, hu, hkey⟩ := h.below name t ht
    exact ⟨u, hunder name u hu, hkey⟩
  · rw [hbinds, h.binds]
    simp only [List.mem_cons, exists_eq_or_imp, or_assoc]
    rw [or_comm (a := name ∈ st.vars)]
  · rcases List.mem_cons.mp hw with rfl | hw
    · exact hfits
    · exact (h.fits w hw).mono fun name u hmeets => hmeets.mono hunder
  · -- a constraint is tested when its variable is first bound, and holds from then on
    by_cases hb : name ∈ b.values
    · obtain ⟨w', hw', hname'⟩ := ((h.binds name).mp hb).resolve_left hnew
      exact (h.admits w' hw' name hname' hnew).of_under hunder hb
    · rcases List.mem_cons.mp hw with rfl | hw
      · exact hadmits name hname hb
      · exact absurd ((h.binds name).mpr (.inr ⟨w, hw, hname⟩)) hb

theorem Solution.exists_extension (h : p.Solution g start done b)
    (hnames : ∀ name ∈ st.vars, bareName name = name)
    (hclosures : ∀ name c, p.constraint? name = some c → c.Respectful)
    (hgoal : p.Solution g start ws b') (hdone : ∀ w ∈ done, w ∈ ws) (hw : (st, e.statement) ∈ ws) :
    ∃ x, g.unifyStatement p st e.statement b = some x := by
  refine Graph.unifyStatement_complete hwf (h.grown hwf) hnames (h.below_of_subset hgoal hdone)
    (hgoal.fits _ hw) hclosures fun name hname hnew => ?_
  exact hgoal.admits _ hw name hname fun hstart => hnew ((h.binds name).mpr (.inl hstart))

end

/-! ## Every plan gives the answers -/

theorem extensions_eq {g : Graph} {p : Pattern} {chosen : Prepared} {st : Statement}
    (hst : p.statements[chosen.index]? = some st) (b : Bindings) :
    p.extensions g chosen b =
      chosen.candidates.filterMap fun e => g.unifyStatement p st e.statement b := by
  unfold extensions
  rw [hst]

theorem crossings_perm_extended {g : Graph} {p : Pattern} {b b' : Bindings} (h : b.keyed = b'.keyed)
    (hoptional : ∀ o ∈ p.optionals, ((o.eval g (List.range o.size) b).map Bindings.keyed).Perm
      ((o.answers g b).map Bindings.keyed)) :
    ((crossings Bindings.merge b
      (p.optionals.map fun o => o.eval g (List.range o.size) b)).map Bindings.keyed).Perm
      ((p.extended g b').map Bindings.keyed) := by
  rw [extended, crossings_map Bindings.keyed_merge, crossings_map Bindings.keyed_merge, ← h,
    List.map_map, List.map_map]
  refine crossings_perm (fun o ho => ?_) b.keyed
  have hanswers : o.answers g b' = o.answers g b := answers_keyed h.symm
  simp only [Function.comp_apply, hanswers]
  exact hoptional o ho

section
variable {g : Graph} (hwf : g.WellFormed) {p : Pattern} {start b : Bindings} {done : Choice}
  (hsol : p.Solution g start done b)
include hsol

/-- When every statement has its stored one, the answers are what the optional patterns add. -/
theorem Solution.perm_answersWith_nil
    (hoptional : ∀ o ∈ p.optionals, ((o.eval g (List.range o.size) b).map Bindings.keyed).Perm
      ((o.answers g b).map Bindings.keyed)) :
    ((crossings Bindings.merge b
      (p.optionals.map fun o => o.eval g (List.range o.size) b)).map Bindings.keyed).Perm
      ((p.answersWith g start [] done).map Bindings.keyed) := by
  obtain ⟨b', hsome, hsol'⟩ := solution?_eq_some hsol
  have hanswers : p.answersWith g start [] done = p.extended g b' := by
    simp [answersWith, choices, hsome]
  rw [hanswers]
  exact crossings_perm_extended (hsol.keyed_eq hsol') hoptional

include hwf

/-- A choice that the next statement cannot be matched with has no answers. -/
theorem Solution.answersWith_eq_nil (hregular : p.Regular g) {st : Statement} {e : Entry}
    (hst : st ∈ p.statements) (hnone : g.unifyStatement p st e.statement b = none)
    (sts : List Statement) : p.answersWith g start sts ((st, e.statement) :: done) = [] := by
  have hnever : ∀ ws ∈ choices g sts,
      p.solution? g start (ws ++ (st, e.statement) :: done) = none := by
    intro ws _
    refine solution?_eq_none fun goal hgoal => ?_
    obtain ⟨x, hx⟩ := hsol.exists_extension hwf (hregular.names st hst) hregular.closures hgoal
      (fun w hw => List.mem_append_right ws (List.mem_cons_of_mem _ hw))
      (List.mem_append_right ws (List.mem_cons_self ..))
    rw [hnone] at hx
    cases hx
  rw [answersWith, List.filterMap_eq_nil_iff.mpr hnever, List.flatMap_nil]

/-- The bucket that a plan looks in leaves out no choice that has answers. -/
theorem Solution.perm_answersWith_cons (hregular : p.Regular g) {st : Statement}
    (hst : st ∈ p.statements) (index : Nat) (sts : List Statement) {rows : Bindings → List Bindings}
    (hrows : ∀ (e : Entry) (b' : Bindings), g.unifyStatement p st e.statement b = some b' →
      ((rows b').map Bindings.keyed).Perm
        ((p.answersWith g start sts ((st, e.statement) :: done)).map Bindings.keyed)) :
    ((((Prepared.ofStatement g b index st).candidates.filterMap fun e =>
      g.unifyStatement p st e.statement b).flatMap rows).map Bindings.keyed).Perm
      ((p.answersWith g start (st :: sts) done).map Bindings.keyed) := by
  have hcandidates := Graph.candidates_perm hwf (hsol.grown hwf) p (hregular.names st hst)
    (hregular.closed.imp_right fun h => h st hst) index
  refine ((hcandidates.flatMap_right _).map _).trans ?_
  rw [answersWith_cons, List.filterMap_eq_flatMap_toList, List.flatMap_assoc, List.map_flatMap,
    List.map_flatMap]
  refine List.Perm.flatMap_left _ fun e _ => ?_
  cases hunify : g.unifyStatement p st e.statement b with
  | none =>
    rw [hsol.answersWith_eq_nil hwf hregular hst hunify]
    exact .refl _
  | some b' => simpa using hrows e b' hunify

end

/-- However far a plan has come, what it still finds are the answers that go with its choices. -/
theorem eval_perm_answersWith {g : Graph} (hwf : g.WellFormed) (p : Pattern) (remaining : List Nat)
    (b : Bindings) (hregular : ∀ r : Pattern, r.Within p → r.Regular g) {start : Bindings}
    {done : Choice} (hsol : p.Solution g start done b) :
    ((p.eval g remaining b).map Bindings.keyed).Perm
      ((p.answersWith g start (p.statementsAt remaining) done).map Bindings.keyed) := by
  -- along the recursion of the evaluator: the bindings are a solution for the choices made so far
  induction p, remaining, b using Pattern.eval.induct g generalizing start done with
  | case1 p remaining b hplan ih =>
    rw [statementsAt_of_nil hplan, eval_of_nil g hplan]
    refine hsol.perm_answersWith_nil fun o ho => ?_
    have hrest := ih ⟨o, ho⟩ (fun r hr => hregular r (.optional ho hr)) (o.solution_self g b)
    rw [statementsAt_range, answersWith_nil] at hrest
    exact hrest
  | case2 p remaining b chosen others hplan ih =>
    have hhead : chosen ∈ p.prepared g remaining b := by
      rw [hplan]
      exact List.mem_cons_self ..
    obtain ⟨st, hst, hchosen⟩ := mem_prepared hhead
    have hplace : (p.statementsAt remaining).Perm
        (st :: p.statementsAt (others.map Prepared.index)) := by
      have hperm := p.statementsAt_prepared g remaining b
      rw [hplan, List.map_cons, statementsAt, List.filterMap_cons_some hst] at hperm
      exact hperm.symm
    refine List.Perm.trans ?_ ((answersWith_perm hplace done).map _).symm
    rw [eval_of_cons g hplan, extensions_eq hst, hchosen]
    have hself := hregular p (.self p)
    have hmem : st ∈ p.statements := List.mem_of_getElem? hst
    refine hsol.perm_answersWith_cons hwf hself hmem chosen.index _ fun e b' hunify => ?_
    exact ih b' hregular (hsol.extend hwf (hself.names st hmem) hunify)

/-! ## Queries -/

theorem occurrencesIn_eq (ps : List Pattern) : occurrencesIn ps = ps.flatMap occurrences := by
  induction ps with
  | nil => rfl
  | cons p ps ih => rw [occurrencesIn, ih, List.flatMap_cons]

theorem Within.mem_occurrences {r p : Pattern} (h : r.Within p) {st : Statement}
    (hst : st ∈ r.statements) {name : String} (hname : name ∈ st.vars) : name ∈ p.occurrences := by
  induction h with
  | self p =>
    cases p
    rw [occurrences]
    exact List.mem_append_left _ (List.mem_flatMap.mpr ⟨st, hst, hname⟩)
  | @optional o p r ho _ ih =>
    cases p
    rw [occurrences, occurrencesIn_eq]
    exact List.mem_append_right _ (List.mem_flatMap.mpr ⟨o, ho, ih hst⟩)

end Pattern

/-- A query returns the answers of its pattern, each as often as there are choices for it, whatever
order of matching is planned. Unless nothing was merged, no term of the pattern may be a collection
that holds variables. -/
theorem Query.solve_answers {s : Store} (h : s.Reachable) (q : Query) (hfuel : q.maxFuel = none)
    (hnames : ∀ name ∈ q.pattern.occurrences, name.toList.head? ≠ some '?')
    (hclosed : s.graph.Unmerged ∨ ∀ p : Pattern, p.Within q.pattern →
      ∀ st ∈ p.statements, ∀ pos ∈ Prepared.matched, (st.get pos).isOpen = false)
    (hclosures : ∀ p : Pattern, p.Within q.pattern →
      ∀ name c, p.constraint? name = some c → c.Respectful) :
    ∃ n, ∀ rounds ≥ n, ∃ rows, q.solve rounds s = some (.ok rows) ∧
      (rows.map Bindings.keyed).Perm ((q.pattern.answers s.graph q.initial).map Bindings.keyed) := by
  have hregular : ∀ r : Pattern, r.Within q.pattern → r.Regular s.graph := fun r hr =>
    { names := fun st hst name hname => Pattern.bareName_eq (hnames name (hr.mem_occurrences hst hname))
      closures := hclosures r hr
      closed := hclosed.imp_right fun h => h r hr }
  have hperm := Pattern.eval_perm_answersWith h.wellFormed q.pattern (List.range q.pattern.size)
    q.initial hregular (q.pattern.solution_self s.graph q.initial)
  rw [Pattern.statementsAt_range, Pattern.answersWith_nil] at hperm
  obtain ⟨n, hn⟩ := q.solve_eq_rows hfuel s
  exact ⟨n, fun rounds hrounds => ⟨_, hn rounds hrounds, hperm⟩⟩

theorem Constraint.respectful_isNamed : (Constraint.satisfies Term.isNamed).Respectful := by
  intro f hf t u hsame
  obtain rfl := Constraint.satisfies.inj hf
  cases t <;> cases u <;> simp_all [Term.same, Term.isNamed]

theorem Query.solve_answers_optional :
    let s := (Store.ofStatement ⟨.named "a", .named "p", .named "b", .named "g"⟩).equate
      (.named "a") (.named "b")
    let inner := Pattern.empty.add (.var "y") (.named "p") (.var "z")
    let outer := ((Pattern.empty.add (.var "x") (.named "p") (.var "y")).constrain "y"
      (.satisfies Term.isNamed)).addOptional inner
    let q : Query := { pattern := outer }
    s.Reachable ∧ q.maxFuel = none ∧
    (∀ name ∈ q.pattern.occurrences, name.toList.head? ≠ some '?') ∧
    ∃ n, ∀ rounds ≥ n, ∃ rows, q.solve rounds s = some (.ok rows) ∧
      (rows.map Bindings.keyed).Perm ((q.pattern.answers s.graph q.initial).map Bindings.keyed) := by
  intro s inner outer q
  have hs : s.Reachable := (Store.reachable_ofStatement _).equate _ _
  have hnames : ∀ name ∈ q.pattern.occurrences, name.toList.head? ≠ some '?' := by
    have hoccurrences : q.pattern.occurrences = ["x", "y", "y", "z"] := by decide
    rw [hoccurrences]
    decide
  have hwithin : ∀ r : Pattern, r.Within outer → r = outer ∨ r = inner := by
    intro r hr
    cases hr with
    | self => exact .inl rfl
    | optional ho hr =>
      obtain rfl := List.mem_singleton.mp ho
      cases hr with
      | self => exact .inr rfl
      | optional ho _ => exact absurd ho List.not_mem_nil
  have hclosed : ∀ r : Pattern, r.Within outer →
      ∀ st ∈ r.statements, ∀ pos ∈ Prepared.matched, (st.get pos).isOpen = false := by
    intro r hr st hst pos _
    rcases hwithin r hr with rfl | rfl
    · obtain rfl := List.mem_singleton.mp hst
      cases pos <;> rfl
    · obtain rfl := List.mem_singleton.mp hst
      cases pos <;> rfl
  have hclosures : ∀ r : Pattern, r.Within outer →
      ∀ name c, r.constraint? name = some c → c.Respectful := by
    intro r hr name c hc
    rcases hwithin r hr with rfl | rfl
    · obtain ⟨-, rfl⟩ : bareName "y" = name ∧ .satisfies Term.isNamed = c := by
        simpa [outer, Pattern.constraint?, Pattern.constrain, Pattern.addOptional, Pattern.add,
          Pattern.empty, Std.ExtTreeMap.getElem?_insert] using hc
      exact Constraint.respectful_isNamed
    · simp [inner, Pattern.constraint?, Pattern.add, Pattern.empty] at hc
  exact ⟨hs, rfl, hnames, q.solve_answers hs rfl hnames (.inr hclosed) hclosures⟩

end QuadGraph
