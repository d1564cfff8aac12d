import Mathlib.Algebra.BigOperators.Group.List.Basic
import QuadGraph.Proofs.Answers

/-!
# Optional patterns keep what is there

The optional patterns of a query only extend the rows that it has without them: each row becomes a
group of rows, never an empty one, in which nothing that it binds is changed (`Query.returns_groups`).
None of this needs the graph to be well formed.
-/

namespace QuadGraph

/-! ## Names -/

namespace Bindings

theorem mem_merge {a b : Bindings} {name : String} :
    name ∈ (a.merge b).values ↔ name ∈ a.values ∨ name ∈ b.values := by
  rw [merge, Std.ExtTreeMap.mem_union_iff]

theorem Under.merge {b b' : Bindings} (h : b.Under b') (a : Bindings) : b.Under (a.merge b') := by
  intro name t ht
  rw [getElem?_merge, h name t ht, Option.some_or]

theorem Under.mem {b b' : Bindings} (h : b.Under b') {name : String} (hname : name ∈ b.values) :
    name ∈ b'.values := by
  obtain ⟨t, ht⟩ := mem_values.mp hname
  exact mem_values.mpr ⟨t, h name t ht⟩

structure Binds (vars : List String) (b b' : Bindings) : Prop where
  under : b.Under b'
  names : ∀ name, name ∈ b'.values ↔ name ∈ b.values ∨ name ∈ vars

theorem Binds.refl {vars : List String} {b : Bindings} (h : ∀ name ∈ vars, name ∈ b.values) :
    Binds vars b b where
  under := fun _ _ ht => ht
  names := fun name => (or_iff_left_of_imp (h name)).symm

theorem Binds.trans {vars vars' : List String} {a b c : Bindings} (h : Binds vars a b)
    (h' : Binds vars' b c) : Binds (vars ++ vars') a c where
  under := fun name t ht => h'.under name t (h.under name t ht)
  names := fun name => by rw [h'.names, h.names, List.mem_append, or_assoc]

theorem binds_bind {b : Bindings} {name : String} (h : b.values[name]? = none) (t : Term) :
    Binds [name] b (b.bind name t) where
  under := by
    intro n u hu
    have hne : name ≠ n := by
      rintro rfl
      rw [h] at hu
      cases hu
    rw [getElem?_bind, if_neg hne]
    exact hu
  names := fun n => by rw [mem_bind, List.mem_singleton]

end Bindings

namespace Graph

open Bindings (Binds)

/-- A term without variables is only compared, so nothing is bound by it. -/
theorem binds_of_alike {g : Graph} {t u : Term} {vars : List String} {x y : Extension}
    (hvars : ∀ name ∈ vars, name ∈ x.1.values)
    (h : (if g.alike t u = true then some x else none) = some y) : Binds vars x.1 y.1 := by
  rw [Option.ite_none_right_eq_some] at h
  obtain rfl := Option.some.inj h.2
  exact .refl hvars

mutual

theorem unifyTerm_binds {g : Graph} : ∀ {t u : Term} {x y : Extension},
    (∀ name ∈ t.vars, bareName name = name) → g.unifyTerm t u x = some y → Binds t.vars x.1 y.1
  | .var name, u, (b, bound), y, hnames, h => by
    rw [unifyTerm, Bindings.get?_eq (hnames name (List.mem_singleton_self name))] at h
    cases hget : b.values[name]? with
    | none =>
      rw [hget] at h
      obtain rfl := Option.some.inj h
      exact Bindings.binds_bind hget (g.canon u)
    | some t =>
      rw [hget] at h
      refine binds_of_alike (fun n hn => ?_) h
      rw [List.mem_singleton.mp hn]
      exact Bindings.mem_values.mpr ⟨t, hget⟩
  | .collection items, u, x, y, hnames, h => by
    by_cases hopen : Term.anyVariable items = true
    · obtain ⟨others, -, hitems⟩ := (unifyTerm_open hopen).mp h
      exact unifyItems_binds hnames hitems
    · rw [unifyTerm_closed hopen] at h
      exact binds_of_alike (fun name hname => absurd (anyVariable_of_mem hname) hopen) h
  | .named _, _, _, _, _, h => binds_of_alike (fun _ hn => absurd hn List.not_mem_nil) h
  | .blank _, _, _, _, _, h => binds_of_alike (fun _ hn => absurd hn List.not_mem_nil) h
  | .literal _, _, _, _, _, h => binds_of_alike (fun _ hn => absurd hn List.not_mem_nil) h
  | .formula _, _, _, _, _, h => binds_of_alike (fun _ hn => absurd hn List.not_mem_nil) h

theorem unifyItems_binds {g : Graph} : ∀ {ts us : List Term} {x y : Extension},
    (∀ name ∈ Term.varsOf ts, bareName name = name) → g.unifyItems ts us x = some y →
    Binds (Term.varsOf ts) x.1 y.1
  | [], [], _, _, _, h => by
    obtain rfl := Option.some.inj h
    exact .refl fun _ hn => absurd hn List.not_mem_nil
  | [], _ :: _, _, _, _, h => by cases h
  | _ :: _, [], _, _, _, h => by cases h
  | _ :: _, _ :: _, _, _, hnames, h => by
    rw [unifyItems, Option.bind_eq_some_iff] at h
    obtain ⟨y, hy, hz⟩ := h
    have hfirst := unifyTerm_binds (fun name hname => hnames name (List.mem_append_left _ hname)) hy
    have hothers := unifyItems_binds (fun name hname => hnames name (List.mem_append_right _ hname)) hz
    exact hfirst.trans hothers

end

theorem unifyStatement_binds {g : Graph} {p : Pattern} {st found : Statement} {b b' : Bindings}
    (hnames : ∀ name ∈ st.vars, bareName name = name)
    (h : g.unifyStatement p st found b = some b') : Binds st.vars b b' := by
  have hvars : st.vars = st.subject.vars ++ st.predicate.vars ++ st.object.vars := rfl
  simp only [unifyStatement, Option.bind_eq_bind, Option.bind_eq_some_iff] at h
  obtain ⟨x, hx, y, hy, z, hz, h⟩ := h
  rw [Option.ite_none_right_eq_some] at h
  obtain rfl := Option.some.inj h.2
  have hsubject := unifyTerm_binds (fun name hname => hnames name (by simp [hvars, hname])) hx
  have hpredicate := unifyTerm_binds (fun name hname => hnames name (by simp [hvars, hname])) hy
  have hobject := unifyTerm_binds (fun name hname => hnames name (by simp [hvars, hname])) hz
  exact (hsubject.trans hpredicate).trans hobject

end Graph

/-! ## Combinations -/

section
variable {α : Type} {merge : α → α → α}

theorem crossings_ne_nil (a : α) (rss : List (List α)) : crossings merge a rss ≠ [] := by
  induction rss generalizing a with
  | nil => exact List.cons_ne_nil _ _
  | cons rs rss ih =>
    cases rs with
    | nil => exact ih a
    | cons r rs =>
      rw [crossings, List.flatMap_cons]
      exact List.append_ne_nil_of_left_ne_nil (ih _) _

/-- There is a combination for each choice of a solution; a list without solutions counts as one. -/
theorem length_crossings (a : α) (rss : List (List α)) :
    (crossings merge a rss).length = (rss.map fun rs => max 1 rs.length).prod := by
  induction rss generalizing a with
  | nil => rfl
  | cons rs rss ih =>
    rw [List.map_cons, List.prod_cons]
    cases rs with
    | nil => rw [crossings_nil_cons, ih, List.length_nil, Nat.max_zero, Nat.one_mul]
    | cons r rs =>
      have hpos : 1 ≤ (r :: rs).length := Nat.succ_pos _
      rw [crossings, List.length_flatMap, Nat.max_eq_right hpos]
      simp only [ih, List.map_const', List.sum_replicate_nat]

/-- What merging a solution keeps holds of every combination. -/
theorem forall_mem_crossings {P : α → Prop} {a : α} {rss : List (List α)} (ha : P a)
    (hmerge : ∀ rs ∈ rss, ∀ r ∈ rs, ∀ a, P a → P (merge a r)) :
    ∀ x ∈ crossings merge a rss, P x := by
  induction rss generalizing a with
  | nil =>
    intro x hx
    rw [List.mem_singleton.mp hx]
    exact ha
  | cons rs rss ih =>
    have hrest : ∀ rs' ∈ rss, ∀ r ∈ rs', ∀ a, P a → P (merge a r) :=
      fun rs' hrs' => hmerge rs' (List.mem_cons_of_mem rs hrs')
    intro x hx
    by_cases hnil : rs = []
    · rw [hnil, crossings_nil_cons] at hx
      exact ih ha hrest x hx
    · rw [crossings_cons merge hnil] at hx
      obtain ⟨r, hr, hx⟩ := List.mem_flatMap.mp hx
      exact ih (hmerge rs (List.mem_cons_self ..) r hr a ha) hrest x hx

end

namespace Pattern

/-! ## What a row binds -/

structure Completes (p : Pattern) (sts : List Statement) (b row : Bindings) : Prop where
  under : b.Under row
  binds : ∀ st ∈ sts, ∀ name ∈ st.vars, name ∈ row.values
  names : ∀ name ∈ row.values, name ∈ b.values ∨ name ∈ p.occurrences

theorem mem_occurrences_statement {p : Pattern} {st : Statement} (hst : st ∈ p.statements)
    {name : String} (hname : name ∈ st.vars) : name ∈ p.occurrences :=
  (Within.self p).mem_occurrences hst hname

theorem mem_occurrences_optional {p o : Pattern} (ho : o ∈ p.optionals) {name : String}
    (hname : name ∈ o.occurrences) : name ∈ p.occurrences := by
  cases p
  rw [occurrences, occurrencesIn_eq]
  exact List.mem_append_right _ (List.mem_flatMap.mpr ⟨o, ho, hname⟩)

section
variable {g : Graph} {p : Pattern} {b b' row : Bindings}

theorem Completes.after {st : Statement} {sts : List Statement} (h : p.Completes sts b' row)
    (hst : st ∈ p.statements) (hbinds : Bindings.Binds st.vars b b') :
    p.Completes (st :: sts) b row where
  under := fun name t ht => h.under name t (hbinds.under name t ht)
  binds := by
    intro st' hst' name hname
    rcases List.mem_cons.mp hst' with rfl | hst'
    · exact h.under.mem ((hbinds.names name).mpr (.inr hname))
    · exact h.binds st' hst' name hname
  names := by
    intro name hname
    rcases h.names name hname with hname | hname
    · exact ((hbinds.names name).mp hname).imp_right (mem_occurrences_statement hst)
    · exact .inr hname

theorem Completes.of_perm {sts sts' : List Statement} (h : p.Completes sts b row)
    (hperm : sts.Perm sts') : p.Completes sts' b row where
  under := h.under
  binds := fun st hst => h.binds st (hperm.mem_iff.mpr hst)
  names := h.names

/-- Solutions of the optional patterns only add to the bindings that they extend. -/
theorem completes_crossings (hoptionals : ∀ o ∈ p.optionals, ∀ row ∈ o.rows g b,
      o.Completes o.statements b row) :
    ∀ row ∈ crossings Bindings.merge b (p.optionals.map fun o => o.rows g b), p.Completes [] b row := by
  refine forall_mem_crossings (P := p.Completes [] b) ?_ fun rs hrs r hr a ha => ?_
  · exact ⟨fun _ _ ht => ht, nofun, fun _ hname => .inl hname⟩
  · obtain ⟨o, ho, rfl⟩ := List.mem_map.mp hrs
    have hrow := hoptionals o ho r hr
    refine ⟨hrow.under.merge a, nofun, fun name hname => ?_⟩
    rcases Bindings.mem_merge.mp hname with hname | hname
    · exact ha.names name hname
    · exact (hrow.names name hname).imp_right (mem_occurrences_optional ho)

theorem eval_completes (g : Graph) (p : Pattern) (remaining : List Nat) (b : Bindings)
    (hnames : ∀ name ∈ p.occurrences, bareName name = name) :
    ∀ row ∈ p.eval g remaining b, p.Completes (p.statementsAt remaining) b row := by
  induction p, remaining, b using Pattern.eval.induct g with
  | case1 p remaining b hplan ih =>
    rw [statementsAt_of_nil hplan, eval_of_nil g hplan]
    refine completes_crossings fun o ho row hrow => ?_
    have hrest := ih ⟨o, ho⟩ (fun name hname => hnames name (mem_occurrences_optional ho hname)) row hrow
    rw [statementsAt_range] at hrest
    exact hrest
  | case2 p remaining b chosen others hplan ih =>
    have hhead : chosen ∈ p.prepared g remaining b := by
      rw [hplan]
      exact List.mem_cons_self ..
    obtain ⟨st, hst, -⟩ := mem_prepared hhead
    have hmem : st ∈ p.statements := List.mem_of_getElem? hst
    have hplace := p.statementsAt_prepared g remaining b
    rw [hplan, List.map_cons, statementsAt, List.filterMap_cons_some hst] at hplace
    intro row hrow
    rw [eval_of_cons g hplan, extensions_eq hst] at hrow
    obtain ⟨b', hb', hrow⟩ := List.mem_flatMap.mp hrow
    obtain ⟨e, -, hunify⟩ := List.mem_filterMap.mp hb'
    have hbinds := Graph.unifyStatement_binds
      (fun name hname => hnames name (mem_occurrences_statement hmem hname)) hunify
    exact ((ih b' hnames row hrow).after hmem hbinds).of_perm hplace

theorem rows_completes (g : Graph) (p : Pattern) (b : Bindings)
    (hnames : ∀ name ∈ p.occurrences, bareName name = name) :
    ∀ row ∈ p.rows g b, p.Completes p.statements b row := by
  have h := p.eval_completes g (List.range p.size) b hnames
  rw [statementsAt_range] at h
  exact h

end

/-! ## Trunks -/

def withoutOptionals (p : Pattern) : Pattern := { p with optionals := [] }

theorem extensions_withoutOptionals (g : Graph) (p : Pattern) (chosen : Prepared) (b : Bindings) :
    p.withoutOptionals.extensions g chosen b = p.extensions g chosen b := rfl

/-- The solutions of a pattern are those of its statements, each extended on its own. -/
theorem eval_eq_flatMap (g : Graph) (p : Pattern) (remaining : List Nat) (b : Bindings) :
    p.eval g remaining b = (p.withoutOptionals.eval g remaining b).flatMap fun trunk =>
      crossings Bindings.merge trunk (p.optionals.map fun o => o.rows g trunk) := by
  induction p, remaining, b using Pattern.eval.induct g with
  | case1 p remaining b hplan _ =>
    have hplan' : p.withoutOptionals.prepared g remaining b = [] := hplan
    have htrunk : p.withoutOptionals.eval g remaining b = [b] := eval_of_nil g hplan'
    rw [eval_of_nil g hplan, htrunk, List.flatMap_singleton]
    rfl
  | case2 p remaining b chosen others hplan ih =>
    have hplan' : p.withoutOptionals.prepared g remaining b = chosen :: others := hplan
    rw [eval_of_cons g hplan, eval_of_cons g hplan', extensions_withoutOptionals, List.flatMap_assoc]
    exact List.flatMap_congr fun b' _ => ih b'

end Pattern

/-! ## Queries -/

def Query.withoutOptionals (q : Query) : Query := { q with pattern := q.pattern.withoutOptionals }

/-- What optional patterns make of one row: rows that keep what it binds, at least one, and as many
as there are choices of a solution for each pattern that has any. -/
structure Group (s : Store) (optionals : List Pattern) (trunk : Bindings) (rows : List Bindings) :
    Prop where
  inhabited : rows ≠ []
  keeps : ∀ row ∈ rows, trunk.Under row
  size : ∃ results : List (List Bindings),
    List.Forall₂ (fun o result => Query.Returns { pattern := o, initial := trunk } s result)
      optionals results ∧
    rows.length = (results.map fun result => max 1 result.length).prod

theorem group_crossings {s : Store} {p : Pattern} {trunk : Bindings}
    (hnames : ∀ name ∈ p.occurrences, bareName name = name) :
    Group s p.optionals trunk
      (crossings Bindings.merge trunk (p.optionals.map fun o => o.rows s.graph trunk)) where
  inhabited := crossings_ne_nil _ _
  keeps := by
    intro row hrow
    have hoptionals : ∀ o ∈ p.optionals, ∀ row ∈ o.rows s.graph trunk,
        o.Completes o.statements trunk row := fun o ho =>
      o.rows_completes s.graph trunk fun name hname =>
        hnames name (Pattern.mem_occurrences_optional ho hname)
    exact (Pattern.completes_crossings hoptionals row hrow).under
  size := by
    refine ⟨p.optionals.map fun o => o.rows s.graph trunk, ?_, length_crossings _ _⟩
    rw [List.forall₂_map_right_iff, List.forall₂_same]
    exact fun o _ => Query.returns_rows { pattern := o, initial := trunk } rfl s

/-- The rows of a query are those that it has without its optional patterns, in that order, each made
into a group of its own; and every row binds the variables of the statements and what was bound from
the start, and no other name but variables of the pattern. -/
theorem Query.returns_groups (q : Query) (hfuel : q.maxFuel = none)
    (hnames : ∀ name ∈ q.pattern.occurrences, name.toList.head? ≠ some '?') (s : Store) :
    ∃ trunks groups, q.withoutOptionals.Returns s trunks ∧ q.Returns s groups.flatten ∧
      List.Forall₂ (Group s q.pattern.optionals) trunks groups ∧
      ∀ row ∈ groups.flatten,
        (∀ st ∈ q.pattern.statements, ∀ name ∈ st.vars, name ∈ row.values) ∧
        (∀ name ∈ q.initial.values, name ∈ row.values) ∧
        ∀ name ∈ row.values, name ∈ q.pattern.vars ∨ name ∈ q.initial.values := by
  have hbare : ∀ name ∈ q.pattern.occurrences, bareName name = name :=
    fun name hname => Pattern.bareName_eq (hnames name hname)
  let extend := fun trunk =>
    crossings Bindings.merge trunk (q.pattern.optionals.map fun o => o.rows s.graph trunk)
  let trunks := q.pattern.withoutOptionals.rows s.graph q.initial
  have hrows : (trunks.map extend).flatten = q.pattern.rows s.graph q.initial :=
    (q.pattern.eval_eq_flatMap s.graph (List.range q.pattern.size) q.initial).symm
  refine ⟨trunks, trunks.map extend, ?_, ?_, ?_, fun row hrow => ?_⟩
  · have hfuel' : q.withoutOptionals.maxFuel = none := hfuel
    exact q.withoutOptionals.returns_rows hfuel' s
  · rw [hrows]
    exact q.returns_rows hfuel s
  · rw [List.forall₂_map_right_iff, List.forall₂_same]
    exact fun trunk _ => group_crossings hbare
  · rw [hrows] at hrow
    have hcompletes := q.pattern.rows_completes s.graph q.initial hbare row hrow
    refine ⟨hcompletes.binds, fun name hname => hcompletes.under.mem hname, fun name hname => ?_⟩
    refine (hcompletes.names name hname).symm.imp_left fun hname => ?_
    rw [Pattern.vars, List.mem_eraseDups, List.mem_mergeSort]
    exact hname

theorem Query.returns_groups_nested :
    let s := Store.ofStatement ⟨.named "a", .named "p", .named "b", .named "g"⟩
    let innermost := Pattern.empty.add (.var "z") (.named "p") (.var "u")
    let inner := (Pattern.empty.add (.var "x") (.named "p") (.var "z")).addOptional innermost
    let outer := (Pattern.empty.add (.var "x") (.named "p") (.var "y")).addOptional inner
    let q : Query := { pattern := outer }
    q.maxFuel = none ∧ (∀ name ∈ q.pattern.occurrences, name.toList.head? ≠ some '?') ∧
    ∃ trunks groups, q.withoutOptionals.Returns s trunks ∧ q.Returns s groups.flatten ∧
      List.Forall₂ (Group s q.pattern.optionals) trunks groups ∧
      ∀ row ∈ groups.flatten,
        (∀ st ∈ q.pattern.statements, ∀ name ∈ st.vars, name ∈ row.values) ∧
        (∀ name ∈ q.initial.values, name ∈ row.values) ∧
        ∀ name ∈ row.values, name ∈ q.pattern.vars ∨ name ∈ q.initial.values := by
  intro s innermost inner outer q
  have hnames : ∀ name ∈ q.pattern.occurrences, name.toList.head? ≠ some '?' := by
    have hoccurrences : q.pattern.occurrences = ["x", "y", "x", "z", "z", "u"] := by decide
    rw [hoccurrences]
    decide
  exact ⟨rfl, hnames, q.returns_groups rfl hnames s⟩

end QuadGraph
