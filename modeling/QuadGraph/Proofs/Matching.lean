import QuadGraph.Proofs.Reachable
import QuadGraph.Proofs.Selections

/-!
# Matching binds no more than it must

When a term of a pattern is matched with a stored one, each of its variables meets parts of the
stored term (`Term.meetings`). Matching keeps what was bound, and binds every other variable to the
term that stands for the first part that it meets (`unifyTerm_assigns`). So a statement matches just
when some extension of the bindings makes it fit and those terms pass the constraints; and whatever
else makes it fit binds the variables to terms alike (`unify_most_general`).
-/

namespace QuadGraph

/-! ## Meetings -/

namespace Term

mutual

/-- The variables of a pattern term, in the order in which they are come across, with the parts of a
stored term that they meet. -/
def meetings : Term → Term → List (String × Term)
  | .var name, u => [(name, u)]
  | .collection items, .collection others => meetingsAll items others
  | _, _ => []

def meetingsAll : List Term → List Term → List (String × Term)
  | t :: ts, u :: us => t.meetings u ++ meetingsAll ts us
  | _, _ => []

end

mutual

theorem fst_mem_vars : ∀ {t u : Term} {x : String × Term}, x ∈ t.meetings u → x.1 ∈ t.vars
  | .var name, u, x, h => by
    rw [meetings, List.mem_singleton] at h
    rw [h, vars]
    exact List.mem_singleton_self name
  | .collection items, u, x, h => by
    cases u with
    | collection others =>
      rw [meetings] at h
      exact fst_mem_varsOf h
    | _ => cases h
  | .named _, _, _, h => by cases h
  | .blank _, _, _, h => by cases h
  | .literal _, _, _, h => by cases h
  | .formula _, _, _, h => by cases h

theorem fst_mem_varsOf : ∀ {ts us : List Term} {x : String × Term},
    x ∈ meetingsAll ts us → x.1 ∈ varsOf ts
  | [], _, _, h => by cases h
  | _ :: _, [], _, h => by cases h
  | t :: ts, u :: us, x, h => by
    rw [meetingsAll, List.mem_append] at h
    rw [varsOf, List.mem_append]
    exact h.imp fst_mem_vars fst_mem_varsOf

end

/-- Nothing is met where there is no variable. -/
theorem meetings_of_closed {items : List Term} (h : ¬ anyVariable items = true) (u : Term) :
    (collection items).meetings u = [] := by
  rw [List.eq_nil_iff_forall_not_mem]
  intro x hx
  exact h (Graph.anyVariable_of_mem (fst_mem_vars hx))

end Term

/-- What a variable meets first is one of the things met. -/
theorem Term.mem_of_lookup {ms : List (String × Term)} {name : String} {u : Term}
    (h : ms.lookup name = some u) : (name, u) ∈ ms := by
  obtain ⟨before, after, rfl, -⟩ := List.lookup_eq_some_iff.mp h
  exact List.mem_append_cons_self

def Quad.meetings (st found : Statement) : List (String × Term) :=
  st.subject.meetings found.subject ++ st.predicate.meetings found.predicate ++
    st.object.meetings found.object

theorem Quad.fst_mem_vars {st found : Statement} {x : String × Term} (h : x ∈ st.meetings found) :
    x.1 ∈ st.vars := by
  rw [meetings, List.mem_append, List.mem_append] at h
  rw [vars, List.mem_append, List.mem_append]
  exact h.imp (Or.imp Term.fst_mem_vars Term.fst_mem_vars) Term.fst_mem_vars

namespace Graph

mutual

theorem Fits.meets {g : Graph} {meets : String → Term → Prop} :
    ∀ {t u : Term}, g.Fits meets t u → ∀ x ∈ t.meetings u, meets x.1 x.2
  | .var name, u, hfits, x, hx => by
    rw [Term.meetings, List.mem_singleton] at hx
    rw [hx]
    exact hfits
  | .collection items, u, hfits, x, hx => by
    have hopen : Term.anyVariable items = true := anyVariable_of_mem (Term.fst_mem_vars hx)
    rw [Fits, if_pos hopen] at hfits
    obtain ⟨others, rfl, hall⟩ := hfits
    exact FitsAll.meets hall x hx
  | .named _, _, _, _, hx => by cases hx
  | .blank _, _, _, _, hx => by cases hx
  | .literal _, _, _, _, hx => by cases hx
  | .formula _, _, _, _, hx => by cases hx

theorem FitsAll.meets {g : Graph} {meets : String → Term → Prop} :
    ∀ {ts us : List Term}, g.FitsAll meets ts us → ∀ x ∈ Term.meetingsAll ts us, meets x.1 x.2
  | [], _, _, _, hx => by cases hx
  | _ :: _, [], _, _, hx => by cases hx
  | t :: ts, u :: us, hfits, x, hx => by
    rw [Term.meetingsAll, List.mem_append] at hx
    rcases hx with hx | hx
    · exact Fits.meets hfits.1 x hx
    · exact FitsAll.meets hfits.2 x hx

end

theorem FitsStatement.meets {g : Graph} {meets : String → Term → Prop} {st found : Statement}
    (h : g.FitsStatement meets st found) : ∀ x ∈ st.meetings found, meets x.1 x.2 := by
  intro x hx
  rw [Quad.meetings, List.mem_append, List.mem_append] at hx
  rcases hx with (hx | hx) | hx
  · exact h.1.meets x hx
  · exact h.2.1.meets x hx
  · exact h.2.2.meets x hx

/-! ## What matching binds -/

/-- What was bound stays, and any other variable is bound to the term that stands for the first part
that it meets. -/
def Assigns (g : Graph) (ms : List (String × Term)) (x y : Extension) : Prop :=
  ∀ name : String, y.1.values[name]? = (x.1.values[name]?).or ((ms.lookup name).map g.canon)

section
variable {g : Graph} {ms ms' : List (String × Term)} {x y z : Extension}

theorem Assigns.refl (g : Graph) (x : Extension) : g.Assigns [] x x := by
  intro name
  simp

theorem Assigns.trans (h : g.Assigns ms x y) (h' : g.Assigns ms' y z) :
    g.Assigns (ms ++ ms') x z := by
  intro name
  rw [h' name, h name, List.lookup_append, Option.map_or, Option.or_assoc]

theorem assigns_of_alike {t u : Term} (h : (if g.alike t u = true then some x else none) = some y) :
    g.Assigns [] x y := by
  obtain ⟨-, h⟩ := Option.ite_none_right_eq_some.mp h
  obtain rfl := Option.some.inj h
  exact .refl g x

theorem assigns_bind {b : Bindings} {bound : List String} {name : String} (u : Term)
    (hnone : b.values[name]? = none) :
    g.Assigns [(name, u)] (b, bound) (b.bind name (g.canon u), bound ++ [name]) := by
  intro n
  rw [Bindings.getElem?_bind]
  by_cases hn : name = n
  · subst hn
    simp [hnone]
  · have hne : (n == name) = false := beq_eq_false_iff_ne.mpr (Ne.symm hn)
    simp [hn, hne, List.lookup_cons]

theorem assigns_of_bound {b : Bindings} {bound : List String} {name : String} {t : Term} (u : Term)
    (ht : b.values[name]? = some t) : g.Assigns [(name, u)] (b, bound) (b, bound) := by
  intro n
  by_cases hn : n = name
  · subst hn
    simp [ht]
  · have hne : (n == name) = false := beq_eq_false_iff_ne.mpr hn
    simp [hne, List.lookup_cons]

end

mutual

theorem unifyTerm_assigns {g : Graph} : ∀ {t u : Term} {x y : Extension},
    (∀ name ∈ t.vars, bareName name = name) → g.unifyTerm t u x = some y →
    g.Assigns (t.meetings u) x y
  | .var name, u, (b, bound), y, hnames, h => by
    rw [unifyTerm, Bindings.get?_eq (hnames name (List.mem_singleton_self name))] at h
    cases hget : b.values[name]? with
    | none =>
      rw [hget] at h
      obtain rfl := Option.some.inj h
      exact assigns_bind u hget
    | some t =>
      rw [hget] at h
      obtain ⟨-, h⟩ := Option.ite_none_right_eq_some.mp h
      obtain rfl := Option.some.inj h
      exact assigns_of_bound u hget
  | .collection items, u, x, y, hnames, h => by
    by_cases hopen : Term.anyVariable items = true
    · obtain ⟨others, rfl, hitems⟩ := (unifyTerm_open hopen).mp h
      exact unifyItems_assigns hnames hitems
    · rw [Term.meetings_of_closed hopen]
      rw [unifyTerm_closed hopen] at h
      exact assigns_of_alike h
  | .named _, u, x, y, _, h => assigns_of_alike h
  | .blank _, u, x, y, _, h => assigns_of_alike h
  | .literal _, u, x, y, _, h => assigns_of_alike h
  | .formula _, u, x, y, _, h => assigns_of_alike h

theorem unifyItems_assigns {g : Graph} : ∀ {ts us : List Term} {x y : Extension},
    (∀ name ∈ Term.varsOf ts, bareName name = name) → g.unifyItems ts us x = some y →
    g.Assigns (Term.meetingsAll ts us) x y
  | [], [], x, y, _, h => by
    obtain rfl := Option.some.inj h
    exact .refl g x
  | [], _ :: _, _, _, _, h => by cases h
  | _ :: _, [], _, _, _, h => by cases h
  | t :: ts, u :: us, x, z, hnames, h => by
    rw [unifyItems, Option.bind_eq_some_iff] at h
    obtain ⟨y, hy, hz⟩ := h
    exact (unifyTerm_assigns (fun name hname => hnames name (List.mem_append_left _ hname)) hy).trans
      (unifyItems_assigns (fun name hname => hnames name (List.mem_append_right _ hname)) hz)

end

theorem Unifies.assigns {g : Graph} {st found : Statement} {b : Bindings} {z : Extension}
    (hnames : ∀ name ∈ st.vars, bareName name = name) (h : g.Unifies st found b z) :
    g.Assigns (st.meetings found) (b, []) z := by
  have hvars : st.vars = st.subject.vars ++ st.predicate.vars ++ st.object.vars := rfl
  obtain ⟨x, y, hx, hy, hz⟩ := h
  have hsubject := unifyTerm_assigns (fun name hname => hnames name (by simp [hvars, hname])) hx
  have hpredicate := unifyTerm_assigns (fun name hname => hnames name (by simp [hvars, hname])) hy
  have hobject := unifyTerm_assigns (fun name hname => hnames name (by simp [hvars, hname])) hz
  exact (hsubject.trans hpredicate).trans hobject

end Graph

/-! ## Constraints on what is met -/

/-- The terms that stand for what the new variables meet pass the constraints on them. A variable that
is met again is tested once, where it is met first. -/
def Pattern.AdmitsMet (p : Pattern) (g : Graph) (b : Bindings) (ms : List (String × Term)) : Prop :=
  ∀ name c u, name ∉ b.values → ms.lookup name = some u → p.constraint? name = some c →
    c.test (g.canon u) = true

namespace Graph

theorem Assigns.eq_of_new {g : Graph} {ms : List (String × Term)} {b : Bindings} {bound : List String}
    {z : Extension} (h : g.Assigns ms (b, bound) z) {name : String} (hnew : name ∉ b.values) :
    z.1.values[name]? = (ms.lookup name).map g.canon := by
  rw [h name, Std.ExtTreeMap.getElem?_eq_none hnew, Option.none_or]

section
variable {g : Graph} (hwf : g.WellFormed) {p : Pattern} {st found : Statement} {b : Bindings}
  (hnames : ∀ name ∈ st.vars, bareName name = name)
include hwf hnames

theorem Unifies.all_passes_iff_met {z : Extension} (h : g.Unifies st found b z) :
    z.2.all (passes p z.1) = true ↔ p.AdmitsMet g b (st.meetings found) := by
  have hassigns := h.assigns hnames
  rw [h.all_passes_iff hwf (grown_self g b) hnames]
  constructor
  · intro hadmits name c u hnew hmet hc
    have hname : name ∈ st.vars := Quad.fst_mem_vars (Term.mem_of_lookup hmet)
    refine hadmits name hname hnew c (g.canon u) hc ?_
    rw [hassigns.eq_of_new hnew, hmet, Option.map_some]
  · intro hadmits name _ hnew c t hc ht
    rw [hassigns.eq_of_new hnew, Option.map_eq_some_iff] at ht
    obtain ⟨u, hmet, rfl⟩ := ht
    exact hadmits name c u hnew hmet hc

theorem unifyStatement_eq_some_iff {out : Bindings} :
    g.unifyStatement p st found b = some out ↔ p.AdmitsMet g b (st.meetings found) ∧
      ∃ z, g.Unifies st found b z ∧ z.1 = out := by
  rw [unifyStatement_eq_some]
  constructor
  · rintro ⟨z, hz, hall, rfl⟩
    exact ⟨(hz.all_passes_iff_met hwf hnames).mp hall, z, hz, rfl⟩
  · rintro ⟨hadmits, z, hz, rfl⟩
    exact ⟨z, hz, (hz.all_passes_iff_met hwf hnames).mpr hadmits, rfl⟩

/-- Terms can be matched in turn just when some extension makes the statement fit. -/
theorem exists_unifies_iff : (∃ z, g.Unifies st found b z) ↔
    ∃ ext : Bindings, b.Under ext ∧ g.FitsStatement (g.Stands ext) st found := by
  constructor
  · rintro ⟨z, hz⟩
    obtain ⟨hext, hfits⟩ := hz.sound hwf (grown_self g b) hnames
    exact ⟨z.1, hext.under, hfits.mono fun _ _ hmeets => hmeets.stands hwf⟩
  · rintro ⟨ext, hunder, hfits⟩
    have hgoal : g.FitsStatement (g.Meets b (g.overlay b ext)) st found := by
      refine hfits.mono fun name u hstands => hstands.meets_overlay fun t ht => ?_
      obtain ⟨v, hv, halike⟩ := hstands
      rw [hunder name t ht] at hv
      obtain rfl := Option.some.inj hv
      exact halike
    obtain ⟨z, hz, -⟩ := exists_unifies hwf (grown_self g b) hnames
      (below_of_under (under_overlay g b ext)) hgoal
    exact ⟨z, hz⟩

/-- Whatever else makes the statement fit binds its variables to terms alike. -/
theorem Unifies.alike {z : Extension} (h : g.Unifies st found b z) {ext : Bindings}
    (hunder : b.Under ext) (hfits : g.FitsStatement (g.Stands ext) st found) {name : String}
    (hname : name ∈ st.vars) : ∃ t u, z.1.values[name]? = some t ∧ ext.values[name]? = some u ∧
      g.alike t u = true := by
  obtain ⟨hext, -⟩ := h.sound hwf (grown_self g b) hnames
  obtain ⟨t, ht⟩ := Bindings.mem_values.mp ((hext.binds name).mpr (.inr hname))
  cases hb : b.values[name]? with
  | some v =>
    have hz := hext.under name v hb
    exact ⟨v, v, hz, hunder name v hb, beq_self_eq_true _⟩
  | none =>
    -- both stand for what the variable meets first
    have hz := (h.assigns hnames).eq_of_new (Bindings.not_mem_values hb)
    rw [ht] at hz
    obtain ⟨u, hmet, rfl⟩ := Option.map_eq_some_iff.mp hz.symm
    obtain ⟨v, hv, halike⟩ := hfits.meets (name, u) (Term.mem_of_lookup hmet)
    refine ⟨g.canon u, v, ht, hv, ?_⟩
    rw [Graph.alike, canonKey_canon hwf, beq_iff_eq]
    exact (beq_iff_eq.mp halike).symm

end

end Graph

/-! ## The main result -/

/-- Matching a statement with a stored one succeeds just when some extension of the bindings makes it
fit and the terms that stand for what its new variables meet pass their constraints. It then keeps
all that was bound, binds just the other variables of the statement, each to the term that stands for
what it meets first, and makes the statement fit; and to whatever another extension binds a variable
so that the statement fits, that term is like the one bound here. -/
theorem Store.Reachable.unify_most_general {s : Store} (h : s.Reachable) (p : Pattern)
    (st found : Statement) (b : Bindings) (hnames : ∀ name ∈ st.vars, name.toList.head? ≠ some '?') :
    ((∃ out, s.graph.unifyStatement p st found b = some out) ↔
      ∃ ext : Bindings, b.Under ext ∧ s.graph.FitsStatement (s.graph.Stands ext) st found ∧
        p.AdmitsMet s.graph b (st.meetings found)) ∧
    ∀ out, s.graph.unifyStatement p st found b = some out →
      b.Under out ∧ s.graph.FitsStatement (s.graph.Stands out) st found ∧
      (∀ name, name ∈ out.values ↔ name ∈ b.values ∨ name ∈ st.vars) ∧
      (∀ name, name ∉ b.values →
        out.values[name]? = ((st.meetings found).lookup name).map s.graph.canon) ∧
      ∀ ext : Bindings, b.Under ext → s.graph.FitsStatement (s.graph.Stands ext) st found →
        ∀ name ∈ st.vars, ∃ t u, out.values[name]? = some t ∧ ext.values[name]? = some u ∧
          s.graph.alike t u = true := by
  have hwf := h.wellFormed
  have hbare : ∀ name ∈ st.vars, bareName name = name := fun name hname =>
    Pattern.bareName_eq (hnames name hname)
  refine ⟨⟨?_, ?_⟩, fun out hout => ?_⟩
  · rintro ⟨out, hout⟩
    obtain ⟨hadmits, z, hz, -⟩ := (Graph.unifyStatement_eq_some_iff hwf hbare).mp hout
    obtain ⟨ext, hunder, hfits⟩ := (Graph.exists_unifies_iff hwf hbare).mp ⟨z, hz⟩
    exact ⟨ext, hunder, hfits, hadmits⟩
  · rintro ⟨ext, hunder, hfits, hadmits⟩
    obtain ⟨z, hz⟩ := (Graph.exists_unifies_iff hwf hbare).mpr ⟨ext, hunder, hfits⟩
    exact ⟨z.1, (Graph.unifyStatement_eq_some_iff hwf hbare).mpr ⟨hadmits, z, hz, rfl⟩⟩
  · obtain ⟨-, z, hz, rfl⟩ := (Graph.unifyStatement_eq_some_iff hwf hbare).mp hout
    obtain ⟨hext, hfits⟩ := hz.sound hwf (Graph.grown_self s.graph b) hbare
    refine ⟨hext.under, hfits.mono fun _ _ hmeets => hmeets.stands hwf, hext.binds,
      fun name hnew => (hz.assigns hbare).eq_of_new hnew, fun ext hunder hext' name hname => ?_⟩
    exact hz.alike hwf hbare hunder hext' hname

theorem Store.most_general_of_repeated_after_equate :
    let found : Statement :=
      ⟨.named "b", .named "p", .collection [.named "a", .named "c"], .named "g"⟩
    let st : Statement := ⟨.var "x", .named "p", .collection [.var "x", .var "y"], .named "g"⟩
    let p := Pattern.empty.constrain "x" (.equals (.named "a"))
    let s := (ofStatement found).equate (.named "a") (.named "b")
    s.Reachable ∧ (∀ name ∈ st.vars, name.toList.head? ≠ some '?') ∧
      ∃ out, s.graph.unifyStatement p st found {} = some out ∧
        out.values["x"]? = some (.named "a") ∧ out.values["y"]? = some (.named "c") ∧
        s.graph.FitsStatement (s.graph.Stands out) st found := by
  intro found st p s
  have h : s.Reachable := (reachable_ofStatement found).equate _ _
  have hnames : ∀ name ∈ st.vars, name.toList.head? ≠ some '?' := by decide
  have hmet : st.meetings found = [("x", .named "b"), ("x", .named "a"), ("y", .named "c")] := by
    simp [st, found, Quad.meetings, Term.meetings, Term.meetingsAll]
  have hx : s.graph.canon (.named "b") = .named "a" := by
    subst s found
    rfl
  have hy : s.graph.canon (.named "c") = .named "c" := by
    subst s found
    rfl
  have hfits : s.graph.FitsStatement
      (s.graph.Stands (Bindings.ofList [("x", .named "a"), ("y", .named "c")])) st found := by
    have hself (t : Term) : s.graph.alike t t = true := beq_self_eq_true _
    have halike : s.graph.alike (.named "a") (.named "b") = true := by
      subst s found
      rfl
    exact ⟨⟨_, rfl, halike⟩, hself _, _, rfl, ⟨_, rfl, hself _⟩, ⟨_, rfl, hself _⟩, trivial⟩
  have hadmits : p.AdmitsMet s.graph {} (st.meetings found) := by
    intro name c u _ hu hc
    have hconstraint : p.constraint? name =
        if "x" = name then some (.equals (.named "a")) else none := by
      simp only [p, Pattern.constraint?, Pattern.constrain, Std.ExtTreeMap.getElem?_insert,
        Std.LawfulEqOrd.compare_eq_iff_eq]
      rfl
    rw [hconstraint, Option.ite_none_right_eq_some] at hc
    obtain ⟨rfl, hc⟩ := hc
    rw [hmet] at hu
    obtain rfl := Option.some.inj hu
    obtain rfl := Option.some.inj hc
    rw [hx]
    rfl
  have hunder : ({} : Bindings).Under (Bindings.ofList [("x", .named "a"), ("y", .named "c")]) := by
    intro name t ht
    cases ht
  obtain ⟨hiff, hout⟩ := h.unify_most_general p st found {} hnames
  obtain ⟨out, hsome⟩ := hiff.mpr ⟨_, hunder, hfits, hadmits⟩
  obtain ⟨-, hfits, -, hbinds, -⟩ := hout out hsome
  have hnew (name : String) : name ∉ ({} : Bindings).values := Std.ExtTreeMap.not_mem_empty
  refine ⟨h, hnames, out, hsome, ?_, ?_, hfits⟩
  · rw [hbinds "x" (hnew "x"), hmet, List.lookup_cons_self, Option.map_some, hx]
  · have hne : ("y" == "x") = false := rfl
    rw [hbinds "y" (hnew "y"), hmet]
    simp only [List.lookup_cons, hne, beq_self_eq_true, Option.map_some, hy]

end QuadGraph
