import QuadGraph.Proofs.Indexing
import QuadGraph.Query.Unify

/-!
# What unification finds

A term of a pattern fits a stored term when its variables meet parts of it that leave the rest
alike (`Graph.Fits`). Unification extends bindings so that a statement fits (`unifyStatement_sound`),
and it succeeds whenever some extension of the bindings makes it fit (`unifyStatement_complete`).
-/

namespace QuadGraph

/-! ## Fitting -/

namespace Graph

mutual

/-- Whether a term of a pattern matches a stored one when its variables may meet stored terms in
this way. A collection that holds variables is matched item by item. -/
def Fits (g : Graph) (meets : String → Term → Prop) : Term → Term → Prop
  | .var name, u => meets name u
  | .collection items, u =>
    if Term.anyVariable items then ∃ others, u = .collection others ∧ FitsAll g meets items others
    else g.alike (.collection items) u = true
  | t, u => g.alike t u = true

def FitsAll (g : Graph) (meets : String → Term → Prop) : List Term → List Term → Prop
  | [], [] => True
  | t :: ts, u :: us => Fits g meets t u ∧ FitsAll g meets ts us
  | _, _ => False

end

def FitsStatement (g : Graph) (meets : String → Term → Prop) (st found : Statement) : Prop :=
  g.Fits meets st.subject found.subject ∧ g.Fits meets st.predicate found.predicate ∧
    g.Fits meets st.object found.object

/-- A variable bound from the start stands for a term like the one met; any other stands for the
term that stands for it. -/
def Meets (g : Graph) (start b : Bindings) (name : String) (u : Term) : Prop :=
  ∃ t, b.values[name]? = some t ∧
    if name ∈ start.values then g.alike t u = true else t.same (g.canon u) = true

mutual

theorem Fits.mono {g : Graph} {meets meets' : String → Term → Prop}
    (h : ∀ name u, meets name u → meets' name u) :
    ∀ {t u : Term}, g.Fits meets t u → g.Fits meets' t u
  | .var name, u, hfits => h name u hfits
  | .collection items, u, hfits => by
    rw [Fits] at hfits ⊢
    split
    case isTrue hopen =>
      rw [if_pos hopen] at hfits
      obtain ⟨others, hu, hall⟩ := hfits
      exact ⟨others, hu, FitsAll.mono h hall⟩
    case isFalse hopen =>
      rw [if_neg hopen] at hfits
      exact hfits
  | .named _, u, hfits => hfits
  | .blank _, u, hfits => hfits
  | .literal _, u, hfits => hfits
  | .formula _, u, hfits => hfits

theorem FitsAll.mono {g : Graph} {meets meets' : String → Term → Prop}
    (h : ∀ name u, meets name u → meets' name u) :
    ∀ {ts us : List Term}, g.FitsAll meets ts us → g.FitsAll meets' ts us
  | [], [], _ => trivial
  | [], _ :: _, hfits => hfits.elim
  | _ :: _, [], hfits => hfits.elim
  | _ :: _, _ :: _, hfits => ⟨Fits.mono h hfits.1, FitsAll.mono h hfits.2⟩

end

theorem FitsStatement.mono {g : Graph} {meets meets' : String → Term → Prop} {st found : Statement}
    (h : ∀ name u, meets name u → meets' name u) (hfits : g.FitsStatement meets st found) :
    g.FitsStatement meets' st found :=
  ⟨hfits.1.mono h, hfits.2.1.mono h, hfits.2.2.mono h⟩

mutual

theorem hasVariable_of_mem : ∀ {t : Term} {name : String}, name ∈ t.vars → t.hasVariable = true
  | .var _, _, _ => rfl
  | .collection _, _, h => by
    rw [Term.vars] at h
    rw [Term.hasVariable]
    exact anyVariable_of_mem h
  | .named _, _, h => absurd h List.not_mem_nil
  | .blank _, _, h => absurd h List.not_mem_nil
  | .literal _, _, h => absurd h List.not_mem_nil
  | .formula _, _, h => absurd h List.not_mem_nil

theorem anyVariable_of_mem : ∀ {items : List Term} {name : String},
    name ∈ Term.varsOf items → Term.anyVariable items = true
  | [], _, h => absurd h List.not_mem_nil
  | t :: ts, name, h => by
    rw [Term.varsOf, List.mem_append] at h
    rw [Term.anyVariable, Bool.or_eq_true]
    rcases h with h | h
    · exact .inl (hasVariable_of_mem h)
    · exact .inr (anyVariable_of_mem h)

end

mutual

theorem Fits.exists_meets {g : Graph} {meets : String → Term → Prop} :
    ∀ {t u : Term}, g.Fits meets t u → ∀ name ∈ t.vars, ∃ v, meets name v
  | .var name, u, hfits, x, hx => by
    rw [Term.vars, List.mem_singleton] at hx
    subst hx
    exact ⟨u, hfits⟩
  | .collection items, u, hfits, x, hx => by
    rw [Term.vars] at hx
    rw [Fits, if_pos (anyVariable_of_mem hx)] at hfits
    obtain ⟨others, -, hall⟩ := hfits
    exact FitsAll.exists_meets hall x hx
  | .named _, _, _, _, hx => absurd hx List.not_mem_nil
  | .blank _, _, _, _, hx => absurd hx List.not_mem_nil
  | .literal _, _, _, _, hx => absurd hx List.not_mem_nil
  | .formula _, _, _, _, hx => absurd hx List.not_mem_nil

theorem FitsAll.exists_meets {g : Graph} {meets : String → Term → Prop} :
    ∀ {ts us : List Term}, g.FitsAll meets ts us → ∀ name ∈ Term.varsOf ts, ∃ v, meets name v
  | [], _, _, _, hx => absurd hx List.not_mem_nil
  | _ :: _, [], hfits, _, _ => hfits.elim
  | t :: ts, u :: us, hfits, x, hx => by
    rw [Term.varsOf, List.mem_append] at hx
    rcases hx with hx | hx
    · exact Fits.exists_meets hfits.1 x hx
    · exact FitsAll.exists_meets hfits.2 x hx

end

end Graph

/-! ## Bindings that matching makes -/

theorem Pattern.bareName_eq {name : String} (h : name.toList.head? ≠ some '?') : bareName name = name := by
  unfold bareName
  split
  case h_1 rest hlist =>
    rw [hlist] at h
    exact absurd rfl h
  case h_2 => rfl

namespace Bindings

theorem get?_eq {name : String} (h : bareName name = name) (b : Bindings) :
    b.get? name = b.values[name]? := by
  rw [get?, h]

theorem mem_values {b : Bindings} {name : String} :
    name ∈ b.values ↔ ∃ t, b.values[name]? = some t := by
  rw [Std.ExtTreeMap.mem_iff_isSome_getElem?, Option.isSome_iff_exists]

theorem not_mem_values {b : Bindings} {name : String} (h : b.values[name]? = none) :
    name ∉ b.values := by
  intro hmem
  obtain ⟨t, ht⟩ := mem_values.mp hmem
  rw [h] at ht
  cases ht

theorem getElem?_bind (b : Bindings) (name : String) (t : Term) (n : String) :
    (b.bind name t).values[n]? = if name = n then some t else b.values[n]? := by
  rw [bind, Std.ExtTreeMap.getElem?_insert]
  simp only [Std.LawfulEqOrd.compare_eq_iff_eq]

theorem mem_bind {b : Bindings} {name n : String} {t : Term} :
    n ∈ (b.bind name t).values ↔ n ∈ b.values ∨ n = name := by
  rw [bind, Std.ExtTreeMap.mem_insert, Std.LawfulEqOrd.compare_eq_iff_eq, or_comm, eq_comm]

def Under (b b' : Bindings) : Prop :=
  ∀ (name : String) (t : Term), b.values[name]? = some t → b'.values[name]? = some t

end Bindings

namespace Graph

theorem Meets.mono {g : Graph} {start b b' : Bindings} (h : b.Under b') {name : String} {u : Term}
    (hmeets : g.Meets start b name u) : g.Meets start b' name u := by
  obtain ⟨t, ht, hif⟩ := hmeets
  exact ⟨t, h name t ht, hif⟩

structure Grown (g : Graph) (start b : Bindings) : Prop where
  keeps : ∀ name, name ∈ start.values → name ∈ b.values
  canonical : ∀ (name : String) (t : Term), name ∉ start.values → b.values[name]? = some t →
    t.key = g.canonKey t

structure Extends (g : Graph) (start : Bindings) (vars : List String) (x y : Extension) : Prop where
  grown : g.Grown start y.1
  under : x.1.Under y.1
  binds : ∀ name, name ∈ y.1.values ↔ name ∈ x.1.values ∨ name ∈ vars
  bound : ∀ name, name ∈ y.2 ↔ name ∈ x.2 ∨ (name ∈ vars ∧ name ∉ x.1.values)

section
variable {g : Graph} {start : Bindings} {x y z : Extension} {vars vars' : List String}

theorem Extends.refl (hgrown : g.Grown start x.1) (hvars : ∀ name ∈ vars, name ∈ x.1.values) :
    g.Extends start vars x x where
  grown := hgrown
  under := fun _ _ h => h
  binds := fun name => (or_iff_left_of_imp (hvars name)).symm
  bound := fun name => (or_iff_left_of_imp fun h => absurd (hvars name h.1) h.2).symm

theorem unifyTerm_open {items : List Term} {u : Term} (hopen : Term.anyVariable items = true) :
    g.unifyTerm (.collection items) u x = some y ↔
      ∃ others, u = .collection others ∧ g.unifyItems items others x = some y := by
  cases u <;> simp [unifyTerm, hopen]

theorem unifyTerm_closed {items : List Term} {u : Term} (hopen : ¬ Term.anyVariable items = true) :
    g.unifyTerm (.collection items) u x =
      if g.alike (.collection items) u = true then some x else none := by
  cases u <;> simp [unifyTerm, hopen]

/-- A term without variables is only compared. -/
theorem extends_of_alike {t u : Term} (hgrown : g.Grown start x.1)
    (hvars : ∀ name ∈ vars, name ∈ x.1.values)
    (h : (if g.alike t u = true then some x else none) = some y) :
    g.Extends start vars x y ∧ g.alike t u = true := by
  rw [Option.ite_none_right_eq_some] at h
  obtain ⟨halike, h⟩ := h
  obtain rfl := Option.some.inj h
  exact ⟨.refl hgrown hvars, halike⟩

theorem Extends.trans (h : g.Extends start vars x y) (h' : g.Extends start vars' y z) :
    g.Extends start (vars ++ vars') x z where
  grown := h'.grown
  under := fun name t ht => h'.under name t (h.under name t ht)
  binds := fun name => by rw [h'.binds, h.binds, List.mem_append, or_assoc]
  bound := fun name => by
    rw [h'.bound, h.bound, h.binds, List.mem_append]
    by_cases hvars : name ∈ vars
    · by_cases hx : name ∈ x.1.values <;> simp [hvars, hx]
    · by_cases hx : name ∈ x.1.values <;> simp [hvars, hx]

end

section
variable {g : Graph} (hwf : g.WellFormed) {start : Bindings}

theorem meets_of_alike {b : Bindings} {name : String} {t u : Term} (hgrown : g.Grown start b)
    (ht : b.values[name]? = some t) (halike : g.alike t u = true) : g.Meets start b name u := by
  refine ⟨t, ht, ?_⟩
  split
  case isTrue => exact halike
  case isFalse hstart =>
    rw [Term.same_iff_key, hgrown.canonical name t hstart ht]
    exact beq_iff_eq.mp halike

include hwf

theorem canonKey_canon (t : Term) : g.canonKey (g.canon t) = g.canonKey t := by
  rw [canonKey, hwf.canon_canon]
  rfl

theorem extends_bind {b : Bindings} {bound : List String} {name : String} (u : Term)
    (hgrown : g.Grown start b) (hnone : b.values[name]? = none) :
    g.Extends start [name] (b, bound) (b.bind name (g.canon u), bound ++ [name]) ∧
      g.Meets start (b.bind name (g.canon u)) name u := by
  have hmem : name ∉ b.values := Bindings.not_mem_values hnone
  have hstart : name ∉ start.values := fun h => hmem (hgrown.keeps name h)
  have hget := b.getElem?_bind name (g.canon u)
  refine ⟨⟨⟨fun n hn => ?_, fun n t hn ht => ?_⟩, fun n t ht => ?_, fun n => ?_, fun n => ?_⟩, ?_⟩
  · exact Bindings.mem_bind.mpr (.inl (hgrown.keeps n hn))
  · rw [hget] at ht
    split at ht
    · obtain rfl := Option.some.inj ht
      exact (canonKey_canon hwf u).symm
    · exact hgrown.canonical n t hn ht
  · have hne : name ≠ n := by
      rintro rfl
      rw [hnone] at ht
      cases ht
    rw [hget, if_neg hne]
    exact ht
  · rw [Bindings.mem_bind, List.mem_singleton]
  · rw [List.mem_append, List.mem_singleton]
    refine or_congr_right ⟨fun h => ⟨h, ?_⟩, fun h => h.1⟩
    rw [h]
    exact hmem
  · refine ⟨g.canon u, by rw [hget, if_pos rfl], ?_⟩
    rw [if_neg hstart, Term.same_iff_key]

end

mutual

theorem unifyTerm_sound {g : Graph} (hwf : g.WellFormed) {start : Bindings} :
    ∀ {t u : Term} {x y : Extension}, g.Grown start x.1 →
    (∀ name ∈ t.vars, bareName name = name) → g.unifyTerm t u x = some y →
    g.Extends start t.vars x y ∧ g.Fits (g.Meets start y.1) t u
  | .var name, u, (b, bound), y, hgrown, hnames, h => by
    rw [unifyTerm, Bindings.get?_eq (hnames name (List.mem_singleton_self name))] at h
    cases hget : b.values[name]? with
    | none =>
      rw [hget] at h
      obtain rfl := Option.some.inj h
      exact extends_bind hwf u hgrown hget
    | some t =>
      rw [hget] at h
      have hvars : ∀ n ∈ [name], n ∈ b.values := by
        intro n hn
        rw [List.mem_singleton.mp hn]
        exact Bindings.mem_values.mpr ⟨t, hget⟩
      obtain ⟨hext, halike⟩ := extends_of_alike hgrown hvars h
      exact ⟨hext, meets_of_alike hext.grown (hext.under name t hget) halike⟩
  | .collection items, u, x, y, hgrown, hnames, h => by
    rw [Fits]
    by_cases hopen : Term.anyVariable items = true
    · rw [if_pos hopen]
      obtain ⟨others, rfl, hitems⟩ := (unifyTerm_open hopen).mp h
      obtain ⟨hext, hfits⟩ := unifyItems_sound hwf hgrown hnames hitems
      exact ⟨hext, others, rfl, hfits⟩
    · rw [if_neg hopen]
      rw [unifyTerm_closed hopen] at h
      exact extends_of_alike hgrown (fun name hname => absurd (anyVariable_of_mem hname) hopen) h
  | .named _, u, x, y, hgrown, _, h =>
    extends_of_alike hgrown (fun _ hn => absurd hn List.not_mem_nil) h
  | .blank _, u, x, y, hgrown, _, h =>
    extends_of_alike hgrown (fun _ hn => absurd hn List.not_mem_nil) h
  | .literal _, u, x, y, hgrown, _, h =>
    extends_of_alike hgrown (fun _ hn => absurd hn List.not_mem_nil) h
  | .formula _, u, x, y, hgrown, _, h =>
    extends_of_alike hgrown (fun _ hn => absurd hn List.not_mem_nil) h

theorem unifyItems_sound {g : Graph} (hwf : g.WellFormed) {start : Bindings} :
    ∀ {ts us : List Term} {x y : Extension}, g.Grown start x.1 →
    (∀ name ∈ Term.varsOf ts, bareName name = name) → g.unifyItems ts us x = some y →
    g.Extends start (Term.varsOf ts) x y ∧ g.FitsAll (g.Meets start y.1) ts us
  | [], [], x, y, hgrown, _, h => by
    obtain rfl := Option.some.inj h
    exact ⟨.refl hgrown fun _ hn => absurd hn List.not_mem_nil, trivial⟩
  | [], _ :: _, _, _, _, _, h => by cases h
  | _ :: _, [], _, _, _, _, h => by cases h
  | t :: ts, u :: us, x, z, hgrown, hnames, h => by
    rw [unifyItems, Option.bind_eq_some_iff] at h
    obtain ⟨y, hy, hz⟩ := h
    obtain ⟨hext, hfits⟩ := unifyTerm_sound hwf hgrown
      (fun name hname => hnames name (List.mem_append_left _ hname)) hy
    obtain ⟨hext', hfits'⟩ := unifyItems_sound hwf hext.grown
      (fun name hname => hnames name (List.mem_append_right _ hname)) hz
    exact ⟨hext.trans hext', hfits.mono fun name u hmeets => hmeets.mono hext'.under, hfits'⟩

end

end Graph

/-! ## Whatever fits is found -/

def Bindings.Below (b b' : Bindings) : Prop :=
  ∀ (name : String) (t : Term), b.values[name]? = some t →
    ∃ u : Term, b'.values[name]? = some u ∧ u.key = t.key

namespace Graph

theorem alike_of_meets {g : Graph} (hwf : g.WellFormed) {start b goal : Bindings} {name : String}
    {t u : Term} (hbelow : b.Below goal) (ht : b.values[name]? = some t)
    (hmeets : g.Meets start goal name u) : g.alike t u = true := by
  obtain ⟨v, hv, hkey⟩ := hbelow name t ht
  obtain ⟨w, hw, hif⟩ := hmeets
  rw [hv] at hw
  obtain rfl := Option.some.inj hw
  rw [alike, beq_iff_eq, ← canonKey_congr hkey]
  split at hif
  case isTrue => exact beq_iff_eq.mp hif
  case isFalse =>
    rw [Term.same_iff_key] at hif
    rw [canonKey_congr hif, canonKey_canon hwf]

theorem below_bind {g : Graph} {start b goal : Bindings} {name : String} {u : Term}
    (hbelow : b.Below goal) (hstart : name ∉ start.values) (hmeets : g.Meets start goal name u) :
    (b.bind name (g.canon u)).Below goal := by
  intro n t ht
  rw [Bindings.getElem?_bind] at ht
  split at ht
  case isTrue hn =>
    obtain rfl := Option.some.inj ht
    obtain ⟨v, hv, hif⟩ := hmeets
    rw [if_neg hstart, Term.same_iff_key] at hif
    exact ⟨v, hn ▸ hv, hif⟩
  case isFalse => exact hbelow n t ht

mutual

theorem unifyTerm_complete {g : Graph} (hwf : g.WellFormed) {start goal : Bindings} :
    ∀ {t u : Term} {x : Extension}, g.Grown start x.1 → (∀ name ∈ t.vars, bareName name = name) →
    x.1.Below goal → g.Fits (g.Meets start goal) t u →
    ∃ y, g.unifyTerm t u x = some y ∧ y.1.Below goal
  | .var name, u, (b, bound), hgrown, hnames, hbelow, hfits => by
    rw [unifyTerm, Bindings.get?_eq (hnames name (List.mem_singleton_self name))]
    cases hget : b.values[name]? with
    | none =>
      have hstart : name ∉ start.values :=
        fun h => Bindings.not_mem_values hget (hgrown.keeps name h)
      exact ⟨_, rfl, below_bind hbelow hstart hfits⟩
    | some t =>
      have halike := alike_of_meets hwf hbelow hget hfits
      exact ⟨(b, bound), if_pos halike, hbelow⟩
  | .collection items, u, x, hgrown, hnames, hbelow, hfits => by
    rw [Fits] at hfits
    by_cases hopen : Term.anyVariable items = true
    · rw [if_pos hopen] at hfits
      obtain ⟨others, hu, hall⟩ := hfits
      obtain ⟨y, hy, hybelow⟩ := unifyItems_complete hwf hgrown hnames hbelow hall
      exact ⟨y, (unifyTerm_open hopen).mpr ⟨others, hu, hy⟩, hybelow⟩
    · rw [if_neg hopen] at hfits
      rw [unifyTerm_closed hopen]
      exact ⟨x, if_pos hfits, hbelow⟩
  | .named _, _, x, _, _, hbelow, hfits => ⟨x, if_pos hfits, hbelow⟩
  | .blank _, _, x, _, _, hbelow, hfits => ⟨x, if_pos hfits, hbelow⟩
  | .literal _, _, x, _, _, hbelow, hfits => ⟨x, if_pos hfits, hbelow⟩
  | .formula _, _, x, _, _, hbelow, hfits => ⟨x, if_pos hfits, hbelow⟩

theorem unifyItems_complete {g : Graph} (hwf : g.WellFormed) {start goal : Bindings} :
    ∀ {ts us : List Term} {x : Extension}, g.Grown start x.1 →
    (∀ name ∈ Term.varsOf ts, bareName name = name) → x.1.Below goal →
    g.FitsAll (g.Meets start goal) ts us → ∃ y, g.unifyItems ts us x = some y ∧ y.1.Below goal
  | [], [], x, _, _, hbelow, _ => ⟨x, rfl, hbelow⟩
  | [], _ :: _, _, _, _, _, hfits => hfits.elim
  | _ :: _, [], _, _, _, _, hfits => hfits.elim
  | t :: ts, u :: us, x, hgrown, hnames, hbelow, hfits => by
    have hfirst : ∀ name ∈ t.vars, bareName name = name :=
      fun name hname => hnames name (List.mem_append_left _ hname)
    obtain ⟨y, hy, hybelow⟩ := unifyTerm_complete hwf hgrown hfirst hbelow hfits.1
    obtain ⟨hext, -⟩ := unifyTerm_sound hwf hgrown hfirst hy
    obtain ⟨z, hz, hzbelow⟩ := unifyItems_complete hwf hext.grown
      (fun name hname => hnames name (List.mem_append_right _ hname)) hybelow hfits.2
    refine ⟨z, ?_, hzbelow⟩
    rw [unifyItems, hy, Option.bind_some, hz]

end

end Graph

/-! ## Constraints -/

theorem Term.literal?_congr {t u : Term} (h : t.same u = true) : t.literal? = u.literal? := by
  cases t with
  | literal l => cases u <;> simp_all [Term.same, Term.literal?]
  | _ => cases u <;> simp_all [Term.same, Term.literal?]

theorem Term.iri?_congr {t u : Term} (h : t.same u = true) : t.iri? = u.iri? := by
  cases t with
  | named iri => cases u <;> simp_all [Term.same, Term.iri?]
  | _ => cases u <;> simp_all [Term.same, Term.iri?]

theorem Term.eq_named_of_iri? {t : Term} {iri : String} (h : t.iri? = some iri) : t = .named iri := by
  cases t with
  | named iri' => rw [Option.some.inj h]
  | _ => cases h

theorem Term.lexical_congr {t u : Term} (h : t.same u = true) : t.lexical = u.lexical := by
  have hkey := Term.same_iff_key.mp h
  cases t with
  | collection items => cases u <;> simp_all [Term.same, Term.lexical]
  | formula quads => cases u <;> simp_all [Term.same, Term.lexical]
  | _ => cases u <;> simp_all [Term.same, Term.lexical]

/-- A test that a caller has supplied answers alike on terms that are the same. -/
def Constraint.Respectful (c : Constraint) : Prop :=
  ∀ f, c = .satisfies f → ∀ t u : Term, t.same u = true → f t = f u

theorem Constraint.test_congr {c : Constraint} (hc : c.Respectful) {t u : Term}
    (h : t.same u = true) : c.test t = c.test u := by
  cases c with
  | greaterThan bound =>
    simp only [test, Term.compareValues?, Term.literal?_congr h, Term.lexical_congr h]
  | lessThan bound =>
    simp only [test, Term.compareValues?, Term.literal?_congr h, Term.lexical_congr h]
  | equals v =>
    have hkey := Term.same_iff_key.mp h
    rw [Bool.eq_iff_iff, test, test, Term.same_iff_key, Term.same_iff_key, hkey]
  | matching r => simp only [test, Term.literal?_congr h]
  | satisfies f => exact hc f rfl t u h

def Pattern.Admits (p : Pattern) (b : Bindings) (name : String) : Prop :=
  ∀ (c : Constraint) (t : Term), p.constraint? name = some c → b.values[name]? = some t →
    c.test t = true

theorem Pattern.Admits.of_below {p : Pattern} {b goal : Bindings} {name : String}
    (hclosures : ∀ c, p.constraint? name = some c → c.Respectful) (hbelow : b.Below goal)
    (h : p.Admits goal name) : p.Admits b name := by
  intro c t hc ht
  obtain ⟨u, hu, hkey⟩ := hbelow name t ht
  rw [← Constraint.test_congr (hclosures c hc) (Term.same_iff_key.mpr hkey)]
  exact h c u hc hu

theorem passes_iff {p : Pattern} {b : Bindings} {name : String} (hname : bareName name = name) :
    Graph.passes p b name = true ↔ p.Admits b name := by
  unfold Graph.passes Pattern.Admits
  rw [Bindings.get?_eq hname]
  cases p.constraint? name with
  | none => simp
  | some c => cases b.values[name]? <;> simp

/-! ## Statements -/

namespace Graph

def Unifies (g : Graph) (st found : Statement) (b : Bindings) (z : Extension) : Prop :=
  ∃ x y, g.unifyTerm st.subject found.subject (b, []) = some x ∧
    g.unifyTerm st.predicate found.predicate x = some y ∧
    g.unifyTerm st.object found.object y = some z

theorem unifyStatement_eq_some {g : Graph} {p : Pattern} {st found : Statement} {b b' : Bindings} :
    g.unifyStatement p st found b = some b' ↔
      ∃ z, g.Unifies st found b z ∧ z.2.all (passes p z.1) = true ∧ z.1 = b' := by
  simp only [unifyStatement, Option.bind_eq_bind, Option.bind_eq_some_iff,
    Option.ite_none_right_eq_some, Option.some.injEq]
  constructor
  · rintro ⟨x, hx, y, hy, z, hz, hall, heq⟩
    exact ⟨z, ⟨x, y, hx, hy, hz⟩, hall, heq⟩
  · rintro ⟨z, ⟨x, y, hx, hy, hz⟩, hall, heq⟩
    exact ⟨x, hx, y, hy, z, hz, hall, heq⟩

section
variable {g : Graph} (hwf : g.WellFormed) {start : Bindings} {p : Pattern} {st found : Statement}
  {b : Bindings} (hgrown : g.Grown start b) (hnames : ∀ name ∈ st.vars, bareName name = name)
include hwf hgrown hnames

theorem Unifies.sound {z : Extension} (h : g.Unifies st found b z) :
    g.Extends start st.vars (b, []) z ∧ g.FitsStatement (g.Meets start z.1) st found := by
  have hvars : st.vars = st.subject.vars ++ st.predicate.vars ++ st.object.vars := rfl
  obtain ⟨x, y, hx, hy, hz⟩ := h
  obtain ⟨hext₁, hfits₁⟩ := unifyTerm_sound hwf hgrown
    (fun name hname => hnames name (by simp [hvars, hname])) hx
  obtain ⟨hext₂, hfits₂⟩ := unifyTerm_sound hwf hext₁.grown
    (fun name hname => hnames name (by simp [hvars, hname])) hy
  obtain ⟨hext₃, hfits₃⟩ := unifyTerm_sound hwf hext₂.grown
    (fun name hname => hnames name (by simp [hvars, hname])) hz
  have hext := (hext₁.trans hext₂).trans hext₃
  rw [← hvars] at hext
  refine ⟨hext, ?_, ?_, hfits₃⟩
  · exact hfits₁.mono fun name u hmeets => (hmeets.mono hext₂.under).mono hext₃.under
  · exact hfits₂.mono fun name u hmeets => hmeets.mono hext₃.under

theorem exists_unifies {goal : Bindings} (hbelow : b.Below goal)
    (hfits : g.FitsStatement (g.Meets start goal) st found) :
    ∃ z, g.Unifies st found b z ∧ z.1.Below goal := by
  have hvars : st.vars = st.subject.vars ++ st.predicate.vars ++ st.object.vars := rfl
  have hsubject : ∀ name ∈ st.subject.vars, bareName name = name :=
    fun name hname => hnames name (by simp [hvars, hname])
  have hpredicate : ∀ name ∈ st.predicate.vars, bareName name = name :=
    fun name hname => hnames name (by simp [hvars, hname])
  have hobject : ∀ name ∈ st.object.vars, bareName name = name :=
    fun name hname => hnames name (by simp [hvars, hname])
  have hstart : (b, ([] : List String)).1.Below goal := hbelow
  obtain ⟨x, hx, hxbelow⟩ := unifyTerm_complete hwf hgrown hsubject hstart hfits.1
  obtain ⟨hext₁, -⟩ := unifyTerm_sound hwf hgrown hsubject hx
  obtain ⟨y, hy, hybelow⟩ := unifyTerm_complete hwf hext₁.grown hpredicate hxbelow hfits.2.1
  obtain ⟨hext₂, -⟩ := unifyTerm_sound hwf hext₁.grown hpredicate hy
  obtain ⟨z, hz, hzbelow⟩ := unifyTerm_complete hwf hext₂.grown hobject hybelow hfits.2.2
  exact ⟨z, ⟨x, y, hx, hy, hz⟩, hzbelow⟩

/-- The tests are made of the variables that are new. -/
theorem Unifies.all_passes_iff {z : Extension} (h : g.Unifies st found b z) :
    z.2.all (passes p z.1) = true ↔ ∀ name ∈ st.vars, name ∉ b.values → p.Admits z.1 name := by
  obtain ⟨hext, -⟩ := h.sound hwf hgrown hnames
  have hbound : ∀ name, name ∈ z.2 ↔ name ∈ st.vars ∧ name ∉ b.values := fun name => by
    rw [hext.bound name, or_iff_right List.not_mem_nil]
  rw [List.all_eq_true]
  constructor
  · intro hall name hname hnew
    exact (passes_iff (hnames name hname)).mp (hall name ((hbound name).mpr ⟨hname, hnew⟩))
  · intro hadmits name hname
    obtain ⟨hname, hnew⟩ := (hbound name).mp hname
    exact (passes_iff (hnames name hname)).mpr (hadmits name hname hnew)

/-- After a match the bindings are those before it with the variables of the statement. They make
it fit, and pass the constraints on the variables that are new. -/
theorem unifyStatement_sound {b' : Bindings} (h : g.unifyStatement p st found b = some b') :
    g.Grown start b' ∧ b.Under b' ∧
    (∀ name, name ∈ b'.values ↔ name ∈ b.values ∨ name ∈ st.vars) ∧
    g.FitsStatement (g.Meets start b') st found ∧
    ∀ name ∈ st.vars, name ∉ b.values → p.Admits b' name := by
  obtain ⟨z, hz, hall, rfl⟩ := unifyStatement_eq_some.mp h
  obtain ⟨hext, hfits⟩ := hz.sound hwf hgrown hnames
  exact ⟨hext.grown, hext.under, hext.binds, hfits, (hz.all_passes_iff hwf hgrown hnames).mp hall⟩

theorem unifyStatement_complete {goal : Bindings} (hbelow : b.Below goal)
    (hfits : g.FitsStatement (g.Meets start goal) st found)
    (hclosures : ∀ name c, p.constraint? name = some c → c.Respectful)
    (hadmits : ∀ name ∈ st.vars, name ∉ b.values → p.Admits goal name) :
    ∃ b', g.unifyStatement p st found b = some b' := by
  obtain ⟨z, hz, hzbelow⟩ := exists_unifies hwf hgrown hnames hbelow hfits
  have hall := (hz.all_passes_iff (p := p) hwf hgrown hnames).mpr fun name hname hnew =>
    (hadmits name hname hnew).of_below (hclosures name) hzbelow
  exact ⟨z.1, unifyStatement_eq_some.mpr ⟨z, hz, hall, rfl⟩⟩

end

end Graph

end QuadGraph
