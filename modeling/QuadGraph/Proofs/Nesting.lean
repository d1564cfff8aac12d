import Mathlib.Data.Set.Finite.List
import Mathlib.Logic.Relation
import Mathlib.Order.WellFoundedSet
import QuadGraph.Proofs.References

/-!
# What nesting reaches

A writer of statements begins at the roots and goes from a subject to the inline blank nodes that the
objects of its statements refer to (`Links`). An inline blank node is referred to once, so each has a
link from one subject only. Whoever goes the links back from a subject therefore ends at a root or
goes round in a circle, and can do but one of the two (`reached_unless_circular`).
-/

namespace QuadGraph

namespace ExportPlan

/-- The second term is an inline blank node that is referred to in the object of a statement of the
first one, which is a subject. -/
def Links (sts : List Statement) (t u : Term) : Prop :=
  t ∈ (ofStatements sts).subjects ∧ (ofStatements sts).isInline u = true ∧
    ∃ st ∈ sts, st.subject.same t = true ∧ ∃ label ∈ st.object.references, u = .blank label

def Reached (sts : List Statement) (t : Term) : Prop :=
  ∃ r ∈ (ofStatements sts).roots, Relation.ReflTransGen (Links sts) r t

/-- The term is in a circle of links, or a chain of links leads to it from one. -/
def Circular (sts : List Statement) (t : Term) : Prop :=
  ∃ u, Relation.TransGen (Links sts) u u ∧ Relation.ReflTransGen (Links sts) u t

variable {sts : List Statement} {r t u v : Term}

/-! ## One link leads to an inline node -/

/-- Where something occurs once in all of the lists, it occurs in one of them. -/
theorem eq_of_count_flatMap {α : Type} {f : α → List String} {xs : List α} {x y : α} {a : String}
    (h : (xs.flatMap f).count a = 1) (hx : x ∈ xs) (hy : y ∈ xs) (hxa : a ∈ f x) (hya : a ∈ f y) :
    x = y := by
  induction xs with
  | nil => cases hx
  | cons z zs ih =>
    rw [List.flatMap_cons, List.count_append] at h
    have hrest : ∀ w ∈ zs, a ∈ f w → 0 < (zs.flatMap f).count a := fun w hw hwa =>
      List.count_pos_iff.mpr (List.mem_flatMap.mpr ⟨w, hw, hwa⟩)
    rcases List.mem_cons.mp hx with rfl | hx
    · rcases List.mem_cons.mp hy with rfl | hy
      · rfl
      · have hfirst := List.count_pos_iff.mpr hxa
        have hsecond := hrest y hy hya
        omega
    · have hsecond := hrest x hx hxa
      rcases List.mem_cons.mp hy with rfl | hy
      · have hfirst := List.count_pos_iff.mpr hya
        omega
      · exact ih (by omega) hx hy

theorem Links.unique (h : Links sts t v) (h' : Links sts u v) : t = u := by
  obtain ⟨ht, hinline, st, hst, hsame, label, hmem, rfl⟩ := h
  obtain ⟨hu, -, st', hst', hsame', label', hmem', hlabel⟩ := h'
  obtain rfl := Term.blank.inj hlabel
  obtain rfl := eq_of_count_flatMap (isInline_blank.mp hinline) hst hst' hmem hmem'
  have hkey := Term.same_iff_key.mp hsame
  have hkey' := Term.same_iff_key.mp hsame'
  exact eq_of_subjects ht hu (hkey.symm.trans hkey')

theorem exists_link (h : (ofStatements sts).isInline t = true) : ∃ u, Links sts u t := by
  obtain ⟨label, rfl, hcount⟩ := isInline_iff.mp h
  have hmem : label ∈ referencesIn sts := List.count_pos_iff.mp (by omega)
  obtain ⟨st, hst, hlabel⟩ := List.mem_flatMap.mp hmem
  obtain ⟨u, hu, hsame⟩ := exists_subject hst
  exact ⟨u, hu, h, st, hst, Term.same_iff_key.mpr (Term.same_iff_key.mp hsame).symm, label, hlabel, rfl⟩

theorem not_link_root (h : r ∈ (ofStatements sts).roots) : ¬ Links sts t r := by
  rintro ⟨-, hinline, -⟩
  rw [(mem_roots.mp h).2] at hinline
  cases hinline

/-! ## Roots and circles -/

/-- Going a link back does not leave a circle. -/
theorem Circular.back (h : Circular sts u) (hlink : Links sts t u) : Circular sts t := by
  obtain ⟨c, hcircle, hchain⟩ := h
  rcases Relation.ReflTransGen.cases_tail hchain with rfl | ⟨v, hv, hvu⟩
  · obtain ⟨v, hv, hvu⟩ := Relation.TransGen.tail'_iff.mp hcircle
    obtain rfl := hlink.unique hvu
    exact ⟨t, Relation.TransGen.head' hlink hv, .refl⟩
  · obtain rfl := hlink.unique hvu
    exact ⟨c, hcircle, hv⟩

theorem not_circular_of_root (h : r ∈ (ofStatements sts).roots) : ¬ Circular sts r := by
  rintro ⟨c, hcircle, hchain⟩
  rcases Relation.ReflTransGen.cases_tail hchain with rfl | ⟨v, -, hv⟩
  · obtain ⟨v, -, hv⟩ := Relation.TransGen.tail'_iff.mp hcircle
    exact not_link_root h hv
  · exact not_link_root h hv

theorem Reached.not_circular (h : Reached sts t) : ¬ Circular sts t := by
  obtain ⟨r, hr, hchain⟩ := h
  intro hcircular
  induction hchain with
  | refl => exact not_circular_of_root hr hcircular
  | tail _ hlink ih => exact ih (hcircular.back hlink)

abbrev Origin (sts : List Statement) (t : Term) : Type :=
  {u : Term // u ∈ (ofStatements sts).subjects ∧ Relation.ReflTransGen (Links sts) u t}

theorem finite_origin (sts : List Statement) (t : Term) : Finite (Origin sts t) :=
  ((List.finite_toSet (ofStatements sts).subjects).subset fun _ hu => hu.1).to_subtype

/-- Without a circle the links go back only so far. -/
theorem wellFounded_origin (h : ¬ Circular sts t) :
    WellFounded fun a b : Origin sts t => Relation.TransGen (Links sts) a.1 b.1 := by
  have hfinite := finite_origin sts t
  have hirrefl : Std.Irrefl fun a b : Origin sts t => Relation.TransGen (Links sts) a.1 b.1 :=
    ⟨fun a hcircle => h ⟨a.1, hcircle, a.2.2⟩⟩
  have htrans : IsTrans (Origin sts t) fun a b => Relation.TransGen (Links sts) a.1 b.1 :=
    ⟨fun _ _ _ hab hbc => hab.trans hbc⟩
  exact Finite.wellFounded_of_trans_of_irrefl _

theorem reached_of_not_circular (ht : t ∈ (ofStatements sts).subjects) (h : ¬ Circular sts t) :
    Reached sts t := by
  obtain ⟨⟨r, hr, hchain⟩, -, hfirst⟩ :=
    (wellFounded_origin h).has_min Set.univ ⟨⟨t, ht, .refl⟩, trivial⟩
  refine ⟨r, mem_roots.mpr ⟨hr, Bool.eq_false_iff.mpr fun hinline => ?_⟩, hchain⟩
  obtain ⟨u, hlink⟩ := exists_link hinline
  exact hfirst ⟨u, hlink.1, .head hlink hchain⟩ trivial (.single hlink)

theorem reached_iff : Reached sts t ↔ t ∈ (ofStatements sts).roots ∨
    ((ofStatements sts).isInline t = true ∧
      ∃ r ∈ (ofStatements sts).roots, Relation.TransGen (Links sts) r t) := by
  constructor
  · rintro ⟨r, hr, hchain⟩
    rcases Relation.ReflTransGen.cases_tail hchain with rfl | ⟨u, hu, hlink⟩
    · exact .inl hr
    · exact .inr ⟨hlink.2.1, r, hr, .tail' hu hlink⟩
  · rintro (ht | ⟨-, r, hr, hchain⟩)
    · exact ⟨t, ht, .refl⟩
    · exact ⟨r, hr, hchain.to_reflTransGen⟩

/-- The subject of each statement is among the subjects. Each of these is a root, or an inline node to
which a chain of links leads from a root, unless it is in a circle of links or behind one; then it is
neither. -/
theorem reached_unless_circular (sts : List Statement) :
    (∀ st ∈ sts, ∃ t ∈ (ofStatements sts).subjects, t.same st.subject = true) ∧
    ∀ t ∈ (ofStatements sts).subjects,
      ((t ∈ (ofStatements sts).roots ∨ ((ofStatements sts).isInline t = true ∧
          ∃ r ∈ (ofStatements sts).roots, Relation.TransGen (Links sts) r t)) ↔
        ¬ ∃ u, Relation.TransGen (Links sts) u u ∧ Relation.ReflTransGen (Links sts) u t) := by
  refine ⟨fun st hst => exists_subject hst, fun t ht => ?_⟩
  rw [← reached_iff]
  exact ⟨Reached.not_circular, reached_of_not_circular ht⟩

def refer (s o : String) : Statement := ⟨.blank s, .named "p", .blank o, .named "g"⟩

theorem mem_subjects_refer {s o : String} (h : refer s o ∈ sts) :
    .blank s ∈ (ofStatements sts).subjects := by
  obtain ⟨t, ht, hsame⟩ := exists_subject h
  cases t with
  | blank label =>
    obtain rfl := beq_iff_eq.mp hsame
    exact ht
  | _ => cases hsame

theorem links_refer {s o : String} (h : refer s o ∈ sts)
    (hcount : (referencesIn sts).count o = 1) : Links sts (.blank s) (.blank o) :=
  ⟨mem_subjects_refer h, isInline_blank.mpr hcount, refer s o, h, Term.same_iff_key.mpr rfl, o,
    List.mem_singleton_self o, rfl⟩

/-- The second node hangs off a root, and the last one off a node that refers to itself. -/
theorem reached_unless_circular_twice :
    let sts := [refer "a" "b", refer "b" "x", refer "c" "c", refer "c" "d", refer "d" "y"]
    (¬ ∃ u, Relation.TransGen (Links sts) u u ∧ Relation.ReflTransGen (Links sts) u (.blank "b")) ∧
      .blank "d" ∈ (ofStatements sts).subjects ∧ .blank "d" ∉ (ofStatements sts).roots ∧
      ¬ ∃ r ∈ (ofStatements sts).roots, Relation.TransGen (Links sts) r (.blank "d") := by
  intro sts
  have hb : .blank "b" ∈ (ofStatements sts).subjects :=
    mem_subjects_refer (o := "x") (by simp [sts])
  have hd : .blank "d" ∈ (ofStatements sts).subjects :=
    mem_subjects_refer (o := "y") (by simp [sts])
  have ha : .blank "a" ∈ (ofStatements sts).roots := by
    refine mem_roots.mpr ⟨mem_subjects_refer (o := "b") (by simp [sts]), ?_⟩
    rw [Bool.eq_false_iff, Ne, isInline_blank]
    decide
  have hab : Links sts (.blank "a") (.blank "b") := links_refer (by simp [sts]) (by decide)
  have hcc : Links sts (.blank "c") (.blank "c") := links_refer (by simp [sts]) (by decide)
  have hcd : Links sts (.blank "c") (.blank "d") := links_refer (by simp [sts]) (by decide)
  obtain ⟨-, hreached⟩ := reached_unless_circular sts
  refine ⟨(hreached _ hb).mp (.inr ⟨hab.2.1, _, ha, .single hab⟩), hd, fun hroot => ?_, fun hchain => ?_⟩
  · exact (hreached _ hd).mp (.inl hroot) ⟨_, .single hcc, .single hcd⟩
  · exact (hreached _ hd).mp (.inr ⟨hcd.2.1, hchain⟩) ⟨_, .single hcc, .single hcd⟩

/-- A node that only refers to itself is inline, and no root leads to it. -/
theorem circle_unreached :
    let sts := [refer "a" "a"]
    ¬ ∀ t ∈ (ofStatements sts).subjects, t ∈ (ofStatements sts).roots ∨
      ((ofStatements sts).isInline t = true ∧
        ∃ r ∈ (ofStatements sts).roots, Relation.TransGen (Links sts) r t) := by
  intro sts h
  have haa : Links sts (.blank "a") (.blank "a") :=
    links_refer (List.mem_singleton_self _) (by decide)
  exact (reached_iff.mpr (h _ haa.1)).not_circular ⟨_, .single haa, .refl⟩

end ExportPlan

end QuadGraph
