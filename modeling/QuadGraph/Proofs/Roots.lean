import Mathlib.Data.List.Perm.Lattice
import QuadGraph.Proofs.Nesting

/-!
# Subjects and roots in any order

The subjects are those of the statements that no earlier statement shares its subject with
(`mem_subjects`), and they stand in the order of these statements (`pairwise_firstSubjects`). The
roots are picked from them only when all references are counted, so it does not matter whether a
subject comes before or after what refers to it: statements in another order have the same counts,
subjects and roots (`counts_and_roots`).
-/

namespace QuadGraph

namespace ExportPlan

variable {sts sts' : List Statement} {t u : Term} {label : String}

/-! ## Counts -/

theorem incoming_blank (sts : List Statement) (label : String) :
    (ofStatements sts).incoming[Term.blankKey label]? =
      if (referencesIn sts).count label = 0 then none else some ((referencesIn sts).count label) := by
  rw [incoming_tallies, List.count_map_of_injective _ _ (fun _ _ => Term.blankKey_inj)]
  by_cases hmem : label ∈ referencesIn sts
  · rw [if_pos (List.mem_map_of_mem hmem), if_neg (Nat.ne_of_gt (List.count_pos_iff.mpr hmem))]
  · rw [if_pos (List.count_eq_zero_of_not_mem hmem), if_neg]
    intro hkey
    obtain ⟨other, hother, heq⟩ := List.mem_map.mp hkey
    exact hmem (Term.blankKey_inj heq ▸ hother)

theorem incoming_keys {key : String} {n : Nat} (h : (ofStatements sts).incoming[key]? = some n) :
    ∃ label, key = Term.blankKey label := by
  rw [incoming_tallies] at h
  split at h
  case isTrue hmem =>
    obtain ⟨label, -, rfl⟩ := List.mem_map.mp hmem
    exact ⟨label, rfl⟩
  case isFalse => cases h

/-! ## Places -/

def firstPlace (sts : List Statement) (t : Term) : Nat := sts.findIdx fun st => st.subject.same t

theorem same_congr (h : t.key = u.key) (st : Statement) :
    st.subject.same t = st.subject.same u := by
  rw [Bool.eq_iff_iff, Term.same_iff_key, Term.same_iff_key, h]

/-- What comes after a subject was seen is another one. -/
theorem same_of_seen {st : Statement} {seen : List String} (hseen : st.subject.key ∈ seen)
    (ht : t ∈ firstSubjects sts seen) : st.subject.same t = false := by
  rw [Bool.eq_false_iff, Ne, Term.same_iff_key]
  intro hkey
  exact (mem_firstSubjects ht).1 (hkey ▸ hseen)

theorem find?_of_mem_firstSubjects {seen : List String} (h : t ∈ firstSubjects sts seen) :
    (sts.find? fun st => st.subject.same t).map Quad.subject = some t := by
  induction sts generalizing seen with
  | nil => cases h
  | cons st sts ih =>
    rw [firstSubjects] at h
    rw [List.find?_cons]
    split at h
    case isTrue hseen =>
      rw [same_of_seen (List.contains_iff_mem.mp hseen) h]
      exact ih h
    case isFalse =>
      rcases List.mem_cons.mp h with rfl | h
      · rw [Term.same_iff_key.mpr rfl]
        rfl
      · rw [same_of_seen (List.mem_cons_self ..) h]
        exact ih h

theorem mem_subjects : t ∈ (ofStatements sts).subjects ↔
    (sts.find? fun st => st.subject.same t).map Quad.subject = some t := by
  refine ⟨find?_of_mem_firstSubjects, fun h => ?_⟩
  obtain ⟨st, hst, rfl⟩ := Option.map_eq_some_iff.mp h
  obtain ⟨u, hu, hsame⟩ := exists_subject (List.mem_of_find?_eq_some hst)
  have hkey := Term.same_iff_key.mp hsame
  -- the same first statement has both for its subject
  have hfirst := find?_of_mem_firstSubjects hu
  simp only [same_congr hkey] at hfirst
  rw [h] at hfirst
  rwa [Option.some.inj hfirst]

theorem firstPlace_of_seen {st : Statement} {seen : List String} (hseen : st.subject.key ∈ seen)
    (ht : t ∈ firstSubjects sts seen) : firstPlace (st :: sts) t = firstPlace sts t + 1 := by
  rw [firstPlace, List.findIdx_cons, same_of_seen hseen ht, cond_false, firstPlace]

theorem pairwise_firstSubjects (sts : List Statement) (seen : List String) :
    (firstSubjects sts seen).Pairwise fun t u => firstPlace sts t < firstPlace sts u := by
  induction sts generalizing seen with
  | nil => exact .nil
  | cons st sts ih =>
    have hlater : ∀ {seen}, st.subject.key ∈ seen → (firstSubjects sts seen).Pairwise
        fun t u => firstPlace (st :: sts) t < firstPlace (st :: sts) u := by
      intro seen hseen
      refine (ih seen).imp_of_mem fun ht hu hlt => ?_
      rw [firstPlace_of_seen hseen ht, firstPlace_of_seen hseen hu]
      exact Nat.succ_lt_succ hlt
    rw [firstSubjects]
    split
    case isTrue hseen => exact hlater (List.contains_iff_mem.mp hseen)
    case isFalse =>
      have hnew : st.subject.key ∈ st.subject.key :: seen := List.mem_cons_self ..
      refine .cons (fun t ht => ?_) (hlater hnew)
      rw [firstPlace_of_seen hnew ht, firstPlace, List.findIdx_cons, Term.same_iff_key.mpr rfl,
        cond_true]
      exact Nat.succ_pos _

theorem mem_roots_iff : t ∈ (ofStatements sts).roots ↔ t ∈ (ofStatements sts).subjects ∧
    ∀ label, t = .blank label → (referencesIn sts).count label ≠ 1 := by
  rw [mem_roots, Bool.eq_false_iff, Ne, isInline_iff]
  simp only [not_exists, not_and]

theorem eq_blank (h : t.key = Term.blankKey label) : t = .blank label := by
  have hsame : t.same (.blank label) = true := Term.same_iff_key.mpr h
  cases t with
  | blank other => rw [beq_iff_eq.mp hsame]
  | _ => cases hsame

/-! ## Other orders -/

def keys (ts : List Term) : List String := ts.map Term.key

theorem nodup_subjects (sts : List Statement) : (keys (ofStatements sts).subjects).Nodup :=
  nodup_firstSubjects sts []

theorem roots_sublist (sts : List Statement) :
    (ofStatements sts).roots.Sublist (ofStatements sts).subjects := List.filter_sublist

theorem nodup_roots (sts : List Statement) : (keys (ofStatements sts).roots).Nodup :=
  (nodup_subjects sts).sublist ((roots_sublist sts).map _)

section
variable (h : sts.Perm sts')
include h

theorem referencesIn_perm : (referencesIn sts).Perm (referencesIn sts') := h.flatMap_right _

theorem incoming_perm : (ofStatements sts).incoming = (ofStatements sts').incoming := by
  have hkeys := (referencesIn_perm h).map Term.blankKey
  ext1 key
  rw [incoming_tallies, incoming_tallies, hkeys.count_eq]
  simp only [hkeys.mem_iff]

theorem exists_subject_perm (ht : t ∈ (ofStatements sts).subjects) :
    ∃ u ∈ (ofStatements sts').subjects, u.key = t.key := by
  obtain ⟨-, st, hst, rfl⟩ := mem_firstSubjects ht
  obtain ⟨u, hu, hsame⟩ := exists_subject (h.mem_iff.mp hst)
  exact ⟨u, hu, Term.same_iff_key.mp hsame⟩

theorem exists_root_perm (ht : t ∈ (ofStatements sts).roots) :
    ∃ u ∈ (ofStatements sts').roots, u.key = t.key := by
  obtain ⟨hsubject, hcount⟩ := mem_roots_iff.mp ht
  obtain ⟨u, hu, hkey⟩ := exists_subject_perm h hsubject
  refine ⟨u, mem_roots_iff.mpr ⟨hu, ?_⟩, hkey⟩
  rintro label rfl
  rw [← (referencesIn_perm h).count_eq]
  exact hcount label (eq_blank hkey.symm)

end

theorem keys_perm {as bs : List Term} (has : (keys as).Nodup) (hbs : (keys bs).Nodup)
    (hab : ∀ t ∈ as, ∃ u ∈ bs, u.key = t.key) (hba : ∀ t ∈ bs, ∃ u ∈ as, u.key = t.key) :
    (keys as).Perm (keys bs) := by
  refine (List.perm_ext_iff_of_nodup has hbs).mpr fun key => ?_
  simp only [keys, List.mem_map]
  constructor
  · rintro ⟨t, ht, rfl⟩
    exact hab t ht
  · rintro ⟨t, ht, rfl⟩
    exact hba t ht

/-- A blank node has as many incoming references as its label occurs in the objects, and none if
there are no such occurrences. The subjects are those of the statements before which no statement
has the same subject, in the order of these. The roots are those that are not blank nodes with one
reference, in the same order. Statements in another order have the same references, subjects and
roots. -/
theorem counts_and_roots (sts : List Statement) :
    (∀ label, (ofStatements sts).incoming[Term.blankKey label]? =
        if (referencesIn sts).count label = 0 then none
        else some ((referencesIn sts).count label)) ∧
    (∀ key n, (ofStatements sts).incoming[key]? = some n → ∃ label, key = Term.blankKey label) ∧
    (∀ t, t ∈ (ofStatements sts).subjects ↔
      (sts.find? fun st => st.subject.same t).map Quad.subject = some t) ∧
    (ofStatements sts).subjects.Pairwise (fun t u => firstPlace sts t < firstPlace sts u) ∧
    (ofStatements sts).roots.Sublist (ofStatements sts).subjects ∧
    (∀ t, t ∈ (ofStatements sts).roots ↔ t ∈ (ofStatements sts).subjects ∧
      ∀ label, t = .blank label → (referencesIn sts).count label ≠ 1) ∧
    ∀ sts', sts.Perm sts' →
      (ofStatements sts).incoming = (ofStatements sts').incoming ∧
      (keys (ofStatements sts).subjects).Perm (keys (ofStatements sts').subjects) ∧
      (keys (ofStatements sts).roots).Perm (keys (ofStatements sts').roots) := by
  refine ⟨incoming_blank sts, fun _ _ => incoming_keys, fun _ => mem_subjects,
    pairwise_firstSubjects sts [], roots_sublist sts, fun _ => mem_roots_iff, fun sts' h => ?_⟩
  refine ⟨incoming_perm h, ?_, ?_⟩
  · exact keys_perm (nodup_subjects sts) (nodup_subjects sts') (fun _ => exists_subject_perm h)
      (fun _ => exists_subject_perm h.symm)
  · exact keys_perm (nodup_roots sts) (nodup_roots sts') (fun _ => exists_root_perm h)
      (fun _ => exists_root_perm h.symm)

/-- A node is no root, whether its own statement or the one that refers to it comes first. -/
theorem counts_and_roots_turned :
    let sts := [refer "a" "b", refer "b" "x"]
    (keys (ofStatements sts).roots).Perm (keys (ofStatements sts.reverse).roots) ∧
      .blank "b" ∈ (ofStatements sts.reverse).subjects ∧
      .blank "b" ∉ (ofStatements sts.reverse).roots := by
  intro sts
  obtain ⟨-, -, -, -, -, -, horders⟩ := counts_and_roots sts
  obtain ⟨-, -, -, -, -, hroots, -⟩ := counts_and_roots sts.reverse
  refine ⟨(horders _ sts.reverse_perm.symm).2.2, mem_subjects_refer (o := "x") (by simp [sts]), ?_⟩
  rw [hroots]
  rintro ⟨-, hcount⟩
  exact hcount "b" rfl (by decide)

end ExportPlan

end QuadGraph
