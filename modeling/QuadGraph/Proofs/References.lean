import Mathlib.Data.List.Count
import Mathlib.Data.List.Nodup
import QuadGraph.Export
import QuadGraph.Proofs.Keys

/-!
# References

What an export plan knows of statements is said here without keys and counters: the subjects are the
different ones, in the order in which they first occur, and a blank node has as many incoming
references as its label occurs in the objects (`incoming_tallies`). So a term is inline when it is a
blank node that is referred to once (`isInline_iff`).
-/

namespace QuadGraph

/-! ## Blank nodes in a term -/

namespace Term

mutual

/-- The labels of the blank nodes that a term refers to, each as often as it does. Of a quoted quad
they are those of its subject and its object. -/
def references : Term → List String
  | .blank label => [label]
  | .collection items => itemReferences items
  | .formula quads => quadsReferences quads
  | _ => []

def itemReferences : List Term → List String
  | [] => []
  | t :: ts => t.references ++ itemReferences ts

def quadReferences : Quad Term → List String
  | ⟨s, _, o, _⟩ => s.references ++ o.references

def quadsReferences : List (Quad Term) → List String
  | [] => []
  | q :: qs => quadReferences q ++ quadsReferences qs

end

def blankKey (label : String) : String := (blank label).key

theorem blankKey_inj {a b : String} (h : blankKey a = blankKey b) : a = b := by
  simpa [same] using same_iff_key.mpr h

end Term

/-! ## Counting -/

namespace ReferenceCounts

def Tallies (counts : ReferenceCounts) (ks : List String) : Prop :=
  ∀ k, counts[k]? = if k ∈ ks then some (ks.count k) else none

variable {c : ReferenceCounts} {ks : List String}

theorem tallies_nil : Tallies ∅ [] := by
  intro k
  simp

theorem Tallies.count (h : c.Tallies ks) (k : String) : count c k = ks.count k := by
  rw [ReferenceCounts.count, Std.ExtTreeMap.getD_eq_getD_getElem?, h k]
  split
  case isTrue => rfl
  case isFalse hk => rw [List.count_eq_zero_of_not_mem hk]; rfl

theorem Tallies.increment (h : c.Tallies ks) (k : String) : (c.increment k).Tallies (ks ++ [k]) := by
  intro j
  rw [ReferenceCounts.increment, Std.ExtTreeMap.getElem?_insert, h.count, h j]
  by_cases hj : k = j
  · subst hj
    simp [List.count_append]
  · simp [hj, Ne.symm hj, List.count_append]

end ReferenceCounts

namespace Term

mutual

theorem tallies_countReferences : ∀ (t : Term) {c : ReferenceCounts} {ks : List String},
    c.Tallies ks → (t.countReferences c).Tallies (ks ++ t.references.map blankKey)
  | .blank _, c, ks, h => h.increment _
  | .collection items, c, ks, h => tallies_countInItems items h
  | .formula quads, c, ks, h => tallies_countInQuads quads h
  | .named _, c, ks, h => by simpa [references, countReferences] using h
  | .literal _, c, ks, h => by simpa [references, countReferences] using h
  | .var _, c, ks, h => by simpa [references, countReferences] using h

theorem tallies_countInItems : ∀ (ts : List Term) {c : ReferenceCounts} {ks : List String},
    c.Tallies ks → (countInItems ts c).Tallies (ks ++ (itemReferences ts).map blankKey)
  | [], c, ks, h => by simpa [itemReferences, countInItems] using h
  | t :: ts, c, ks, h => by
    rw [itemReferences, List.map_append, ← List.append_assoc]
    exact tallies_countInItems ts (tallies_countReferences t h)

theorem tallies_countInQuad : ∀ (q : Quad Term) {c : ReferenceCounts} {ks : List String},
    c.Tallies ks → (countInQuad q c).Tallies (ks ++ (quadReferences q).map blankKey)
  | ⟨s, _, o, _⟩, c, ks, h => by
    rw [quadReferences, List.map_append, ← List.append_assoc]
    exact tallies_countReferences o (tallies_countReferences s h)

theorem tallies_countInQuads : ∀ (qs : List (Quad Term)) {c : ReferenceCounts} {ks : List String},
    c.Tallies ks → (countInQuads qs c).Tallies (ks ++ (quadsReferences qs).map blankKey)
  | [], c, ks, h => by simpa [quadsReferences, countInQuads] using h
  | q :: qs, c, ks, h => by
    rw [quadsReferences, List.map_append, ← List.append_assoc]
    exact tallies_countInQuads qs (tallies_countInQuad q h)

end

end Term

/-! ## Plans -/

def referencesIn (sts : List Statement) : List String := sts.flatMap fun st => st.object.references

namespace ExportPlan

variable {sts : List Statement} {t : Term}

theorem incoming_tallies (sts : List Statement) :
    (ofStatements sts).incoming.Tallies ((referencesIn sts).map Term.blankKey) := by
  have hcounted : ∀ (sts : List Statement) {c : ReferenceCounts} {ks : List String}, c.Tallies ks →
      (sts.foldl (fun counts st => st.object.countReferences counts) c).Tallies
        (ks ++ (referencesIn sts).map Term.blankKey) := by
    intro sts
    induction sts with
    | nil => intro c ks h; simpa [referencesIn] using h
    | cons st sts ih =>
      intro c ks h
      rw [List.foldl_cons, referencesIn, List.flatMap_cons, List.map_append, ← List.append_assoc]
      exact ih (st.object.tallies_countReferences h)
  exact hcounted sts ReferenceCounts.tallies_nil

theorem isInline_blank {label : String} : (ofStatements sts).isInline (.blank label) = true ↔
    (referencesIn sts).count label = 1 := by
  have hcount : ((referencesIn sts).map Term.blankKey).count (Term.blankKey label) =
      (referencesIn sts).count label :=
    List.count_map_of_injective _ _ (fun _ _ => Term.blankKey_inj) _
  have hincoming := incoming_tallies sts (Term.blankKey label)
  rw [hcount] at hincoming
  rw [isInline, Bool.and_eq_true, beq_iff_eq]
  change _ ∧ (ofStatements sts).incoming[Term.blankKey label]? = _ ↔ _
  rw [hincoming]
  constructor
  · rintro ⟨-, h⟩
    split at h
    case isTrue => exact Option.some.inj h
    case isFalse => cases h
  · intro h
    have hmem : label ∈ referencesIn sts := List.count_pos_iff.mp (by omega)
    rw [if_pos (List.mem_map_of_mem hmem), h]
    exact ⟨rfl, rfl⟩

/-- A blank node is inline when it is referred to once. -/
theorem isInline_iff : (ofStatements sts).isInline t = true ↔
    ∃ label, t = .blank label ∧ (referencesIn sts).count label = 1 := by
  cases t with
  | blank label => simp [isInline_blank]
  | _ => simp [isInline, Term.isBlank]

/-! ## Subjects -/

theorem mem_firstSubjects {seen : List String} (h : t ∈ firstSubjects sts seen) :
    t.key ∉ seen ∧ ∃ st ∈ sts, st.subject = t := by
  induction sts generalizing seen with
  | nil => cases h
  | cons st sts ih =>
    rw [firstSubjects] at h
    split at h
    case isTrue =>
      obtain ⟨hnew, st', hst', rfl⟩ := ih h
      exact ⟨hnew, st', List.mem_cons_of_mem _ hst', rfl⟩
    case isFalse hseen =>
      rcases List.mem_cons.mp h with rfl | h
      · exact ⟨fun hmem => hseen (List.contains_iff_mem.mpr hmem), st, List.mem_cons_self .., rfl⟩
      · obtain ⟨hnew, st', hst', rfl⟩ := ih h
        exact ⟨fun hmem => hnew (List.mem_cons_of_mem _ hmem), st', List.mem_cons_of_mem _ hst', rfl⟩

theorem exists_firstSubjects {seen : List String} {st : Statement} (hst : st ∈ sts)
    (hseen : st.subject.key ∉ seen) : ∃ t ∈ firstSubjects sts seen, t.key = st.subject.key := by
  induction sts generalizing seen with
  | nil => cases hst
  | cons st' sts ih =>
    rw [firstSubjects]
    split
    case isTrue hmem =>
      rcases List.mem_cons.mp hst with rfl | hst
      · exact absurd (List.contains_iff_mem.mp hmem) hseen
      · exact ih hst hseen
    case isFalse =>
      by_cases hkey : st'.subject.key = st.subject.key
      · exact ⟨st'.subject, List.mem_cons_self .., hkey⟩
      · have hrest : st ∈ sts := by
          rcases List.mem_cons.mp hst with rfl | hst
          · exact absurd rfl hkey
          · exact hst
        have hseen' : st.subject.key ∉ st'.subject.key :: seen := by
          simp [Ne.symm hkey, hseen]
        obtain ⟨t, ht, htkey⟩ := ih hrest hseen'
        exact ⟨t, List.mem_cons_of_mem _ ht, htkey⟩

theorem nodup_firstSubjects (sts : List Statement) (seen : List String) :
    ((firstSubjects sts seen).map Term.key).Nodup := by
  induction sts generalizing seen with
  | nil => exact List.nodup_nil
  | cons st sts ih =>
    rw [firstSubjects]
    split
    case isTrue => exact ih seen
    case isFalse =>
      refine List.nodup_cons.mpr ⟨fun hmem => ?_, ih _⟩
      obtain ⟨t, ht, hkey⟩ := List.mem_map.mp hmem
      exact (mem_firstSubjects ht).1 (hkey ▸ List.mem_cons_self ..)

theorem exists_subject {st : Statement} (hst : st ∈ sts) :
    ∃ t ∈ (ofStatements sts).subjects, t.same st.subject = true := by
  obtain ⟨t, ht, hkey⟩ := exists_firstSubjects hst (List.not_mem_nil)
  exact ⟨t, ht, Term.same_iff_key.mpr hkey⟩

theorem eq_of_subjects {t u : Term} (ht : t ∈ (ofStatements sts).subjects)
    (hu : u ∈ (ofStatements sts).subjects) (h : t.key = u.key) : t = u :=
  List.inj_on_of_nodup_map (nodup_firstSubjects sts []) ht hu h

theorem mem_roots : t ∈ (ofStatements sts).roots ↔
    t ∈ (ofStatements sts).subjects ∧ (ofStatements sts).isInline t = false := by
  rw [roots, List.mem_filter, Bool.not_eq_true']

end ExportPlan

end QuadGraph
