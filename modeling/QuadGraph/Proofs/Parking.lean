import QuadGraph.Query.Execution

/-!
# Tasks that are parked

Parking moves a task from the stack to the document that it waits for, and settling a document moves
all tasks that wait for it back. Neither loses a task or makes one (`tasks_park`,
`tasks_documentReady`).
-/

namespace QuadGraph

/-! ## Values of a map -/

section
variable {α : Type} {m : Std.ExtTreeMap String α} {k : String} {v : α}

theorem values_eq_map_snd (m : Std.ExtTreeMap String α) : m.values = m.toList.map Prod.snd := by
  obtain ⟨m⟩ := m
  induction m using Std.ExtDTreeMap.inductionOn with
  | mk m =>
    change m.inner.values = (Std.DTreeMap.Internal.Impl.Const.toList m.inner).map Prod.snd
    rw [Std.DTreeMap.Internal.Impl.values_eq_map_snd,
      Std.DTreeMap.Internal.Impl.Const.toList_eq_toListModel_map, List.map_map]
    rfl

theorem nodup_toList (m : Std.ExtTreeMap String α) : m.toList.Nodup := by
  refine (Std.ExtTreeMap.distinct_keys_toList (t := m)).imp fun {a b} hne heq => hne ?_
  rw [heq]
  exact Std.ReflCmp.compare_self

theorem toList_perm_erase (h : m[k]? = some v) : m.toList.Perm ((k, v) :: (m.erase k).toList) := by
  have hout : (k, v) ∉ (m.erase k).toList := by
    rw [Std.ExtTreeMap.mem_toList_iff_getElem?_eq_some, Std.ExtTreeMap.getElem?_erase_self]
    exact nofun
  refine (List.perm_ext_iff_of_nodup (nodup_toList m)
    (List.nodup_cons.mpr ⟨hout, nodup_toList _⟩)).mpr fun ⟨k', v'⟩ => ?_
  simp only [List.mem_cons, Std.ExtTreeMap.mem_toList_iff_getElem?_eq_some,
    Std.ExtTreeMap.getElem?_erase, Std.LawfulEqOrd.compare_eq_iff_eq, Prod.mk.injEq]
  by_cases hk : k = k'
  · subst hk
    simp [h, eq_comm]
  · simp [hk, Ne.symm hk]

theorem values_perm_erase (h : m[k]? = some v) : m.values.Perm (v :: (m.erase k).values) := by
  rw [values_eq_map_snd, values_eq_map_snd]
  exact (toList_perm_erase h).map Prod.snd

theorem values_insert_perm (m : Std.ExtTreeMap String α) (k : String) (v : α) :
    (m.insert k v).values.Perm (v :: (m.erase k).values) := by
  have herase : (m.insert k v).erase k = m.erase k := by
    ext k' v'
    simp only [Std.ExtTreeMap.getElem?_erase, Std.ExtTreeMap.getElem?_insert]
    split <;> rfl
  rw [← herase]
  exact values_perm_erase Std.ExtTreeMap.getElem?_insert_self

theorem erase_of_none (h : m[k]? = none) : m.erase k = m := by
  refine Std.ExtTreeMap.ext_getElem? fun k' => ?_
  simp only [Std.ExtTreeMap.getElem?_erase, Std.LawfulEqOrd.compare_eq_iff_eq]
  split
  case isTrue hk => rw [← hk, h]
  case isFalse => rfl

theorem mem_values_iff : v ∈ m.values ↔ ∃ k : String, m[k]? = some v := by
  rw [values_eq_map_snd, List.mem_map]
  constructor
  · rintro ⟨⟨k, w⟩, hmem, rfl⟩
    exact ⟨k, Std.ExtTreeMap.mem_toList_iff_getElem?_eq_some.mp hmem⟩
  · rintro ⟨k, hk⟩
    exact ⟨(k, v), Std.ExtTreeMap.mem_toList_iff_getElem?_eq_some.mpr hk, rfl⟩

theorem exists_of_ne_empty (h : m ≠ ∅) : ∃ (k : String) (v : α), m[k]? = some v := by
  refine Classical.byContradiction fun hnone => h (Std.ExtTreeMap.ext_getElem? fun k => ?_)
  rw [Std.ExtTreeMap.getElem?_empty]
  cases hk : m[k]? with
  | none => rfl
  | some v => exact absurd ⟨k, v, hk⟩ hnone

end

namespace Execution

/-! ## Tasks, on the stack or parked -/

def tasks (e : Execution) : List Task := e.stack ++ e.parked.values.flatMap Parked.tasks

theorem tasks_park (e : Execution) (document : Term) (t : Task) :
    (e.park document t).tasks.Perm (t :: e.tasks) := by
  have hparked : ∀ first ts, ((e.parked.insert document.key ⟨first, ts⟩).values.flatMap
      Parked.tasks).Perm (ts ++ (e.parked.erase document.key).values.flatMap Parked.tasks) :=
    fun first ts => (values_insert_perm e.parked document.key ⟨first, ts⟩).flatMap_right _
  rw [park]
  cases hfind : e.parked[document.key]? with
  | none =>
    refine ((hparked _ _).append_left e.stack).trans ?_
    rw [erase_of_none hfind]
    exact List.perm_middle
  | some p =>
    have hall := (values_perm_erase hfind).flatMap_right Parked.tasks
    refine ((hparked _ _).append_left e.stack).trans ?_
    refine List.Perm.trans ?_ ((hall.append_left e.stack).symm.cons t)
    simp only [Option.map_some, Option.getD_some, List.flatMap_cons, ← List.append_assoc]
    rw [List.append_assoc _ [t]]
    exact List.perm_middle

theorem tasks_documentReady (e : Execution) (document : Term) :
    (e.documentReady document).2.tasks.Perm e.tasks := by
  rw [documentReady]
  cases hfind : e.parked[document.key]? with
  | none => exact .refl _
  | some p =>
    have hall := (values_perm_erase hfind).flatMap_right Parked.tasks
    refine List.Perm.trans ?_ (hall.append_left e.stack).symm
    rw [tasks, List.flatMap_cons, ← List.append_assoc]
    exact List.perm_append_comm.append_right _

/-! ## What is parked -/

theorem parked_documentReady (e : Execution) (document : Term) :
    (e.documentReady document).2.parked = e.parked.erase document.key := by
  rw [documentReady]
  cases hfind : e.parked[document.key]? with
  | none => exact (erase_of_none hfind).symm
  | some w => rfl

theorem parked_of_documentReady {e : Execution} {document : Term} {key : String} {w : Parked}
    (h : (e.documentReady document).2.parked[key]? = some w) :
    e.parked[key]? = some w ∧ document.key ≠ key := by
  rw [parked_documentReady, Std.ExtTreeMap.getElem?_erase] at h
  split at h
  · cases h
  · rename_i hne
    exact ⟨h, by simpa using hne⟩

theorem parked_of_park {e : Execution} {d : Term} {t : Task} {key : String} {w : Parked}
    (h : (e.park d t).parked[key]? = some w) : e.parked[key]? = some w ∨
      d.key = key ∧ (w = ⟨d, [t]⟩ ∨
        ∃ v : Parked, e.parked[key]? = some v ∧ w = ⟨v.document, v.tasks ++ [t]⟩) := by
  rw [park, Std.ExtTreeMap.getElem?_insert] at h
  by_cases hkey : d.key = key
  · subst hkey
    refine .inr ⟨rfl, ?_⟩
    cases hfind : e.parked[d.key]? with
    | none => simp_all
    | some v => simp_all
  · simp only [Std.LawfulEqOrd.compare_eq_iff_eq, hkey, if_false] at h
    exact .inl h

theorem mem_waitingOn {e : Execution} {d : Term} :
    d ∈ e.waitingOn ↔ ∃ (key : String) (w : Parked), e.parked[key]? = some w ∧ w.document = d := by
  rw [waitingOn, Term.sort, (List.mergeSort_perm _ _).mem_iff, List.mem_map]
  constructor
  · rintro ⟨w, hw, rfl⟩
    obtain ⟨key, hkey⟩ := mem_values_iff.mp hw
    exact ⟨key, w, hkey, rfl⟩
  · rintro ⟨key, w, hw, rfl⟩
    exact ⟨w, mem_values_iff.mpr ⟨key, hw⟩, rfl⟩

end Execution

end QuadGraph
