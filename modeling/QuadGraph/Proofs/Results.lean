import QuadGraph.Proofs.JsonText
import QuadGraph.Proofs.Solutions

/-!
# Results tell terms and rows apart

Each kind of term has a name of its own in results, and under that name the value gives the rest
away: the parts of a simple term, the items of a collection, the key of a formula. So terms are given
by equal values only when they are the same (`Term.toJson_equal_iff`), and rows of results, whose
members are in the order of their names, only when they bind the same variables to the same terms.
Then their texts are equal too (`Bindings.json_identifies`).
-/

namespace QuadGraph

/-! ## Terms -/

def Kind.resultName : Kind → String
  | .literal => "literal"
  | .collection => "collection"
  | .formula => "formula"
  | .named => "uri"
  | .blank => "bnode"
  | .var => "variable"

namespace Term

def resultValue : Term → Json
  | .named iri => .string iri
  | .blank label => .string label
  | .literal l => .string l.value
  | .collection items => .array (itemsJson items)
  | .var name => .string name
  | .formula quads => .string (formula quads).key

def annotation : Term → Annotation
  | .literal l => l.annotation
  | _ => .plain

theorem toJson_eq (t : Term) :
    t.toJson = resultObject t.kind.resultName t.resultValue t.annotation.members := by
  cases t <;> rfl

open Annotation in
theorem resultObject_equal_iff {k l : String} {v w : Json} {a b : Annotation} :
    (resultObject k v a.members).Equal (resultObject l w b.members) ↔
      k = l ∧ v.Equal w ∧ a = b := by
  unfold resultObject
  rw [Json.object_equal_iff]
  · cases a <;> cases b <;> simp [members, Json.EqualMembers, Json.Equal]
  · cases b <;> simp [members]
  · intro h
    simp only [List.map_cons, List.perm_cons] at h ⊢
    cases a <;> cases b <;> simp_all [members]

mutual

theorem toJson_equal_iff : ∀ a b : Term, a.toJson.Equal b.toJson ↔ a.same b = true
  | .named a, b => by
    rw [toJson_eq, toJson_eq, resultObject_equal_iff]
    cases b <;> simp [kind, Kind.resultName, resultValue, annotation, Json.Equal, same]
  | .blank a, b => by
    rw [toJson_eq, toJson_eq, resultObject_equal_iff]
    cases b <;> simp [kind, Kind.resultName, resultValue, annotation, Json.Equal, same]
  | .var a, b => by
    rw [toJson_eq, toJson_eq, resultObject_equal_iff]
    cases b <;> simp [kind, Kind.resultName, resultValue, annotation, Json.Equal, same]
  | .literal ⟨v, x⟩, b => by
    rw [toJson_eq, toJson_eq, resultObject_equal_iff]
    cases b with
    | literal l =>
      obtain ⟨w, y⟩ := l
      simp [resultValue, annotation, Json.Equal, same, kind]
    | _ => simp [kind, Kind.resultName, same]
  | .formula as, b => by
    rw [toJson_eq, toJson_eq, resultObject_equal_iff]
    cases b <;> simp [kind, Kind.resultName, resultValue, annotation, Json.Equal, same]
  | .collection as, b => by
    rw [toJson_eq, toJson_eq, resultObject_equal_iff]
    cases b with
    | collection bs =>
      simp only [kind, resultValue, annotation, Json.Equal, same, true_and, and_true]
      exact itemsJson_equal_iff as bs
    | _ => simp [kind, Kind.resultName, same]

theorem itemsJson_equal_iff : ∀ as bs : List Term,
    Json.EqualItems (itemsJson as) (itemsJson bs) ↔ sameItems as bs = true
  | [], [] => by simp [itemsJson, Json.EqualItems, sameItems]
  | [], _ :: _ => by simp [itemsJson, Json.EqualItems, sameItems]
  | _ :: _, [] => by simp [itemsJson, Json.EqualItems, sameItems]
  | a :: as, b :: bs => by
    rw [itemsJson, itemsJson, Json.EqualItems, sameItems, Bool.and_eq_true, toJson_equal_iff a b,
      itemsJson_equal_iff as bs]

end

mutual

theorem toJson_congr : ∀ {a b : Term}, a.same b = true → a.toJson = b.toJson
  | .named a, b, h => by
    cases b with
    | named b => rw [beq_iff_eq.mp h]
    | _ => cases h
  | .blank a, b, h => by
    cases b with
    | blank b => rw [beq_iff_eq.mp h]
    | _ => cases h
  | .var a, b, h => by
    cases b with
    | var b => rw [beq_iff_eq.mp h]
    | _ => cases h
  | .literal a, b, h => by
    cases b with
    | literal b => rw [beq_iff_eq.mp h]
    | _ => cases h
  | .formula as, b, h => by
    cases b with
    | formula bs => rw [toJson, toJson, beq_iff_eq.mp h]
    | _ => cases h
  | .collection as, b, h => by
    cases b with
    | collection bs => rw [toJson, toJson, itemsJson_congr h]
    | _ => cases h

theorem itemsJson_congr : ∀ {as bs : List Term}, sameItems as bs = true →
    itemsJson as = itemsJson bs
  | [], [], _ => rfl
  | [], _ :: _, h => by cases h
  | _ :: _, [], h => by cases h
  | a :: as, b :: bs, h => by
    rw [sameItems, Bool.and_eq_true] at h
    rw [itemsJson, itemsJson, toJson_congr h.1, itemsJson_congr h.2]

end

theorem text_eq_iff {a b : Term} : a.toJson.text = b.toJson.text ↔ a.same b = true :=
  Json.text_eq_iff_of (toJson_equal_iff a b) toJson_congr

end Term

/-! ## Rows -/

namespace Bindings

theorem same_iff_toList {a b : Bindings} : a.same b = true ↔
    (a.toList.map fun p => (p.1, p.2.key)) = b.toList.map fun p => (p.1, p.2.key) := by
  rw [same_iff_keyed, ← Std.ExtTreeMap.toList_inj, keyed, keyed, Std.ExtTreeMap.toList_map,
    Std.ExtTreeMap.toList_map]
  rfl

theorem map_fst_toList (b : Bindings) : b.toList.map Prod.fst = b.names :=
  Std.ExtTreeMap.map_fst_toList_eq_keys

theorem map_fst_members (b : Bindings) :
    (b.toList.map fun p => (p.1, p.2.toJson)).map Prod.fst = b.names := by
  rw [List.map_map, ← map_fst_toList]
  rfl

theorem nodup_names (b : Bindings) : b.names.Nodup :=
  Std.ExtTreeMap.distinct_keys.imp fun hne heq => hne (Std.LawfulEqOrd.compare_eq_iff_eq.mpr heq)

/-- The names are in order, so they are in only one. -/
theorem names_eq_of_perm {a b : Bindings} (h : a.names.Perm b.names) : a.names = b.names := by
  refine h.eq_of_pairwise (fun m n _ _ hmn hnm => ?_) Std.ExtTreeMap.ordered_keys
    Std.ExtTreeMap.ordered_keys
  rw [Std.OrientedOrd.eq_swap, hnm] at hmn
  cases hmn

theorem equalMembers_iff {as bs : List (String × Term)} :
    Json.EqualMembers (as.map fun p => (p.1, p.2.toJson)) (bs.map fun p => (p.1, p.2.toJson)) ↔
      (as.map fun p => (p.1, p.2.key)) = bs.map fun p => (p.1, p.2.key) := by
  induction as generalizing bs with
  | nil => cases bs <;> simp [Json.EqualMembers]
  | cons a as ih =>
    cases bs with
    | nil => simp [Json.EqualMembers]
    | cons b bs =>
      simp only [List.map_cons, Json.EqualMembers, ih, Term.toJson_equal_iff, Term.same_iff_key,
        List.cons.injEq, Prod.mk.injEq, and_assoc]

theorem toJson_equal_iff (a b : Bindings) : a.toJson.Equal b.toJson ↔ a.same b = true := by
  rw [toJson, toJson, Json.object_equal_iff, equalMembers_iff, same_iff_toList]
  · rw [map_fst_members]
    exact b.nodup_names
  · rw [map_fst_members, map_fst_members]
    exact names_eq_of_perm

theorem members_congr {as bs : List (String × Term)}
    (h : (as.map fun p => (p.1, p.2.key)) = bs.map fun p => (p.1, p.2.key)) :
    (as.map fun p => (p.1, p.2.toJson)) = bs.map fun p => (p.1, p.2.toJson) := by
  induction as generalizing bs with
  | nil =>
    cases bs with
    | nil => rfl
    | cons b bs => cases h
  | cons a as ih =>
    cases bs with
    | nil => cases h
    | cons b bs =>
      obtain ⟨hab, hrest⟩ := List.cons.inj h
      obtain ⟨hname, hkey⟩ := Prod.mk.inj hab
      rw [List.map_cons, List.map_cons, hname, Term.toJson_congr (Term.same_iff_key.mpr hkey),
        ih hrest]

theorem toJson_congr {a b : Bindings} (h : a.same b = true) : a.toJson = b.toJson := by
  rw [toJson, toJson, members_congr (same_iff_toList.mp h)]

theorem text_eq_iff {a b : Bindings} : a.toJson.text = b.toJson.text ↔ a.same b = true :=
  Json.text_eq_iff_of (toJson_equal_iff a b) toJson_congr

def sameText (a b : Bindings) : Bool := a.toJson.text == b.toJson.text

/-- The value that stands for a term in results gives the term away, whatever is nested in it, and
the object that stands for a row gives the row away. So do their texts. To drop rows whose text has
occurred is to drop rows that have occurred. -/
theorem json_identifies :
    (∀ a b : Term, (a.toJson.Equal b.toJson ↔ a.same b = true) ∧
      (a.toJson.text = b.toJson.text ↔ a.same b = true)) ∧
    (∀ a b : Bindings, (a.toJson.Equal b.toJson ↔ a.same b = true) ∧
      (a.toJson.text = b.toJson.text ↔ a.same b = true)) ∧
    ∀ rows : List Bindings, rows.eraseDupsBy sameText = rows.eraseDupsBy same := by
  refine ⟨fun a b => ⟨Term.toJson_equal_iff a b, Term.text_eq_iff⟩,
    fun a b => ⟨toJson_equal_iff a b, text_eq_iff⟩, fun rows => ?_⟩
  have hsame : sameText = same := by
    funext a b
    rw [Bool.eq_iff_iff, sameText, beq_iff_eq, text_eq_iff]
  rw [hsame]

end Bindings

end QuadGraph
