import Mathlib.Data.List.Forall2
import QuadGraph.Export
import QuadGraph.Proofs.Equality

/-!
# Statements on lines

Whatever a key escapes, the ends of lines are among it, in bare parts and in quoted ones
(`Term.unbroken_keyChars`). A text of statements can therefore be read line by line, and each line is
the key of one statement, which tells it from all others (`statementLines_faithful`).
-/

namespace QuadGraph

def Unbroken (cs : List Char) : Prop := ∀ c ∈ cs, c ≠ '\n' ∧ c ≠ '\r'

namespace Unbroken

theorem nil : Unbroken [] := fun _ h => absurd h List.not_mem_nil

theorem cons {c : Char} {cs : List Char} (hc : c ≠ '\n' ∧ c ≠ '\r') (h : Unbroken cs) :
    Unbroken (c :: cs) :=
  List.forall_mem_cons.mpr ⟨hc, h⟩

theorem append {as bs : List Char} (ha : Unbroken as) (hb : Unbroken bs) : Unbroken (as ++ bs) :=
  List.forall_mem_append.mpr ⟨ha, hb⟩

theorem flatMap {α : Type} {f : α → List Char} {xs : List α} (h : ∀ x ∈ xs, Unbroken (f x)) :
    Unbroken (xs.flatMap f) := by
  intro c hc
  obtain ⟨x, hx, hcx⟩ := List.mem_flatMap.mp hc
  exact h x hx c hcx

end Unbroken

/-! ## The parts of a key -/

theorem unbroken_bareChar (c : Char) : Unbroken (bareChar c) := by
  unfold bareChar
  split
  case h_6 hbackslash hspace hn hr ht =>
    split
    · exact .cons (by decide) (.cons ⟨hn, hr⟩ .nil)
    · exact .cons ⟨hn, hr⟩ .nil
  all_goals exact .cons (by decide) (.cons (by decide) .nil)

theorem unbroken_quotedChar (c : Char) : Unbroken (quotedChar c) := by
  unfold quotedChar
  split
  case h_6 hbackslash hquote hn hr ht => exact .cons ⟨hn, hr⟩ .nil
  all_goals exact .cons (by decide) (.cons (by decide) .nil)

theorem unbroken_bareText (s : String) : Unbroken (bareText s) := .flatMap fun c _ => unbroken_bareChar c

theorem unbroken_quotedText (s : String) : Unbroken (quotedText s) :=
  .flatMap fun c _ => unbroken_quotedChar c

theorem unbroken_bracketed (s : String) : Unbroken (bracketed s) :=
  .cons (by decide) ((unbroken_bareText s).append (.cons (by decide) .nil))

theorem Annotation.unbroken_keyChars (a : Annotation) : Unbroken a.keyChars := by
  cases a with
  | plain => exact .nil
  | typed datatype => exact .cons (by decide) (.cons (by decide) (unbroken_bracketed datatype))
  | tagged language => exact .cons (by decide) (unbroken_bareText language)

theorem Literal.unbroken_keyChars (l : Literal) : Unbroken l.keyChars :=
  .cons (by decide)
    ((unbroken_quotedText l.value).append (.cons (by decide) l.annotation.unbroken_keyChars))

namespace Term

mutual

theorem unbroken_keyChars : ∀ t : Term, Unbroken t.keyChars
  | .named iri => unbroken_bracketed iri
  | .blank label => .cons (by decide) (.cons (by decide) (unbroken_bareText label))
  | .literal l => l.unbroken_keyChars
  | .collection items =>
    .cons (by decide)
      ((unbroken_itemsChars items).append (.cons (by decide) (.cons (by decide) .nil)))
  | .var name => .cons (by decide) (unbroken_bareText name)
  | .formula quads =>
    .cons (by decide)
      (Unbroken.append (.flatMap fun k hk => .cons (by decide)
        (unbroken_quadsChars quads k (List.mem_mergeSort.mp hk)))
        (.cons (by decide) (.cons (by decide) .nil)))

theorem unbroken_itemsChars : ∀ ts : List Term, Unbroken (itemsChars ts)
  | [] => .nil
  | t :: ts => .cons (by decide) ((unbroken_keyChars t).append (unbroken_itemsChars ts))

theorem unbroken_quadChars : ∀ q : Quad Term, Unbroken (quadChars q)
  | ⟨s, p, o, c⟩ =>
    (unbroken_keyChars s).append (.cons (by decide)
      ((unbroken_keyChars p).append (.cons (by decide)
        ((unbroken_keyChars o).append (.cons (by decide)
          ((unbroken_keyChars c).append (.cons (by decide) (.cons (by decide) .nil))))))))

theorem unbroken_quadsChars : ∀ qs : List (Quad Term), ∀ k ∈ quadsChars qs, Unbroken k
  | [], k, hk => absurd hk List.not_mem_nil
  | q :: qs, k, hk => by
    rcases List.mem_cons.mp hk with rfl | hk
    · exact unbroken_quadChars q
    · exact unbroken_quadsChars qs k hk

end

end Term

theorem Quad.toList_key (st : Statement) : st.key.toList = Term.quadChars st := String.toList_ofList

/-! ## Lines -/

theorem toList_statementLines (sts : List Statement) :
    (statementLines sts).toList = sts.flatMap fun st => Term.quadChars st ++ ['\n'] := by
  simp only [statementLines, String.toList_join, List.flatMap_map, String.toList_append,
    Quad.toList_key]
  rfl

theorem splitOn_statementLines (sts : List Statement) :
    (statementLines sts).toList.splitOn '\n' = sts.map Term.quadChars ++ [[]] := by
  rw [toList_statementLines]
  induction sts with
  | nil => rfl
  | cons st sts ih =>
    have hline : '\n' ∉ Term.quadChars st := fun h => (Term.unbroken_quadChars st '\n' h).1 rfl
    rw [List.flatMap_cons, List.append_assoc, List.singleton_append, List.splitOn_append_cons_self,
      List.splitOn_eq_singleton hline, ih]
    rfl

/-- The statements can be read back from their text, up to those that are the same. -/
theorem statementLines_eq_iff {sts sts' : List Statement} :
    statementLines sts = statementLines sts' ↔ List.Forall₂ (fun a b => a.same b = true) sts sts' := by
  have hsame : (List.Forall₂ (fun a b => a.same b = true) sts sts') ↔
      sts.map Term.quadChars = sts'.map Term.quadChars := by
    simp only [Quad.same_iff_key, Quad.key_eq_iff, ← List.forall₂_eq_eq_eq, List.forall₂_map_left_iff,
      List.forall₂_map_right_iff]
  rw [hsame]
  constructor
  · intro h
    have hsplit := congrArg (fun text : String => text.toList.splitOn '\n') h
    simp only [splitOn_statementLines] at hsplit
    exact List.append_cancel_right hsplit
  · intro h
    have hlines := congrArg (List.flatMap fun line => line ++ ['\n']) h
    rw [List.flatMap_map, List.flatMap_map] at hlines
    rw [← String.toList_inj, toList_statementLines, toList_statementLines]
    exact hlines

/-- A text of statements has one line for each, with no end of a line inside. Two texts are equal, to
the byte, just when their statements are the same, one by one. -/
theorem statementLines_faithful :
    (∀ sts : List Statement,
      (statementLines sts).toList.splitOn '\n' = sts.map (fun st => st.key.toList) ++ [[]] ∧
      ∀ st ∈ sts, ∀ c ∈ st.key.toList, c ≠ '\n' ∧ c ≠ '\r') ∧
    ∀ sts sts' : List Statement,
      (statementLines sts).toByteArray = (statementLines sts').toByteArray ↔
        List.Forall₂ (fun a b => a.same b = true) sts sts' := by
  refine ⟨fun sts => ⟨?_, fun st _ => ?_⟩, fun sts sts' => ?_⟩
  · simp only [Quad.toList_key, splitOn_statementLines]
  · rw [Quad.toList_key]
    exact Term.unbroken_quadChars st
  · rw [String.toByteArray_inj]
    exact statementLines_eq_iff

end QuadGraph
