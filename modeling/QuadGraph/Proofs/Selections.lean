import Mathlib.Logic.Function.Basic
import QuadGraph.Proofs.Growth
import QuadGraph.Proofs.Planning

/-!
# Selections of entries

A tuple of entries solves a pattern when some extension of the bindings matches each statement with
its entry (`Graph.Solves`). A task has selected the entries of some places already and its bindings
are all that it remembers of them (`Graph.Matched`). Both survive that the graph grows, though the
bindings were made when fewer terms were alike. Selecting one more entry gives a task again
(`Matched.choose`), and if the entries so far are those of a tuple that solves the pattern, then the
next entry of the tuple is a candidate and matches (`Solves.candidate`).
-/

namespace QuadGraph

namespace Graph

/-! ## Fitting modulo what is alike -/

/-- The variable stands for a term like the one met. -/
def Stands (g : Graph) (b : Bindings) (name : String) (u : Term) : Prop :=
  ∃ t, b.values[name]? = some t ∧ g.alike t u = true

def Closed (st : Statement) : Prop := ∀ pos ∈ Prepared.matched, (st.get pos).isOpen = false

theorem eq_var_of_mem {t : Term} (hclosed : t.isOpen = false) {name : String} (h : name ∈ t.vars) :
    t = .var name := by
  cases t with
  | var n => rw [List.mem_singleton.mp h]
  | collection items =>
    have hopen : Term.anyVariable items = true := anyVariable_of_mem h
    rw [Term.isOpen, hopen] at hclosed
    cases hclosed
  | named iri => exact absurd h List.not_mem_nil
  | blank label => exact absurd h List.not_mem_nil
  | literal l => exact absurd h List.not_mem_nil
  | formula quads => exact absurd h List.not_mem_nil

theorem Closed.exists_position {st : Statement} (hclosed : Closed st) {name : String}
    (h : name ∈ st.vars) : ∃ pos ∈ Prepared.matched, st.get pos = .var name := by
  have hvars : st.vars = st.subject.vars ++ st.predicate.vars ++ st.object.vars := rfl
  have hpos : ∀ pos ∈ Prepared.matched, name ∈ (st.get pos).vars →
      ∃ pos ∈ Prepared.matched, st.get pos = .var name :=
    fun pos hmem hname => ⟨pos, hmem, eq_var_of_mem (hclosed pos hmem) hname⟩
  rw [hvars, List.mem_append, List.mem_append] at h
  rcases h with (h | h) | h
  · exact hpos .subject (by simp [Prepared.matched]) h
  · exact hpos .predicate (by simp [Prepared.matched]) h
  · exact hpos .object (by simp [Prepared.matched]) h

section
variable {g g' : Graph} {b b' : Bindings} {t u v : Term}

theorem alike_symm (h : g.alike t u = true) : g.alike u t = true := by
  rw [alike, beq_iff_eq] at h ⊢
  exact h.symm

theorem alike_trans (h : g.alike t u = true) (h' : g.alike u v = true) : g.alike t v = true := by
  rw [alike, beq_iff_eq] at h h' ⊢
  exact h.trans h'

theorem Stands.grows (h : g.Grows g') (hb : b.Under b') {name : String} (hstands : g.Stands b name u) :
    g'.Stands b' name u := by
  obtain ⟨t, ht, halike⟩ := hstands
  exact ⟨t, hb name t ht, h.alike t u halike⟩

theorem Fits.grows (h : g.Grows g') {meets meets' : String → Term → Prop} (hclosed : t.isOpen = false)
    (hmeets : ∀ name, t = .var name → meets name u → meets' name u) (hfits : g.Fits meets t u) :
    g'.Fits meets' t u := by
  cases t with
  | var name => exact hmeets name rfl hfits
  | collection items =>
    have hground : ¬ Term.anyVariable items = true := Bool.eq_false_iff.mp hclosed
    rw [Fits, if_neg hground] at hfits ⊢
    exact h.alike _ _ hfits
  | named iri => exact h.alike _ _ hfits
  | blank label => exact h.alike _ _ hfits
  | literal l => exact h.alike _ _ hfits
  | formula quads => exact h.alike _ _ hfits

theorem FitsStatement.grows (h : g.Grows g') {meets meets' : String → Term → Prop}
    {st found : Statement} (hclosed : Closed st)
    (hmeets : ∀ pos ∈ Prepared.matched, ∀ name, st.get pos = .var name →
      meets name (found.get pos) → meets' name (found.get pos))
    (hfits : g.FitsStatement meets st found) : g'.FitsStatement meets' st found := by
  have hpos : ∀ pos ∈ Prepared.matched, g'.Fits meets' (st.get pos) (found.get pos) :=
    fun pos hmem => (hfits.get hmem).grows h (hclosed pos hmem) (hmeets pos hmem)
  exact ⟨hpos .subject (by simp [Prepared.matched]), hpos .predicate (by simp [Prepared.matched]),
    hpos .object (by simp [Prepared.matched])⟩

theorem FitsStatement.stands_grows (h : g.Grows g') (hb : b.Under b') {st found : Statement}
    (hclosed : Closed st) (hfits : g.FitsStatement (g.Stands b) st found) :
    g'.FitsStatement (g'.Stands b') st found :=
  hfits.grows h hclosed fun _ _ _ _ hstands => hstands.grows h hb

theorem FitsStatement.stands {st found : Statement} (hfits : g.FitsStatement (g.Stands b) st found)
    {pos : Position} (hpos : pos ∈ Prepared.matched) {name : String} (hname : st.get pos = .var name) :
    g.Stands b name (found.get pos) := by
  have hfit := hfits.get hpos
  rw [hname] at hfit
  exact hfit

end

/-! ## Tuples -/

/-- Stored entries, one for each statement, that some extension of the bindings matches. -/
structure Solves (g : Graph) (p : Pattern) (start : Bindings) (tuple : List Entry) : Prop where
  stored : ∀ e ∈ tuple, e ∈ g.entries
  length : tuple.length = p.size
  fits : ∃ b, start.Under b ∧ ∀ (i : Nat) (st : Statement) (e : Entry),
    p.statements[i]? = some st → tuple[i]? = some e → g.FitsStatement (g.Stands b) st e.statement

/-- The entries chosen so far, by the places of their statements. -/
abbrev Selection := Nat → Option Entry

def Selection.Agrees (c : Selection) (tuple : List Entry) : Prop :=
  ∀ (i : Nat) (e : Entry), c i = some e → tuple[i]? = some e

def Selection.Apart (c d : Selection) : Prop :=
  ∃ (i : Nat) (x y : Entry), c i = some x ∧ d i = some y ∧ x ≠ y

theorem Selection.Apart.symm {c d : Selection} (h : Selection.Apart c d) : Selection.Apart d c := by
  obtain ⟨i, x, y, hx, hy, hne⟩ := h
  exact ⟨i, y, x, hy, hx, Ne.symm hne⟩

theorem Selection.update_cases {c : Selection} {i k : Nat} {e x : Entry}
    (h : Function.update c i (some e) k = some x) : (k = i ∧ x = e) ∨ c k = some x := by
  by_cases hk : k = i
  · subst hk
    rw [Function.update_self] at h
    exact .inl ⟨rfl, (Option.some.inj h).symm⟩
  · rw [Function.update_of_ne hk] at h
    exact .inr h

theorem Selection.update_of_some {c : Selection} {i k : Nat} {e x : Entry} (hfree : c i = none)
    (h : c k = some x) : Function.update c i (some e) k = some x := by
  have hk : k ≠ i := by
    rintro rfl
    rw [hfree] at h
    cases h
  rw [Function.update_of_ne hk, h]

theorem Selection.Agrees.update {c : Selection} {tuple : List Entry} (h : Selection.Agrees c tuple) {i : Nat}
    {e : Entry} (he : tuple[i]? = some e) : Selection.Agrees (Function.update c i (some e)) tuple := by
  intro k x hx
  rcases update_cases hx with ⟨rfl, rfl⟩ | hx
  · exact he
  · exact h k x hx

/-- The bindings are the first ones with what was met by matching the entries chosen, and the other
places are still to be matched. -/
structure Matched (g : Graph) (p : Pattern) (start b : Bindings) (c : Selection)
    (remaining : List Nat) : Prop where
  under : start.Under b
  distinct : remaining.Nodup
  rest : ∀ i, i ∈ remaining ↔ i < p.size ∧ c i = none
  stored : ∀ (i : Nat) (e : Entry), c i = some e → e ∈ g.entries
  fits : ∀ (i : Nat) (e : Entry), c i = some e → ∃ st, p.statements[i]? = some st ∧
    g.FitsStatement (g.Stands b) st e.statement
  bound : ∀ (name : String) (t : Term), b.values[name]? = some t → start.values[name]? = some t ∨
    ∃ (i : Nat) (e : Entry) (st : Statement) (pos : Position), c i = some e ∧
      p.statements[i]? = some st ∧ pos ∈ Prepared.matched ∧ st.get pos = .var name ∧
      g.alike t (e.statement.get pos) = true

section
variable {g g' : Graph} {p : Pattern} {start b : Bindings} {c : Selection} {remaining : List Nat}
  {tuple : List Entry}

theorem matched_start (g : Graph) (p : Pattern) (start : Bindings) :
    g.Matched p start start (fun _ => none) (List.range p.size) where
  under := fun _ _ h => h
  distinct := List.nodup_range
  rest := fun i => by simp
  stored := fun _ _ h => nomatch h
  fits := fun _ _ h => nomatch h
  bound := fun _ _ h => .inl h

theorem Solves.grows (h : g.Solves p start tuple) (hclosed : ∀ st ∈ p.statements, Closed st)
    (hgrows : g.Grows g') : g'.Solves p start tuple := by
  obtain ⟨b, hunder, hfits⟩ := h.fits
  refine ⟨fun e he => hgrows.entries e (h.stored e he), h.length, b, hunder, fun i st e hst he => ?_⟩
  exact (hfits i st e hst he).stands_grows hgrows (fun _ _ h => h)
    (hclosed st (List.mem_of_getElem? hst))

theorem Matched.grows (h : g.Matched p start b c remaining)
    (hclosed : ∀ st ∈ p.statements, Closed st) (hgrows : g.Grows g') :
    g'.Matched p start b c remaining := by
  refine ⟨h.under, h.distinct, h.rest, fun i e he => hgrows.entries e (h.stored i e he),
    fun i e he => ?_, fun name t ht => ?_⟩
  · obtain ⟨st, hst, hfits⟩ := h.fits i e he
    exact ⟨st, hst, hfits.stands_grows hgrows (fun _ _ h => h)
      (hclosed st (List.mem_of_getElem? hst))⟩
  · rcases h.bound name t ht with hstart | ⟨i, e, st, pos, he, hst, hpos, hname, halike⟩
    · exact .inl hstart
    · exact .inr ⟨i, e, st, pos, he, hst, hpos, hname, hgrows.alike _ _ halike⟩

end

/-! ## Choosing an entry -/

/-- Bindings that agree with the first ones, and bind other variables to what stands for what the
second ones bind them to. -/
def overlay (g : Graph) (b goal : Bindings) : Bindings :=
  ⟨goal.values.map (fun _ t => g.canon t) ∪ b.values⟩

theorem getElem?_overlay (g : Graph) (b goal : Bindings) (name : String) :
    (g.overlay b goal).values[name]? =
      (b.values[name]?).or (goal.values[name]?.map g.canon) := by
  rw [overlay, Std.ExtTreeMap.getElem?_union, Std.ExtTreeMap.getElem?_map]

theorem under_overlay (g : Graph) (b goal : Bindings) : b.Under (g.overlay b goal) := by
  intro name t ht
  rw [getElem?_overlay, ht, Option.some_or]

theorem Stands.meets_overlay {g : Graph} {b goal : Bindings} {name : String} {u : Term}
    (h : g.Stands goal name u) (hbound : ∀ t, b.values[name]? = some t → g.alike t u = true) :
    g.Meets b (g.overlay b goal) name u := by
  obtain ⟨v, hv, halike⟩ := h
  cases hb : b.values[name]? with
  | none =>
    refine ⟨g.canon v, by rw [getElem?_overlay, hb, hv]; rfl, ?_⟩
    rw [if_neg (Bindings.not_mem_values hb), Term.same_iff_key]
    exact beq_iff_eq.mp halike
  | some t =>
    refine ⟨t, by rw [getElem?_overlay, hb, Option.some_or], ?_⟩
    rw [if_pos (Bindings.mem_values.mpr ⟨t, hb⟩)]
    exact hbound t hb

theorem Meets.stands {g : Graph} (hwf : g.WellFormed) {b goal : Bindings} {name : String} {u : Term}
    (h : g.Meets b goal name u) : g.Stands goal name u := by
  obtain ⟨t, ht, hif⟩ := h
  refine ⟨t, ht, ?_⟩
  split at hif
  · exact hif
  · rw [Term.same_iff_key] at hif
    rw [alike, beq_iff_eq, canonKey_congr hif, canonKey_canon hwf]

section
variable {g : Graph} (hwf : g.WellFormed) {p : Pattern}
  (hclosed : ∀ st ∈ p.statements, Closed st)
  {start b : Bindings} {c : Selection} {remaining : List Nat} {tuple : List Entry}

/-- Bindings made by selecting entries of the tuple can be extended to match all of it. -/
theorem Solves.exists_goal (h : g.Solves p start tuple) (hmatched : g.Matched p start b c remaining)
    (hagrees : c.Agrees tuple) :
    ∃ goal, b.Under goal ∧ ∀ (i : Nat) (st : Statement) (e : Entry), p.statements[i]? = some st →
      tuple[i]? = some e → g.FitsStatement (g.Meets b goal) st e.statement := by
  obtain ⟨goal, hunder, hfits⟩ := h.fits
  refine ⟨g.overlay b goal, under_overlay g b goal, fun i st e hst he => ?_⟩
  refine (hfits i st e hst he).mono fun name u hstands => hstands.meets_overlay fun t hb => ?_
  obtain ⟨v, hv, halike⟩ := hstands
  rcases hmatched.bound name t hb with hstart | ⟨k, x, st', pos', hx, hst', hpos', hname, hlike⟩
  · rw [hunder name t hstart] at hv
    obtain rfl := Option.some.inj hv
    exact halike
  · -- the extension binds the variable to what was met there too
    obtain ⟨w, hw, hlike'⟩ := (hfits k st' x hst' (hagrees k x hx)).stands hpos' hname
    rw [hv] at hw
    obtain rfl := Option.some.inj hw
    exact alike_trans hlike (alike_trans (alike_symm hlike') halike)

theorem grown_self (g : Graph) (b : Bindings) : g.Grown b b where
  keeps := fun _ h => h
  canonical := fun _ t hnot ht => absurd (Bindings.mem_values.mpr ⟨t, ht⟩) hnot

include hwf

theorem candidate_stored {i : Nat} {st : Statement} {e : Entry}
    (he : e ∈ (Prepared.ofStatement g b i st).candidates) : e ∈ g.entries := by
  rcases Prepared.candidates_cases g b i st with h | ⟨pos, -, -, h⟩
  · rw [h] at he
    exact he
  · rw [h] at he
    exact (List.mem_filter.mp ((hwf.filed pos _).mem_iff.mp he)).1

theorem candidates_nodup (i : Nat) (st : Statement) :
    (Prepared.ofStatement g b i st).candidates.Nodup := by
  have hentries : g.entries.Nodup := .of_map Entry.id hwf.distinct
  rcases Prepared.candidates_cases g b i st with h | ⟨pos, -, -, h⟩
  · rw [h]
    exact hentries
  · rw [h]
    exact (hwf.filed pos _).nodup_iff.mpr (hentries.filter _)

variable (hnames : ∀ st ∈ p.statements, ∀ name ∈ st.vars, bareName name = name)
include hclosed hnames

/-- The entry that a tuple has for a statement is among the candidates, and it matches. -/
theorem Solves.candidate (h : g.Solves p start tuple) (hmatched : g.Matched p start b c remaining)
    (hagrees : c.Agrees tuple) (hconstraints : p.constraints = ∅) {i : Nat} {st : Statement}
    {e : Entry} (hst : p.statements[i]? = some st) (he : tuple[i]? = some e) :
    e ∈ (Prepared.ofStatement g b i st).candidates ∧
      ∃ b', g.unifyStatement p st e.statement b = some b' := by
  have hmem := List.mem_of_getElem? hst
  obtain ⟨goal, hunder, hgoal⟩ := h.exists_goal hmatched hagrees
  have hfits := hgoal i st e hst he
  have hstored := h.stored e (List.mem_of_getElem? he)
  have hfree : ∀ name, p.constraint? name = none := by
    intro name
    rw [Pattern.constraint?, hconstraints]
    exact Std.ExtTreeMap.getElem?_empty
  constructor
  · rcases Prepared.candidates_cases g b i st with hall | ⟨pos, hpos, hground, hbucket⟩
    · rw [hall]
      exact hstored
    · have hkey := canonKey_substitute hwf (.inr (hclosed st hmem pos hpos)) hunder
        (hfits.get hpos) hground
      rw [hbucket, bucket, (hwf.filed pos _).mem_iff]
      exact List.mem_filter.mpr ⟨hstored, beq_iff_eq.mpr hkey.symm⟩
  · refine unifyStatement_complete hwf (grown_self g b) (hnames st hmem) (below_of_under hunder) hfits
      (fun name c hc => ?_) fun name _ _ c t hc _ => ?_
    · rw [hfree] at hc
      cases hc
    · rw [hfree] at hc
      cases hc

theorem Matched.choose (h : g.Matched p start b c remaining) {i : Nat} {rest : List Nat}
    (hrest : remaining.Perm (i :: rest)) {st : Statement} (hst : p.statements[i]? = some st)
    {e : Entry} (he : e ∈ g.entries) {b' : Bindings}
    (hunify : g.unifyStatement p st e.statement b = some b') :
    g.Matched p start b' (Function.update c i (some e)) rest := by
  have hmem := List.mem_of_getElem? hst
  obtain ⟨-, hunder, hbinds, hfits, -⟩ :=
    unifyStatement_sound hwf (grown_self g b) (hnames st hmem) hunify
  have hnodup := hrest.nodup_iff.mp h.distinct
  rw [List.nodup_cons] at hnodup
  obtain ⟨hlt, hfree⟩ := (h.rest i).mp (hrest.mem_iff.mpr (List.mem_cons_self ..))
  have hstands := hfits.mono fun _ _ hmeets => hmeets.stands hwf
  refine ⟨fun name t ht => hunder name t (h.under name t ht), hnodup.2, fun k => ?_,
    fun k x hx => ?_, fun k x hx => ?_, fun name t ht => ?_⟩
  · by_cases hk : k = i
    · subst hk
      rw [Function.update_self]
      exact ⟨fun hmem => absurd hmem hnodup.1, fun hnone => nomatch hnone.2⟩
    · rw [Function.update_of_ne hk, ← h.rest k, hrest.mem_iff, List.mem_cons, or_iff_right hk]
  · rcases Selection.update_cases hx with ⟨rfl, rfl⟩ | hx
    · exact he
    · exact h.stored k x hx
  · rcases Selection.update_cases hx with ⟨rfl, rfl⟩ | hx
    · exact ⟨st, hst, hstands⟩
    · obtain ⟨st', hst', hfits'⟩ := h.fits k x hx
      exact ⟨st', hst', hfits'.stands_grows (.refl g) hunder
        (hclosed st' (List.mem_of_getElem? hst'))⟩
  · cases hb : b.values[name]? with
    | some v =>
      rw [hunder name v hb] at ht
      obtain rfl := Option.some.inj ht
      rcases h.bound name v hb with hstart | ⟨k, x, st', pos, hx, hst', hpos, hname, halike⟩
      · exact .inl hstart
      · exact .inr ⟨k, x, st', pos, Selection.update_of_some hfree hx, hst', hpos, hname, halike⟩
    | none =>
      -- a variable that is new occurs in the statement, and by itself
      have hvars : name ∈ st.vars :=
        ((hbinds name).mp (Bindings.mem_values.mpr ⟨t, ht⟩)).resolve_left (Bindings.not_mem_values hb)
      obtain ⟨pos, hpos, hname⟩ := (hclosed st hmem).exists_position hvars
      obtain ⟨v, hv, halike⟩ := hstands.stands hpos hname
      rw [ht] at hv
      obtain rfl := Option.some.inj hv
      exact .inr ⟨i, e, st, pos, Function.update_self .., hst, hpos, hname, halike⟩

end

/-! ## All ways to choose an entry -/

def branchings (g : Graph) (p : Pattern) (st : Statement) (b : Bindings) (c : Selection) (x : Prepared) :
    List (Bindings × Selection) :=
  x.candidates.filterMap fun e => (g.unifyStatement p st e.statement b).map fun b' =>
    (b', Function.update c x.index (some e))

theorem mem_branchings {g : Graph} {p : Pattern} {st : Statement} {b : Bindings} {c : Selection}
    {x : Prepared} {y : Bindings × Selection} : y ∈ g.branchings p st b c x ↔
      ∃ e ∈ x.candidates, g.unifyStatement p st e.statement b = some y.1 ∧
        y.2 = Function.update c x.index (some e) := by
  simp only [branchings, List.mem_filterMap, Option.map_eq_some_iff]
  constructor
  · rintro ⟨e, he, b', hb', rfl⟩
    exact ⟨e, he, hb', rfl⟩
  · rintro ⟨e, he, hb', hc⟩
    exact ⟨e, he, y.1, hb', by rw [← hc]⟩

theorem map_fst_branchings {g : Graph} {p : Pattern} {st : Statement} {x : Prepared}
    (hst : p.statements[x.index]? = some st) (b : Bindings) (c : Selection) :
    (g.branchings p st b c x).map Prod.fst = p.extensions g x b := by
  simp only [branchings, Pattern.extensions, hst, List.map_filterMap, Option.map_map,
    Function.comp_def, Option.map_id_fun', id]

theorem Selection.Apart.update {c d : Selection} (h : Selection.Apart c d) {i : Nat} (hfree : c i = none)
    (e : Entry) : Selection.Apart (Function.update c i (some e)) d := by
  obtain ⟨k, x, y, hx, hy, hne⟩ := h
  exact ⟨k, x, y, update_of_some hfree hx, hy, hne⟩

theorem branchings_apart {g : Graph} {p : Pattern} {st : Statement} {b : Bindings} {c : Selection}
    {x : Prepared} (hnodup : x.candidates.Nodup) :
    ((g.branchings p st b c x).map Prod.snd).Pairwise Selection.Apart := by
  rw [List.pairwise_map, branchings]
  refine List.Pairwise.filterMap _ (fun e e' hne y hy y' hy' => ?_) hnodup
  obtain ⟨b₁, -, rfl⟩ := Option.map_eq_some_iff.mp hy
  obtain ⟨b₂, -, rfl⟩ := Option.map_eq_some_iff.mp hy'
  exact ⟨x.index, e, e', Function.update_self .., Function.update_self .., hne⟩

/-! ## All entries chosen -/

def Selection.tuple (c : Selection) (n : Nat) : List Entry := (List.range n).filterMap c

theorem Selection.getElem?_tuple {c : Selection} {n : Nat} (h : ∀ i, i < n → ∃ e, c i = some e) {i : Nat}
    (hi : i < n) : (c.tuple n)[i]? = c i := by
  induction n generalizing i with
  | zero => omega
  | succ n ih =>
    have hsmaller : ∀ i, i < n → ∃ e, c i = some e := fun i hi => h i (by omega)
    obtain ⟨e, he⟩ := h n (Nat.lt_succ_self n)
    have hlen : (c.tuple n).length = n := by
      rw [tuple, List.length_filterMap_eq_countP]
      have hall : (List.range n).countP (fun i => (c i).isSome) = (List.range n).length := by
        refine List.countP_eq_length.mpr fun i hi => ?_
        obtain ⟨x, hx⟩ := hsmaller i (List.mem_range.mp hi)
        rw [hx]
        rfl
      rw [hall, List.length_range]
    have hsnoc : c.tuple (n + 1) = c.tuple n ++ [e] := by
      rw [tuple, List.range_succ, List.filterMap_append]
      simp [tuple, he]
    rw [hsnoc]
    by_cases hin : i < n
    · rw [List.getElem?_append_left (by omega)]
      exact ih hsmaller hin
    · obtain rfl : i = n := by omega
      rw [List.getElem?_append_right (by omega), hlen, Nat.sub_self, he]
      rfl

section
variable {g : Graph} {p : Pattern} {start b : Bindings} {c : Selection} (h : g.Matched p start b c [])
include h

theorem Matched.all {i : Nat} (hi : i < p.size) : ∃ e, c i = some e := by
  cases hc : c i with
  | some e => exact ⟨e, rfl⟩
  | none => exact absurd ((h.rest i).mpr ⟨hi, hc⟩) List.not_mem_nil

theorem Matched.getElem?_tuple {i : Nat} {e : Entry} :
    (c.tuple p.size)[i]? = some e ↔ i < p.size ∧ c i = some e := by
  by_cases hi : i < p.size
  · rw [Selection.getElem?_tuple (fun _ => h.all) hi]
    exact ⟨fun he => ⟨hi, he⟩, fun he => he.2⟩
  · have hlen : (c.tuple p.size).length ≤ p.size := by
      have hle := List.length_filterMap_le c (List.range p.size)
      rw [List.length_range] at hle
      exact hle
    rw [List.getElem?_eq_none (by omega)]
    exact ⟨fun he => (nomatch he), fun he => absurd he.1 hi⟩

theorem Matched.lt {i : Nat} {e : Entry} (he : c i = some e) : i < p.size := by
  obtain ⟨st, hst, -⟩ := h.fits i e he
  exact (List.getElem?_eq_some_iff.mp hst).1

theorem Matched.solves : g.Solves p start (c.tuple p.size) where
  stored := by
    intro e he
    obtain ⟨i, hi⟩ := List.mem_iff_getElem?.mp he
    exact h.stored i e (h.getElem?_tuple.mp hi).2
  length := by
    refine Nat.le_antisymm ?_ (Nat.le_of_not_lt fun hlt => ?_)
    · have hle := List.length_filterMap_le c (List.range p.size)
      rw [List.length_range] at hle
      exact hle
    · obtain ⟨e, he⟩ := h.all hlt
      have hget := h.getElem?_tuple.mpr ⟨hlt, he⟩
      rw [List.getElem?_eq_none (Nat.le_refl _)] at hget
      cases hget
  fits := by
    refine ⟨b, h.under, fun i st e hst he => ?_⟩
    obtain ⟨st', hst', hfits⟩ := h.fits i e (h.getElem?_tuple.mp he).2
    rw [hst] at hst'
    obtain rfl := Option.some.inj hst'
    exact hfits

theorem Matched.tuple_eq {tuple : List Entry} (hlength : tuple.length = p.size)
    (hagrees : c.Agrees tuple) : c.tuple p.size = tuple := by
  refine List.ext_getElem? fun i => ?_
  by_cases hi : i < p.size
  · obtain ⟨e, he⟩ := h.all hi
    rw [h.getElem?_tuple.mpr ⟨hi, he⟩, hagrees i e he]
  · rw [List.getElem?_eq_none (by rw [h.solves.length]; omega), List.getElem?_eq_none (by omega)]

theorem Matched.tuple_ne {b' : Bindings} {d : Selection} (h' : g.Matched p start b' d [])
    (hapart : Selection.Apart c d) : c.tuple p.size ≠ d.tuple p.size := by
  obtain ⟨i, x, y, hx, hy, hne⟩ := hapart
  intro heq
  have hget := h.getElem?_tuple.mpr ⟨h.lt hx, hx⟩
  rw [heq, h'.getElem?_tuple.mpr ⟨h.lt hx, hy⟩] at hget
  exact hne (Option.some.inj hget).symm

theorem Matched.stands {i : Nat} {st : Statement} {e : Entry} (hst : p.statements[i]? = some st)
    (he : (c.tuple p.size)[i]? = some e) {pos : Position} (hpos : pos ∈ Prepared.matched)
    {name : String} (hname : st.get pos = .var name) : g.Stands b name (e.statement.get pos) := by
  obtain ⟨st', hst', hfits⟩ := h.fits i e (h.getElem?_tuple.mp he).2
  rw [hst] at hst'
  obtain rfl := Option.some.inj hst'
  exact hfits.stands hpos hname

end

end Graph

end QuadGraph
