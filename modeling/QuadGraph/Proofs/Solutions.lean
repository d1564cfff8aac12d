import Mathlib.Data.List.Perm.Basic
import QuadGraph.Proofs.Evaluation
import QuadGraph.Proofs.Unification

/-!
# Solutions

The answers of a pattern are described without any plan: a solution for each choice of a stored
statement for each statement of the pattern, extended by every combination of the answers of the
optional patterns (`Pattern.answers`). What is a solution does not depend on the order in which the
statements are taken, and two solutions for one choice bind the same variables to terms that are the
same (`Solution.keyed_eq`).
-/

namespace QuadGraph

/-! ## Rows as they are compared -/

namespace Bindings

def keyed (b : Bindings) : Std.ExtTreeMap String String := b.values.map fun _ t => t.key

theorem getElem?_keyed (b : Bindings) (name : String) :
    b.keyed[name]? = b.values[name]?.map Term.key :=
  Std.ExtTreeMap.getElem?_map

theorem zip_same_iff {as bs : List (String × Term)} :
    (as.map Prod.fst = bs.map Prod.fst ∧ ((as.zip bs).all fun p => p.1.2.same p.2.2) = true) ↔
      (as.map fun p => (p.1, p.2.key)) = bs.map fun p => (p.1, p.2.key) := by
  induction as generalizing bs with
  | nil => cases bs <;> simp
  | cons a as ih =>
    cases bs with
    | nil => simp
    | cons b bs =>
      simp only [List.map_cons, List.cons.injEq, List.zip_cons_cons, List.all_cons,
        Bool.and_eq_true, Prod.mk.injEq, ← ih, Term.same_iff_key]
      constructor
      · rintro ⟨⟨hname, hnames⟩, hkey, hkeys⟩
        exact ⟨⟨hname, hkey⟩, hnames, hkeys⟩
      · rintro ⟨⟨hname, hkey⟩, hnames, hkeys⟩
        exact ⟨⟨hname, hnames⟩, hkey, hkeys⟩

/-- Two rows are the same when they bind the same variables to terms with the same keys. -/
theorem same_iff_keyed {a b : Bindings} : a.same b = true ↔ a.keyed = b.keyed := by
  rw [same, Bool.and_eq_true, beq_iff_eq, ← Std.ExtTreeMap.toList_inj, keyed, keyed,
    Std.ExtTreeMap.toList_map, Std.ExtTreeMap.toList_map, ← zip_same_iff]
  simp only [names, toList, Std.ExtTreeMap.map_fst_toList_eq_keys]

theorem keyed_eq_of_below {a b : Bindings} (h : a.Below b) (h' : b.Below a) : a.keyed = b.keyed := by
  refine Std.ExtTreeMap.ext_getElem? fun name => ?_
  rw [getElem?_keyed, getElem?_keyed]
  cases ha : a.values[name]? with
  | none =>
    cases hb : b.values[name]? with
    | none => rfl
    | some t =>
      obtain ⟨u, hu, -⟩ := h' name t hb
      rw [ha] at hu
      cases hu
  | some t =>
    obtain ⟨u, hu, hkey⟩ := h name t ha
    rw [hu, Option.map_some, Option.map_some, hkey]

theorem below_of_keyed_eq {a b : Bindings} (h : a.keyed = b.keyed) : a.Below b := by
  intro name t ht
  have hget : b.keyed[name]? = some t.key := by
    rw [← h, getElem?_keyed, ht]
    rfl
  rw [getElem?_keyed] at hget
  exact Option.map_eq_some_iff.mp hget

theorem mem_of_keyed_eq {a b : Bindings} (h : a.keyed = b.keyed) {name : String}
    (hname : name ∈ a.values) : name ∈ b.values := by
  obtain ⟨t, ht⟩ := mem_values.mp hname
  obtain ⟨u, hu, -⟩ := below_of_keyed_eq h name t ht
  exact mem_values.mpr ⟨u, hu⟩

theorem keyed_merge (a b : Bindings) : (a.merge b).keyed = a.keyed ∪ b.keyed := by
  refine Std.ExtTreeMap.ext_getElem? fun name => ?_
  rw [getElem?_keyed, getElem?_merge, Option.map_or, Std.ExtTreeMap.getElem?_union, getElem?_keyed,
    getElem?_keyed]

end Bindings

theorem crossings_map {α β : Type} {merge : α → α → α} {merge' : β → β → β} {f : α → β}
    (hf : ∀ a b, f (merge a b) = merge' (f a) (f b)) (a : α) (rss : List (List α)) :
    (crossings merge a rss).map f = crossings merge' (f a) (rss.map (List.map f)) := by
  induction rss generalizing a with
  | nil => simp [crossings]
  | cons rs rss ih =>
    cases rs with
    | nil => simp [crossings, ih]
    | cons r rs => simp [crossings, List.map_flatMap, List.flatMap_map, ih, hf]

theorem crossings_perm {α β : Type} {merge : α → α → α} {f h : β → List α} {bs : List β}
    (hperm : ∀ b ∈ bs, (f b).Perm (h b)) (a : α) :
    (crossings merge a (bs.map f)).Perm (crossings merge a (bs.map h)) := by
  induction bs generalizing a with
  | nil => exact .refl _
  | cons b bs ih =>
    have ih := ih fun x hx => hperm x (List.mem_cons_of_mem b hx)
    have hb := hperm b (List.mem_cons_self ..)
    rw [List.map_cons, List.map_cons]
    by_cases hnil : f b = []
    · rw [hnil] at hb
      rw [hnil, ← hb.nil_eq, crossings_nil_cons, crossings_nil_cons]
      exact ih a
    · have hnil' : h b ≠ [] := fun h => hnil (List.perm_nil.mp (h ▸ hb))
      rw [crossings_cons merge hnil, crossings_cons merge hnil']
      exact hb.flatMap fun x _ => ih (merge a x)

/-! ## Fitting in two ways -/

namespace Graph

mutual

theorem Fits.and {g : Graph} {meets meets' : String → Term → Prop} :
    ∀ {t u : Term}, g.Fits meets t u → g.Fits meets' t u →
      g.Fits (fun name v => meets name v ∧ meets' name v) t u
  | .var _, _, h, h' => ⟨h, h'⟩
  | .collection items, u, h, h' => by
    rw [Fits] at h h' ⊢
    by_cases hopen : Term.anyVariable items = true
    · rw [if_pos hopen] at h h' ⊢
      obtain ⟨others, rfl, hall⟩ := h
      obtain ⟨others', heq, hall'⟩ := h'
      obtain rfl := Term.collection.inj heq
      exact ⟨others, rfl, FitsAll.and hall hall'⟩
    · rw [if_neg hopen] at h ⊢
      exact h
  | .named _, _, h, _ => h
  | .blank _, _, h, _ => h
  | .literal _, _, h, _ => h
  | .formula _, _, h, _ => h

theorem FitsAll.and {g : Graph} {meets meets' : String → Term → Prop} :
    ∀ {ts us : List Term}, g.FitsAll meets ts us → g.FitsAll meets' ts us →
      g.FitsAll (fun name v => meets name v ∧ meets' name v) ts us
  | [], [], _, _ => trivial
  | [], _ :: _, h, _ => h.elim
  | _ :: _, [], h, _ => h.elim
  | _ :: _, _ :: _, h, h' => ⟨Fits.and h.1 h'.1, FitsAll.and h.2 h'.2⟩

end

section
variable {g : Graph} {meets meets' : String → Term → Prop} {st found : Statement}

theorem FitsStatement.and (h : g.FitsStatement meets st found) (h' : g.FitsStatement meets' st found) :
    g.FitsStatement (fun name v => meets name v ∧ meets' name v) st found :=
  ⟨h.1.and h'.1, h.2.1.and h'.2.1, h.2.2.and h'.2.2⟩

theorem FitsStatement.exists_meets (h : g.FitsStatement meets st found) {name : String}
    (hname : name ∈ st.vars) : ∃ v, meets name v := by
  rw [Quad.vars, List.mem_append, List.mem_append] at hname
  rcases hname with (hname | hname) | hname
  · exact h.1.exists_meets name hname
  · exact h.2.1.exists_meets name hname
  · exact h.2.2.exists_meets name hname

end

end Graph

/-! ## Solutions -/

namespace Pattern

abbrev Choice := List (Statement × Statement)

/-- Bindings that extend those at the start by just the variables of the statements, make each
statement fit the stored one chosen for it, and pass the constraints on the variables that are new. -/
structure Solution (g : Graph) (p : Pattern) (start : Bindings) (ws : Choice) (b : Bindings) : Prop where
  below : start.Below b
  binds : ∀ name, name ∈ b.values ↔ name ∈ start.values ∨ ∃ w ∈ ws, name ∈ w.1.vars
  fits : ∀ w ∈ ws, g.FitsStatement (g.Meets start b) w.1 w.2
  admits : ∀ w ∈ ws, ∀ name ∈ w.1.vars, name ∉ start.values → p.Admits b name

section
variable {g : Graph} {p : Pattern} {start start' b b' : Bindings} {ws ws' : Choice}

theorem Solution.congr_choice (h : ∀ w, w ∈ ws ↔ w ∈ ws') :
    p.Solution g start ws b ↔ p.Solution g start ws' b := by
  constructor
  · intro hsol
    refine ⟨hsol.below, fun name => ?_, fun w hw => ?_, fun w hw => ?_⟩
    · simp only [hsol.binds, h]
    · exact hsol.fits w ((h w).mpr hw)
    · exact hsol.admits w ((h w).mpr hw)
  · intro hsol
    refine ⟨hsol.below, fun name => ?_, fun w hw => ?_, fun w hw => ?_⟩
    · simp only [hsol.binds, h]
    · exact hsol.fits w ((h w).mp hw)
    · exact hsol.admits w ((h w).mp hw)

theorem Solution.of_keyed_eq (h : start.keyed = start'.keyed) (hsol : p.Solution g start ws b) :
    p.Solution g start' ws b := by
  have hmem : ∀ name, name ∈ start.values ↔ name ∈ start'.values :=
    fun name => ⟨Bindings.mem_of_keyed_eq h, Bindings.mem_of_keyed_eq h.symm⟩
  refine ⟨fun name t ht => ?_, fun name => ?_, fun w hw => ?_, fun w hw name hname hnew => ?_⟩
  · obtain ⟨u, hu, hkey⟩ := Bindings.below_of_keyed_eq h.symm name t ht
    obtain ⟨v, hv, hkey'⟩ := hsol.below name u hu
    exact ⟨v, hv, hkey'.trans hkey⟩
  · rw [hsol.binds, hmem]
  · refine (hsol.fits w hw).mono fun name u hmeets => ?_
    obtain ⟨t, ht, hif⟩ := hmeets
    exact ⟨t, ht, by simpa only [hmem] using hif⟩
  · exact hsol.admits w hw name hname fun hstart => hnew ((hmem name).mp hstart)

/-- What a solution for a part of a choice binds, a solution for all of it binds to terms with the
same keys. -/
theorem Solution.below_of_subset (hsol : p.Solution g start ws b) (hsol' : p.Solution g start ws' b')
    (hsub : ∀ w ∈ ws, w ∈ ws') : b.Below b' := by
  intro name t ht
  have hmem : name ∈ b.values := Bindings.mem_values.mpr ⟨t, ht⟩
  by_cases hstart : name ∈ start.values
  · obtain ⟨v, hv⟩ := Bindings.mem_values.mp hstart
    obtain ⟨u, hu, hkey⟩ := hsol.below name v hv
    obtain ⟨u', hu', hkey'⟩ := hsol'.below name v hv
    rw [ht] at hu
    obtain rfl := Option.some.inj hu
    exact ⟨u', hu', hkey'.trans hkey.symm⟩
  · obtain ⟨w, hw, hname⟩ := ((hsol.binds name).mp hmem).resolve_left hstart
    -- both solutions bind it to what stands for the stored term that it meets
    obtain ⟨u, ⟨v, hv, hif⟩, v', hv', hif'⟩ :=
      ((hsol.fits w hw).and (hsol'.fits w (hsub w hw))).exists_meets hname
    rw [if_neg hstart, Term.same_iff_key] at hif hif'
    rw [ht] at hv
    obtain rfl := Option.some.inj hv
    exact ⟨v', hv', hif'.trans hif.symm⟩

theorem Solution.keyed_eq (hsol : p.Solution g start ws b) (hsol' : p.Solution g start ws b') :
    b.keyed = b'.keyed :=
  Bindings.keyed_eq_of_below (hsol.below_of_subset hsol' fun _ h => h)
    (hsol'.below_of_subset hsol fun _ h => h)

end

open Classical in
noncomputable def solution? (g : Graph) (p : Pattern) (start : Bindings) (ws : Choice) :
    Option Bindings :=
  if h : ∃ b, p.Solution g start ws b then some h.choose else none

section
variable {g : Graph} {p : Pattern} {start start' b : Bindings} {ws ws' : Choice}

theorem solution?_eq_some (h : p.Solution g start ws b) :
    ∃ b', p.solution? g start ws = some b' ∧ p.Solution g start ws b' := by
  have hexists : ∃ b, p.Solution g start ws b := ⟨b, h⟩
  exact ⟨hexists.choose, dif_pos hexists, hexists.choose_spec⟩

theorem solution?_eq_none (h : ∀ b, ¬ p.Solution g start ws b) : p.solution? g start ws = none :=
  dif_neg fun ⟨b, hb⟩ => h b hb

theorem solution?_congr (h : ∀ b, p.Solution g start ws b ↔ p.Solution g start' ws' b) :
    p.solution? g start ws = p.solution? g start' ws' := by
  have heq : p.Solution g start ws = p.Solution g start' ws' := funext fun b => propext (h b)
  unfold solution?
  rw [heq]

theorem solution?_perm (h : ws.Perm ws') : p.solution? g start ws = p.solution? g start ws' :=
  solution?_congr fun _ => Solution.congr_choice fun _ => h.mem_iff

theorem solution?_keyed (h : start.keyed = start'.keyed) : p.solution? g start = p.solution? g start' :=
  funext fun _ => solution?_congr fun _ => ⟨.of_keyed_eq h, .of_keyed_eq h.symm⟩

end

/-! ## Choices -/

def choices (g : Graph) : List Statement → List Choice
  | [] => [[]]
  | st :: sts => g.entries.flatMap fun e => (choices g sts).map fun ws => (st, e.statement) :: ws

theorem flatMap_comm {α β γ : Type} (as : List α) (bs : List β) (f : α → β → List γ) :
    (as.flatMap fun a => bs.flatMap fun b => f a b).Perm
      (bs.flatMap fun b => as.flatMap fun a => f a b) := by
  induction as with
  | nil => simp
  | cons a as ih =>
    simp only [List.flatMap_cons]
    exact (ih.append_left _).trans (List.flatMap_append_perm bs _ _)

/-- The order of the statements does not matter to what does not depend on the order of a choice. -/
theorem choices_perm {g : Graph} {α : Type} {sts sts' : List Statement} (h : sts.Perm sts')
    {f : Choice → Option α} (hf : ∀ ws ws' : Choice, ws.Perm ws' → f ws = f ws') :
    ((choices g sts).filterMap f).Perm ((choices g sts').filterMap f) := by
  induction h generalizing f with
  | nil => exact .refl _
  | cons st _ ih =>
    simp only [choices, List.filterMap_flatMap, List.filterMap_map]
    refine List.Perm.flatMap_left _ fun e _ => ih fun ws ws' hws => ?_
    exact hf _ _ (hws.cons _)
  | swap st st' sts =>
    -- the two stored statements are chosen in the other order
    simp only [choices, List.filterMap_flatMap, List.filterMap_map, List.map_flatMap, List.map_map]
    refine (flatMap_comm _ _ _).trans (.of_eq ?_)
    refine List.flatMap_congr fun e _ => List.flatMap_congr fun e' _ => ?_
    exact List.filterMap_congr fun ws _ => hf _ _ (.swap _ _ ws)
  | trans _ _ ih ih' => exact (ih hf).trans (ih' hf)

/-! ## Answers -/

noncomputable def answers (g : Graph) (p : Pattern) (start : Bindings) : List Bindings :=
  ((choices g p.statements).filterMap (p.solution? g start)).flatMap fun b =>
    crossings Bindings.merge b (p.optionals.attach.map fun o => o.1.answers g b)
termination_by sizeOf p
decreasing_by
  have hmem := List.sizeOf_lt_of_mem o.2
  cases p
  simp only [mk.sizeOf_spec] at hmem ⊢
  omega

section
variable {g : Graph} {p : Pattern}

noncomputable def extended (g : Graph) (p : Pattern) (b : Bindings) : List Bindings :=
  crossings Bindings.merge b (p.optionals.map fun o => o.answers g b)

theorem answers_eq (start : Bindings) : p.answers g start =
    ((choices g p.statements).filterMap (p.solution? g start)).flatMap (p.extended g) := by
  rw [answers]
  refine List.flatMap_congr fun b _ => ?_
  rw [List.attach_map_val (f := fun o : Pattern => o.answers g b), extended]

theorem answers_keyed {start start' : Bindings} (h : start.keyed = start'.keyed) :
    p.answers g start = p.answers g start' := by
  rw [answers_eq, answers_eq, solution?_keyed h]

noncomputable def answersWith (g : Graph) (p : Pattern) (start : Bindings) (sts : List Statement)
    (done : Choice) : List Bindings :=
  ((choices g sts).filterMap fun ws => p.solution? g start (ws ++ done)).flatMap (p.extended g)

theorem answersWith_nil (start : Bindings) :
    p.answersWith g start p.statements [] = p.answers g start := by
  simp only [answersWith, List.append_nil, answers_eq]

theorem answersWith_perm {start : Bindings} {sts sts' : List Statement} (h : sts.Perm sts')
    (done : Choice) : (p.answersWith g start sts done).Perm (p.answersWith g start sts' done) := by
  refine (choices_perm h fun ws ws' hws => ?_).flatMap_right _
  exact solution?_perm (hws.append_right done)

theorem answersWith_cons (start : Bindings) (st : Statement) (sts : List Statement) (done : Choice) :
    p.answersWith g start (st :: sts) done = g.entries.flatMap fun e =>
      p.answersWith g start sts ((st, e.statement) :: done) := by
  have hmiddle : ∀ (w : Statement × Statement) (ws : Choice),
      p.solution? g start (w :: ws ++ done) = p.solution? g start (ws ++ w :: done) :=
    fun w ws => solution?_perm List.perm_middle.symm
  simp only [answersWith, choices, List.filterMap_flatMap, List.filterMap_map, List.flatMap_assoc,
    Function.comp_def, hmiddle]

end

end Pattern

end QuadGraph
