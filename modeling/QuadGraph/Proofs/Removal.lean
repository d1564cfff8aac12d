import QuadGraph.Proofs.Events

/-!
# Removing

A removal picks an entry from the list, by its number or by what it says, and drops it from the list
and from the one bucket in each position where it is filed by then. Numbers tell the entries apart, so
that it is the same entry everywhere and all others stay where they are (`WellFormed.loses_dropAll`).
-/

namespace QuadGraph

theorem Quad.ext_get {α : Type} {q r : Quad α} (h : ∀ p, q.get p = r.get p) : q = r := by
  cases q
  cases r
  simp only [Quad.mk.injEq]
  exact ⟨h .subject, h .predicate, h .object, h .context⟩

/-! ## Dropping entries -/

def Entry.spared (es : List Entry) (x : Entry) : Bool := es.all fun e => x.id != e.id

theorem Entry.spared_iff {es l : List Entry} (h : (l.map Entry.id).Nodup) (hes : ∀ e ∈ es, e ∈ l)
    {x : Entry} (hx : x ∈ l) : spared es x = true ↔ x ∉ es := by
  unfold spared
  rw [List.all_eq_true]
  constructor
  · intro hall hmem
    simpa using hall x hmem
  · intro hnot e he
    rw [bne_iff_ne]
    intro hid
    exact hnot (List.inj_on_of_nodup_map h hx (hes e he) hid ▸ he)

theorem eraseP_hasId {l : List Entry} (h : (l.map Entry.id).Nodup) (e : Entry) :
    l.eraseP (Graph.hasId e) = l.filter (Entry.spared [e]) := by
  induction l with
  | nil => rfl
  | cons x l ih =>
    rw [List.map_cons, List.nodup_cons] at h
    by_cases hx : x.id = e.id
    · have hrest : l.filter (Entry.spared [e]) = l := by
        refine List.filter_eq_self.mpr fun y hy => ?_
        have hne : y.id ≠ e.id := fun hy' => h.1 (hx ▸ hy' ▸ List.mem_map_of_mem hy)
        simp [Entry.spared, hne]
      simp [Graph.hasId, Entry.spared, hx, hrest]
    · simp [Graph.hasId, Entry.spared, hx, ih h.2]

/-- Where an entry stands in a list it is all that goes. -/
theorem filter_spared {before after : List Entry} {e : Entry}
    (h : ((before ++ e :: after).map Entry.id).Nodup) :
    (before ++ e :: after).filter (Entry.spared [e]) = before ++ after := by
  rw [List.map_append, List.map_cons, List.nodup_middle, List.nodup_cons, ← List.map_append] at h
  have hrest : (before ++ after).filter (Entry.spared [e]) = before ++ after := by
    refine List.filter_eq_self.mpr fun x hx => ?_
    have hne : x.id ≠ e.id := fun hid => h.1 (hid ▸ List.mem_map_of_mem hx)
    simp [Entry.spared, hne]
  rw [List.filter_append] at hrest ⊢
  rw [List.filter_cons_of_neg (by simp [Entry.spared]), hrest]

namespace Index

theorem Filled.mem_iff {i : Index} (h : i.Filled) (key : String) : key ∈ i ↔ i.bucket key ≠ [] := by
  rw [Std.ExtTreeMap.mem_iff_isSome_getElem?, bucket_eq]
  cases hes : i[key]? with
  | none => simp
  | some es => simp [h key es hes]

theorem Filled.ext {i j : Index} (hi : i.Filled) (hj : j.Filled)
    (h : ∀ key, i.bucket key = j.bucket key) : i = j := by
  refine Std.ExtTreeMap.ext_getElem? fun key => ?_
  have hkey := h key
  rw [bucket_eq, bucket_eq] at hkey
  cases hes : i[key]? with
  | none =>
    cases hfs : j[key]? with
    | none => rfl
    | some fs =>
      rw [hes, hfs] at hkey
      exact absurd hkey.symm (hj key fs hfs)
  | some es =>
    cases hfs : j[key]? with
    | none =>
      rw [hes, hfs] at hkey
      exact absurd hkey (hi key es hes)
    | some fs =>
      rw [hes, hfs] at hkey
      exact congrArg some hkey

end Index

namespace Graph

variable {g g' g'' : Graph}

structure Loses (g : Graph) (es : List Entry) (g' : Graph) : Prop where
  entries : g'.entries = g.entries.filter (Entry.spared es)
  bucket : ∀ p key, (g'.indexes.get p).bucket key =
    ((g.indexes.get p).bucket key).filter (Entry.spared es)
  filled : ∀ p key, key ∈ g'.indexes.get p ↔ (g'.indexes.get p).bucket key ≠ []
  equivalence : g'.equivalence = g.equivalence
  nextId : g'.nextId = g.nextId

theorem WellFormed.loses_drop (h : g.WellFormed) {e : Entry} (he : e ∈ g.entries) :
    g.Loses [e] (g.drop e) where
  entries := eraseP_hasId h.distinct e
  bucket := by
    intro p key
    rw [Graph.bucket_drop]
    split
    case isTrue => exact eraseP_hasId (h.bucket_distinct p key) e
    case isFalse hkey =>
      refine (List.filter_eq_self.mpr fun x hx => ?_).symm
      obtain ⟨hx, hxkey⟩ := h.mem_filed.mp hx
      refine (Entry.spared_iff h.distinct (by simpa using he) hx).mpr fun hxe => hkey ?_
      rw [← List.mem_singleton.mp hxe, hxkey]
  filled := fun p key => ((h.drop he).filled p).mem_iff key
  equivalence := rfl
  nextId := rfl

theorem WellFormed.loses_dropAll (h : g.WellFormed) {es : List Entry}
    (hmem : ∀ e ∈ es, e ∈ g.entries) (hes : (es.map Entry.id).Nodup) :
    g.Loses es (es.foldl Graph.drop g) := by
  induction es generalizing g with
  | nil =>
    have hall : ∀ l : List Entry, l.filter (Entry.spared []) = l := fun l =>
      List.filter_eq_self.mpr fun _ _ => rfl
    exact ⟨(hall _).symm, fun p key => (hall _).symm, fun p key => (h.filled p).mem_iff key, rfl, rfl⟩
  | cons e es ih =>
    rw [List.map_cons, List.nodup_cons] at hes
    have he := hmem e (List.mem_cons_self ..)
    have hfirst := h.loses_drop he
    have hmem' : ∀ x ∈ es, x ∈ (g.drop e).entries := fun x hx =>
      mem_drop (hmem x (List.mem_cons_of_mem e hx)) fun hid => hes.1 (hid ▸ List.mem_map_of_mem hx)
    have hrest := ih (h.drop he) hmem' hes.2
    have hboth : ∀ l : List Entry, (l.filter (Entry.spared [e])).filter (Entry.spared es) =
        l.filter (Entry.spared (e :: es)) := by
      intro l
      rw [List.filter_filter]
      refine List.filter_congr fun x _ => ?_
      simp [Entry.spared, Bool.and_comm]
    refine ⟨?_, fun p key => ?_, hrest.filled, hrest.equivalence, hrest.nextId⟩
    · rw [List.foldl_cons, hrest.entries, hfirst.entries, hboth]
    · rw [List.foldl_cons, hrest.bucket, hfirst.bucket, hboth]

theorem WellFormed.hasId_new (h : g.WellFormed) (st : Statement) :
    ∀ x ∈ g.entries, ¬ hasId (g.insert st).1 x = true := by
  intro x hx hid
  have hlt := h.numbered x hx
  rw [beq_iff_eq.mp hid] at hlt
  exact Nat.lt_irrefl _ hlt

/-- An entry that was added last is dropped from the end of the list and of its buckets. -/
theorem WellFormed.drop_insert (h : g.WellFormed) (st : Statement) :
    (g.insert st).2.drop (g.insert st).1 = { g with nextId := g.nextId + 1 } := by
  have herase : ∀ l : List Entry, (∀ x ∈ l, x ∈ g.entries) →
      (l ++ [(g.insert st).1]).eraseP (hasId (g.insert st).1) = l := by
    intro l hl
    rw [List.eraseP_append_right _ fun x hx => h.hasId_new st x (hl x hx)]
    simp [hasId]
  have hindex : ∀ p, ((g.insert st).2.drop (g.insert st).1).indexes.get p = g.indexes.get p := by
    intro p
    have hwf := (h.insert st).drop (e := (g.insert st).1) (by simp [Graph.insert])
    refine (hwf.filled p).ext (h.filled p) fun key => ?_
    have hcanon : (g.insert st).2.canonKey ((g.insert st).1.statement.get p) =
        g.canonKey (st.get p) := rfl
    rw [Graph.bucket_drop, bucket_insert, hcanon]
    by_cases hkey : key = g.canonKey (st.get p)
    · rw [if_pos hkey, if_pos hkey]
      exact herase _ fun x hx => (h.mem_filed.mp hx).1
    · rw [if_neg hkey, if_neg hkey]
  have hentries : ((g.insert st).2.drop (g.insert st).1).entries = g.entries :=
    herase g.entries fun _ hx => hx
  have hindexes : ((g.insert st).2.drop (g.insert st).1).indexes = g.indexes := Quad.ext_get hindex
  calc (g.insert st).2.drop (g.insert st).1
      = { g with
          entries := ((g.insert st).2.drop (g.insert st).1).entries
          indexes := ((g.insert st).2.drop (g.insert st).1).indexes
          nextId := g.nextId + 1 } := rfl
    _ = { g with nextId := g.nextId + 1 } := by rw [hentries, hindexes]

end Graph

/-! ## Removing from a store -/

/-- Whether an entry is the very one that is to go. -/
def Target.names : Target → Entry → Bool
  | .entry e => Graph.hasId e
  | .statement _ => fun _ => false

namespace Store

variable {s t : Store} {target : Target}

theorem find?_eq (s : Store) (target : Target) :
    s.find? target = (s.graph.entries.find? target.names).or
      (s.graph.entries.find? fun x => x.statement.same target.said) := by
  cases target with
  | entry e => rfl
  | statement st =>
    have hnone : s.graph.entries.find? (Target.names (.statement st)) = none :=
      List.find?_eq_none.mpr fun _ _ => Bool.false_ne_true
    rw [hnone]
    rfl

theorem find?_eq_none : s.find? target = none ↔ ∀ x ∈ s.graph.entries,
    target.names x = false ∧ x.statement.same target.said = false := by
  simp only [find?_eq, Option.or_eq_none_iff, List.find?_eq_none, Bool.not_eq_true, ← forall₂_and]

/-- The entry named is taken, or the first that says the same if there is none. -/
theorem find?_eq_some {e : Entry} (h : s.find? target = some e) :
    ∃ before after, s.graph.entries = before ++ e :: after ∧
      (target.names e = true ∨ (∀ x ∈ s.graph.entries, target.names x = false) ∧
        e.statement.same target.said = true ∧
        ∀ x ∈ before, x.statement.same target.said = false) := by
  rw [find?_eq, Option.or_eq_some_iff] at h
  rcases h with h | ⟨hnone, h⟩
  · obtain ⟨hnames, before, after, heq, -⟩ := List.find?_eq_some_iff_append.mp h
    exact ⟨before, after, heq, .inl hnames⟩
  · obtain ⟨hsame, before, after, heq, hbefore⟩ := List.find?_eq_some_iff_append.mp h
    refine ⟨before, after, heq, .inr ⟨fun x hx => ?_, hsame, fun x hx => ?_⟩⟩
    · simpa using List.find?_eq_none.mp hnone x hx
    · simpa using hbefore x hx

theorem remove_eq_ok : s.remove target = .ok t ↔
    ∃ e, s.find? target = some e ∧ t = { s with graph := s.graph.drop e } := by
  unfold remove remove?
  cases s.find? target with
  | none => simp
  | some e => simp [eq_comm]

theorem remove_eq_error {err : StoreError} : s.remove target = .error err ↔
    s.find? target = none ∧ err = .statementNotFound target.said := by
  unfold remove remove?
  cases s.find? target with
  | none => simp [eq_comm]
  | some e => simp

theorem removes_one (h : s.graph.WellFormed) (hremove : s.remove target = .ok t) :
    ∃ e before after, s.graph.entries = before ++ e :: after ∧
      (target.names e = true ∨ (∀ x ∈ s.graph.entries, target.names x = false) ∧
        e.statement.same target.said = true ∧
        ∀ x ∈ before, x.statement.same target.said = false) ∧
      t.graph.entries = before ++ after ∧
      (∀ p, ∃ before after,
        s.graph.bucket p (e.statement.get p) = before ++ e :: after ∧
        t.graph.bucket p (e.statement.get p) = before ++ after) ∧
      s.graph.Loses [e] t.graph ∧ t = { s with graph := t.graph } := by
  obtain ⟨e, hfind, rfl⟩ := remove_eq_ok.mp hremove
  obtain ⟨before, after, heq, hchosen⟩ := find?_eq_some hfind
  have he : e ∈ s.graph.entries := find?_mem hfind
  have hloses := h.loses_drop he
  refine ⟨e, before, after, heq, hchosen, ?_, fun p => ?_, hloses, rfl⟩
  · rw [hloses.entries, heq]
    exact filter_spared (heq ▸ h.distinct)
  · have hmem : e ∈ s.graph.bucket p (e.statement.get p) := h.mem_filed.mpr ⟨he, rfl⟩
    obtain ⟨b, a, hbucket⟩ := List.append_of_mem hmem
    refine ⟨b, a, hbucket, ?_⟩
    have hdistinct : ((s.graph.bucket p (e.statement.get p)).map Entry.id).Nodup :=
      h.bucket_distinct p _
    rw [hbucket] at hdistinct
    rw [← filter_spared hdistinct, ← hbucket]
    exact hloses.bucket p _

theorem removes_first (h : s.graph.WellFormed) (mask : Mask) (limit : Option Nat) :
    let found := s.graph.matching mask
    let taken := found.take (min (limit.getD found.length) found.length)
    (s.removeMany mask limit).1 = min (limit.getD found.length) found.length ∧
      (∀ e ∈ taken, e ∈ s.graph.entries) ∧
      s.graph.Loses taken (s.removeMany mask limit).2.graph ∧
      (s.removeMany mask limit).2 = { s with graph := (s.removeMany mask limit).2.graph } := by
  intro found taken
  have htaken : found.take (limit.getD found.length) = taken := by
    rw [List.take_eq_take_iff]
    omega
  have hsub : taken.Sublist found := List.take_sublist _ _
  have hmem : ∀ e ∈ taken, e ∈ s.graph.entries := fun e he => h.mem_matching (hsub.subset he)
  have hdistinct := (h.matching_distinct mask).sublist (hsub.map Entry.id)
  refine ⟨List.length_take, hmem, ?_, rfl⟩
  change s.graph.Loses taken ((found.take (limit.getD found.length)).foldl Graph.drop s.graph)
  rw [htaken]
  exact h.loses_dropAll hmem hdistinct

theorem removes_all (h : s.graph.WellFormed) (mask : Mask) :
    (s.removeMany mask none).2.graph.matching mask = [] ∧
      (s.removeMany mask none).2.graph.entries =
        s.graph.entries.filter fun e => !s.graph.meets mask e := by
  obtain ⟨-, hmem, hloses, -⟩ := removes_first h mask none
  rw [Option.getD_none, Nat.min_self, List.take_length] at hmem hloses
  obtain ⟨cs, hcs⟩ := evolves_removeMany h mask none
  have hentries : (s.removeMany mask none).2.graph.entries =
      s.graph.entries.filter fun e => !s.graph.meets mask e := by
    rw [hloses.entries]
    refine List.filter_congr fun x hx => ?_
    rw [Bool.eq_iff_iff, Entry.spared_iff h.distinct hmem hx, (h.matching_perm mask).mem_iff,
      List.mem_filter]
    simp [hx]
  have hmeets : (s.removeMany mask none).2.graph.meets mask = s.graph.meets mask := by
    unfold Graph.meets Graph.canon
    rw [hloses.equivalence]
  refine ⟨List.Perm.eq_nil ?_, hentries⟩
  refine ((hcs.wellFormed h).matching_perm mask).trans (.of_eq ?_)
  rw [hentries, hmeets, List.filter_filter]
  exact List.filter_eq_nil_iff.mpr fun x _ => by simp

theorem remove_added (h : s.graph.WellFormed) {levels : Nat} {st : Statement} {e : Entry}
    {es : List Event} (hadd : Telling.addWith (Telling.apply levels) st s = some ((some e, es), t))
    (hsilent : ∀ a quad, .applied a quad ∉ es) :
    t.remove (.entry e) = .ok { s with graph := { s.graph with nextId := s.graph.nextId + 1 } } := by
  obtain ⟨suppressed, u, ds, hactions, hend⟩ := Telling.addWith_eq_some hadd
  rcases hend with ⟨-, hnone, -⟩ | ⟨rfl, he, rfl, rfl⟩
  · cases hnone
  obtain rfl := Option.some.inj he
  cases has : s.actionsFor (s.graph.canonStatement st) with
  | cons a as =>
    -- the first action would have been told
    rw [has] at hactions
    obtain ⟨_, _, _, ds₁, ds₂, hfirst, -, -, rfl⟩ := Telling.applyAll_cons hactions
    obtain ⟨n, ds₃, -, -, rfl⟩ := Telling.apply_eq_some hfirst
    exact absurd (by simp) (hsilent a (s.graph.canonStatement st))
  | nil =>
    rw [has] at hactions
    obtain ⟨-, rfl⟩ := Prod.mk.inj (Option.some.inj hactions)
    refine remove_eq_ok.mpr ⟨(s.graph.insert st).1, ?_, ?_⟩
    · rw [find?_eq, Option.or_eq_some_iff]
      left
      change (s.graph.entries ++ [(s.graph.insert st).1]).find?
        (Graph.hasId (s.graph.insert st).1) = _
      rw [List.find?_append, List.find?_eq_none.mpr (h.hasId_new st), Option.none_or]
      simp [Graph.hasId]
    · rw [← h.drop_insert st]
      rfl

/-- A removal fails, and changes nothing, just when no entry is the one named and none says the same.
Otherwise that one entry, or the first that says the same, goes from the list and from its bucket in
each position. Removing the matches of a pattern takes the first of them, as many as the limit allows.
And an entry that was just stored without any action is removed without a trace. -/
theorem Reachable.removes_exactly {s : Store} (h : s.Reachable) :
    (∀ target, ((∃ err, s.remove target = .error err) ↔ ∀ x ∈ s.graph.entries,
        target.names x = false ∧ x.statement.same target.said = false) ∧
      ∀ err, s.remove target = .error err → err = .statementNotFound target.said ∧
        ∀ levels, (Operation.remove target).run levels s = some ((), s)) ∧
    (∀ target t, s.remove target = .ok t →
      (∀ levels, (Operation.remove target).run levels s = some ((), t)) ∧
      ∃ e before after, s.graph.entries = before ++ e :: after ∧
        (target.names e = true ∨ (∀ x ∈ s.graph.entries, target.names x = false) ∧
          e.statement.same target.said = true ∧
          ∀ x ∈ before, x.statement.same target.said = false) ∧
        t.graph.entries = before ++ after ∧
        (∀ p, ∃ before after,
          s.graph.bucket p (e.statement.get p) = before ++ e :: after ∧
          t.graph.bucket p (e.statement.get p) = before ++ after) ∧
        s.graph.Loses [e] t.graph ∧ t = { s with graph := t.graph }) ∧
    (∀ mask limit,
      let found := s.graph.matching mask
      let taken := found.take (min (limit.getD found.length) found.length)
      (s.removeMany mask limit).1 = min (limit.getD found.length) found.length ∧
        (∀ e ∈ taken, e ∈ s.graph.entries) ∧
        s.graph.Loses taken (s.removeMany mask limit).2.graph ∧
        (s.removeMany mask limit).2 = { s with graph := (s.removeMany mask limit).2.graph }) ∧
    (∀ mask, (s.removeMany mask none).2.graph.matching mask = [] ∧
      (s.removeMany mask none).2.graph.entries =
        s.graph.entries.filter fun e => !s.graph.meets mask e) ∧
    ∀ levels st e es t, Telling.addWith (Telling.apply levels) st s = some ((some e, es), t) →
      (∀ a quad, .applied a quad ∉ es) →
      t.remove (.entry e) =
        .ok { s with graph := { s.graph with nextId := s.graph.nextId + 1 } } := by
  have hwf := h.wellFormed
  refine ⟨fun target => ⟨?_, fun err herr => ?_⟩, fun target t hremove => ⟨fun levels => ?_,
    removes_one hwf hremove⟩, removes_first hwf, removes_all hwf,
    fun levels st e es t => remove_added hwf⟩
  · rw [← find?_eq_none]
    simp only [remove_eq_error]
    simp
  · obtain ⟨hnone, rfl⟩ := remove_eq_error.mp herr
    refine ⟨rfl, fun levels => ?_⟩
    change some ((), (s.remove? target).getD s) = _
    rw [remove?, hnone]
    rfl
  · obtain ⟨e, hfind, rfl⟩ := remove_eq_ok.mp hremove
    change some ((), (s.remove? target).getD s) = _
    rw [remove?, hfind]
    rfl

theorem removes_exactly_after_equate :
    let st : Statement := ⟨.named "a", .named "p", .named "b", .named "g"⟩
    let s := (ofStatement st).equate (.named "a") (.named "b")
    (s.Reachable ∧ (∃ err, s.remove (.statement { st with subject := .named "b" }) = .error err) ∧
      (∃ t, s.remove (.statement st) = .ok t ∧ t.graph.entries = []) ∧
      (s.removeMany ⟨some (.named "b"), none, none, none⟩ none).1 = 1) ∧
    bare.Reachable ∧ (ofStatement st).remove (.entry ⟨0, st⟩) =
      .ok { bare with graph := { bare.graph with nextId := 1 } } := by
  intro st s
  have hs : s.Reachable := (reachable_ofStatement st).equate _ _
  have hbare : bare.Reachable := .start { builtinActions := false }
  have hentries : s.graph.entries = [⟨0, st⟩] := entries_equate _ _ _
  obtain ⟨hfails, hone, hmany, -⟩ := hs.removes_exactly
  obtain ⟨-, -, -, -, hadded⟩ := hbare.removes_exactly
  refine ⟨⟨hs, (hfails _).1.mpr ?_, ?_, ?_⟩, hbare, ?_⟩
  · rw [hentries]
    decide
  · cases hremove : s.remove (.statement st) with
    | error err =>
      have hnot := (hfails _).1.mp ⟨err, hremove⟩ ⟨0, st⟩ (by simp [hentries])
      exact absurd hnot.2 (by decide)
    | ok t =>
      obtain ⟨-, e, before, after, heq, -, ht, -⟩ := hone _ t hremove
      refine ⟨t, rfl, ?_⟩
      rw [hentries] at heq
      rw [ht, List.append_eq_nil_iff]
      cases before with
      | nil => exact ⟨rfl, (List.cons.inj heq).2.symm⟩
      | cons x before => simp at heq
  · rw [(hmany _ none).1]
    decide +kernel
  · refine hadded 0 st ⟨0, st⟩ [.changed (.insert st)] (ofStatement st) ?_ (by simp)
    rfl

end Store

end QuadGraph
