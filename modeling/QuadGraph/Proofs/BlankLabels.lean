import Mathlib.Data.List.Pairwise
import QuadGraph.Proofs.Freshness
import QuadGraph.Proofs.Sessions

/-!
# Scopes of blank labels

A sink keeps a table of the labels it was given, and a new sink starts with an empty one. The nodes in
the table were made by the store, by number, so a node is met again only through the table: by the
same label in the same session. `Sessions` goes through one session after the other on a store, with
operations on the store and actions that make nodes of their own in between; whatever was asked for,
two calls came by the same node just when both gave the same label in the same session
(`Sessions.nodes_scoped`).
-/

namespace QuadGraph

/-! ## Nodes that are made on the way -/

theorem Change.made_cons (c : Change) (cs : List Change) :
    made (c :: cs) = made cs + if c.isFresh then 1 else 0 := List.countP_cons ..

namespace Store

def nodes : Store → List Change → List Term
  | _, [] => []
  | s, c :: cs => (if c.isFresh then [s.fresh.1] else []) ++ (s.change c).nodes cs

theorem nodes_eq (s : Store) (cs : List Change) :
    s.nodes cs =
      (List.range' (s.blanks + 1) (Change.made cs)).map fun k => .blank (s.options.label k) := by
  induction cs generalizing s with
  | nil => rfl
  | cons c cs ih =>
    rw [nodes, ih, blanks_change, options_change, Change.made_cons]
    cases c.isFresh with
    | true => rfl
    | false => rfl

theorem Evolves.mem_nodes {s t : Store} {cs : List Change} (he : s.Evolves cs t) {u : Term} :
    u ∈ s.nodes cs ↔ ∃ k, s.blanks < k ∧ k ≤ t.blanks ∧ u = .blank (s.options.label k) := by
  rw [nodes_eq, he.blanks, List.mem_map]
  simp only [List.mem_range'_1, eq_comm]
  refine exists_congr fun k => ⟨fun ⟨⟨hlow, hhigh⟩, hu⟩ => ⟨hlow, by omega, hu⟩, ?_⟩
  exact fun ⟨hlow, hhigh, hu⟩ => ⟨⟨hlow, by omega⟩, hu⟩

theorem nodes_distinct (s : Store) (cs : List Change) : (s.nodes cs).Nodup := by
  rw [nodes_eq]
  refine (List.nodup_range' ..).map fun j k hjk => ?_
  exact StoreOptions.label_inj (Term.blank.inj hjk)

end Store

/-! ## Calls -/

namespace Sink

inductive Call where
  /-- The sink was asked, in the session of that number. -/
  | labelled (session : Nat) (label : Option String) (id : Nat) (node : Term)
  /-- The store was asked. -/
  | direct (node : Term)

namespace Call

def node : Call → Term
  | labelled _ _ _ node => node
  | direct node => node

def scope? : Call → Option (Nat × String)
  | labelled session label _ _ => label.map (session, ·)
  | direct _ => none

def SameScope (a b : Call) : Prop := ∃ scope, a.scope? = some scope ∧ b.scope? = some scope

def Scoped (a b : Call) : Prop := a.node = b.node ↔ a.SameScope b

end Call

/-- Sessions on a store, the current one with its number, and the blank nodes that were asked for up
to now. The store may be changed at any time by an operation; the nodes that it makes in the course
of one, or when a sink hands it a statement, were asked for by callers or by actions. -/
inductive Sessions (start : Store) : Nat → Sink → List Call → Prop
  | first (context : Term) : Sessions start 0 (ofStore start context) []
  | next {n : Nat} {s : Sink} {calls : List Call} (h : Sessions start n s calls) (context : Term) :
    Sessions start (n + 1) (ofStore s.store context) calls
  | asked {n : Nat} {s s' : Sink} {calls : List Call} {levels id : Nat} {label : Option String}
    {node : Term} (h : Sessions start n s calls)
    (hrun : s.handle levels (.blank label) = some (.ok (some id), s'))
    (hnode : s'.term? id = .ok node) :
    Sessions start n s' (calls ++ [.labelled n label id node])
  | handled {n : Nat} {s s' : Sink} {calls : List Call} {levels : Nat} {e : SinkEvent} {a : Answer}
    {cs : List Change} (h : Sessions start n s calls) (hrun : s.handle levels e = some (a, s'))
    (he : ∀ label, e ≠ .blank label) (hcs : s.store.Evolves cs s'.store) :
    Sessions start n s' (calls ++ (s.store.nodes cs).map .direct)
  | operated {n : Nat} {s : Sink} {t : Store} {calls : List Call} {levels : Nat} {op : Operation}
    {cs : List Change} (h : Sessions start n s calls) (hrun : op.run levels s.store = some ((), t))
    (hcs : s.store.Evolves cs t) :
    Sessions start n { s with store := t } (calls ++ (s.store.nodes cs).map .direct)

variable {levels : Nat} {s s' : Sink} {e : SinkEvent} {a : Answer}

/-! ## What an event does to the terms and labels -/

theorem handle_blank (levels : Nat) (s : Sink) (label : Option String) :
    s.handle levels (.blank label) = some (.ok (some (s.blank label).1), (s.blank label).2) := rfl

/-- A label that is in the table is answered from there; for any other, and without one, the store
makes a node. -/
theorem blank_cases (s : Sink) (label : Option String) :
    (∃ l id, label = some l ∧ s.labels[l]? = some id ∧ s.blank label = (id, s)) ∨
      (∀ l, label = some l → s.labels[l]? = none) ∧ (s.blank label).1 = s.terms.length ∧
        (s.blank label).2.store = s.store.fresh.2 ∧
        (s.blank label).2.terms = s.terms ++ [s.store.fresh.1] ∧
        ∀ l, (s.blank label).2.labels[l]? =
          if label = some l then some s.terms.length else s.labels[l]? := by
  cases label with
  | none => exact .inr ⟨nofun, rfl, rfl, rfl, fun _ => rfl⟩
  | some l =>
    cases hl : s.labels[l]? with
    | some id => exact .inl ⟨l, id, rfl, hl, by rw [Sink.blank, hl]⟩
    | none =>
      have hblank : s.blank (some l) = (s.terms.length,
          { s.issueFresh.2 with labels := s.labels.insert l s.terms.length }) := by
        rw [Sink.blank, hl]
        rfl
      rw [hblank]
      refine .inr ⟨fun k hk => Option.some.inj hk ▸ hl, rfl, rfl, rfl, fun k => ?_⟩
      rw [Std.ExtTreeMap.getElem?_insert]
      simp

/-- Only a blank label touches the table, no term is taken back, and the store is changed by adding a
statement or not at all. -/
theorem handle_cases (hrun : s.handle levels e = some (a, s')) (he : ∀ label, e ≠ .blank label) :
    s'.labels = s.labels ∧ s.terms <+: s'.terms ∧
      (s'.store = s.store ∨ ∃ st r, StoreM.add levels st s.store = some (r, s'.store)) := by
  have hemit : ∀ st, s.emit? levels st = some (a, s') → s'.labels = s.labels ∧ s.terms <+: s'.terms ∧
      (s'.store = s.store ∨ ∃ st r, StoreM.add levels st s.store = some (r, s'.store)) := by
    intro st hst
    cases st with
    | error err =>
      obtain ⟨-, rfl⟩ := Prod.mk.inj (Option.some.inj hst)
      exact ⟨rfl, List.prefix_rfl, .inl rfl⟩
    | ok st =>
      rw [emit_eq, Option.map_eq_some_iff] at hst
      obtain ⟨r, hadd, hr⟩ := hst
      obtain ⟨-, rfl⟩ := Prod.mk.inj hr
      exact ⟨rfl, List.prefix_rfl, .inr ⟨st, r.1, hadd⟩⟩
  cases e with
  | base iri =>
    obtain ⟨-, rfl⟩ := Prod.mk.inj (Option.some.inj hrun)
    exact ⟨rfl, List.prefix_rfl, .inl rfl⟩
  | namespaceName name iri =>
    obtain ⟨-, rfl⟩ := Prod.mk.inj (Option.some.inj hrun)
    exact ⟨rfl, List.prefix_rfl, .inl rfl⟩
  | iri iri =>
    obtain ⟨-, rfl⟩ := Prod.mk.inj (Option.some.inj hrun)
    exact ⟨rfl, List.prefix_append _ _, .inl rfl⟩
  | blank label => exact absurd rfl (he label)
  | literal value datatype language =>
    obtain ⟨-, rfl⟩ := Prod.mk.inj (Option.some.inj hrun)
    exact ⟨rfl, List.prefix_append _ _, .inl rfl⟩
  | collection items =>
    rw [handle, mapM_term?] at hrun
    split at hrun
    case h_1 =>
      obtain ⟨-, rfl⟩ := Prod.mk.inj (Option.some.inj hrun)
      exact ⟨rfl, List.prefix_rfl, .inl rfl⟩
    case h_2 =>
      obtain ⟨-, rfl⟩ := Prod.mk.inj (Option.some.inj hrun)
      exact ⟨rfl, List.prefix_append _ _, .inl rfl⟩
  | triple x y z => exact hemit _ hrun
  | quad x y z w => exact hemit _ hrun

theorem handle_evolves (h : s.store.graph.WellFormed) (hrun : s.handle levels e = some (a, s')) :
    ∃ cs, s.store.Evolves cs s'.store := by
  by_cases hblank : ∃ label, e = .blank label
  · obtain ⟨label, rfl⟩ := hblank
    rw [handle_blank] at hrun
    obtain ⟨-, rfl⟩ := Prod.mk.inj (Option.some.inj hrun)
    rcases s.blank_cases label with ⟨l, id, -, -, hold⟩ | ⟨-, -, hstore, -⟩
    · rw [hold]
      exact ⟨[], .nil _⟩
    · rw [hstore]
      exact ⟨[.fresh], .single (c := .fresh) trivial⟩
  · obtain ⟨-, -, hstore | ⟨st, r, hadd⟩⟩ := handle_cases hrun (not_exists.mp hblank)
    · rw [hstore]
      exact ⟨[], .nil _⟩
    · exact StoreM.addWith_byChanges (StoreM.apply_byChanges levels) st h hadd

/-! ## What a table of labels stands for -/

structure Keyed (start : Store) (n : Nat) (s : Sink) (calls : List Call) : Prop where
  options : s.store.options = start.options
  numbered : ∀ c ∈ calls, ∃ k ≤ s.store.blanks, c.node = .blank (start.options.label k)
  apart : calls.Pairwise Call.Scoped
  past : ∀ m label id node, .labelled m label id node ∈ calls → m ≤ n
  issued : ∀ label id node, .labelled n label id node ∈ calls → s.terms[id]? = some node
  table : ∀ l id, s.labels[l]? = some id ↔ ∃ node, .labelled n (some l) id node ∈ calls

namespace Call

variable {a b c : Call} {calls : List Call}

theorem Scoped.symm (h : Scoped a b) : Scoped b a := by
  unfold Scoped SameScope at *
  rw [eq_comm, h]
  exact exists_congr fun _ => and_comm

instance : Std.Symm Scoped := ⟨fun _ _ => Scoped.symm⟩

/-- A call that comes by an earlier one's node, being in its scope, is told apart from the others as
that one is. -/
theorem Scoped.again (hcalls : calls.Pairwise Scoped) (hb : b ∈ calls) (hnode : b.node = c.node)
    {scope : Nat × String} (hscope : b.scope? = some scope) (hc : c.scope? = some scope) :
    ∀ a ∈ calls, Scoped a c := by
  intro a ha
  have hab : Scoped a b := by
    by_cases heq : a = b
    · subst heq
      exact iff_of_true rfl ⟨scope, hscope, hscope⟩
    · exact hcalls.forall ha hb heq
  unfold Scoped SameScope at *
  rw [← hnode, hab, hscope, hc]

theorem Scoped.of_ne (hnode : a.node ≠ b.node) (hscope : ¬ a.SameScope b) : Scoped a b :=
  iff_of_false hnode hscope

theorem not_sameScope_direct (a : Call) (node : Term) : ¬ a.SameScope (.direct node) := by
  rintro ⟨scope, -, hscope⟩
  cases hscope

end Call

section
variable {start : Store} {n : Nat} {calls : List Call}

/-- A node that the store makes now is none that anybody came by. -/
theorem Keyed.node_ne (h : Keyed start n s calls) {k : Nat} (hk : s.store.blanks < k) {a : Call}
    (ha : a ∈ calls) : a.node ≠ .blank (s.store.options.label k) := by
  obtain ⟨j, hj, hnode⟩ := h.numbered a ha
  rw [hnode, h.options]
  intro hsame
  have heq := StoreOptions.label_inj (Term.blank.inj hsame)
  omega

theorem keyed_first (start : Store) (context : Term) : Keyed start 0 (ofStore start context) [] where
  options := rfl
  numbered := by simp
  apart := .nil
  past := by simp
  issued := by simp
  table := by simp [ofStore]

theorem Keyed.next (h : Keyed start n s calls) (context : Term) :
    Keyed start (n + 1) (ofStore s.store context) calls where
  options := h.options
  numbered := h.numbered
  apart := h.apart
  past m label id node hc := Nat.le_succ_of_le (h.past m label id node hc)
  issued label id node hc := absurd (h.past _ label id node hc) (Nat.not_succ_le_self n)
  table l id := by
    refine iff_of_false (by simp [ofStore]) ?_
    rintro ⟨node, hc⟩
    exact absurd (h.past _ _ id node hc) (Nat.not_succ_le_self n)

/-- Nodes that the store made otherwise. -/
theorem Keyed.made (h : Keyed start n s calls) (hlabels : s'.labels = s.labels)
    (hterms : s.terms <+: s'.terms) {cs : List Change} (hcs : s.store.Evolves cs s'.store) :
    Keyed start n s' (calls ++ (s.store.nodes cs).map .direct) where
  options := hcs.options.trans h.options
  numbered := by
    intro c hc
    rcases List.mem_append.mp hc with hc | hc
    · obtain ⟨k, hk, hnode⟩ := h.numbered c hc
      have hblanks := hcs.blanks
      exact ⟨k, by omega, hnode⟩
    · obtain ⟨u, hu, rfl⟩ := List.mem_map.mp hc
      obtain ⟨k, -, hk, rfl⟩ := hcs.mem_nodes.mp hu
      exact ⟨k, hk, by rw [h.options]; rfl⟩
  apart := by
    refine List.pairwise_append.mpr ⟨h.apart, List.pairwise_map.mpr ?_, fun a ha b hb => ?_⟩
    · refine (Store.nodes_distinct s.store cs).imp fun hne => ?_
      exact .of_ne hne (Call.not_sameScope_direct _ _)
    · obtain ⟨u, hu, rfl⟩ := List.mem_map.mp hb
      obtain ⟨k, hk, -, rfl⟩ := hcs.mem_nodes.mp hu
      exact .of_ne (h.node_ne hk ha) (Call.not_sameScope_direct _ _)
  past m label id node hc := h.past m label id node (by simpa using hc)
  issued label id node hc := by
    obtain ⟨rest, hrest⟩ := hterms
    have hold := h.issued label id node (by simpa using hc)
    rw [← hrest, List.getElem?_append_left (List.getElem?_eq_some_iff.mp hold).1, hold]
  table l id := by
    rw [hlabels, h.table]
    simp

/-- A label that is known gives the node that was given before. -/
theorem Keyed.again (h : Keyed start n s calls) {l : String} {id : Nat} {node : Term}
    (hl : s.labels[l]? = some id) (hnode : s.terms[id]? = some node) :
    Keyed start n s (calls ++ [.labelled n (some l) id node]) := by
  obtain ⟨known, hknown⟩ := (h.table l id).mp hl
  obtain rfl : known = node := Option.some.inj ((h.issued _ _ _ hknown).symm.trans hnode)
  have hmem : ∀ c, c ∈ calls ++ [.labelled n (some l) id known] ↔ c ∈ calls := by
    intro c
    rw [List.mem_append, List.mem_singleton]
    exact or_iff_left_of_imp fun hc => hc ▸ hknown
  refine ⟨h.options, fun c hc => h.numbered c ((hmem c).mp hc), ?_,
    fun m label id node hc => h.past m label id node ((hmem _).mp hc),
    fun label id node hc => h.issued label id node ((hmem _).mp hc), fun k j => ?_⟩
  · refine List.pairwise_append.mpr ⟨h.apart, List.pairwise_singleton .., fun a ha b hb => ?_⟩
    obtain rfl := List.mem_singleton.mp hb
    exact Call.Scoped.again h.apart hknown rfl rfl rfl a ha
  · simp only [hmem, h.table]

/-- A label that is new, and none, is given a node that was not there before. -/
theorem Keyed.fresh (h : Keyed start n s calls) {label : Option String}
    (hnew : ∀ l, label = some l → s.labels[l]? = none) (hstore : s'.store = s.store.fresh.2)
    (hterms : s'.terms = s.terms ++ [s.store.fresh.1])
    (hlabels : ∀ l, s'.labels[l]? = if label = some l then some s.terms.length else s.labels[l]?) :
    Keyed start n s' (calls ++ [.labelled n label s.terms.length s.store.fresh.1]) where
  options := by
    rw [hstore]
    exact h.options
  numbered := by
    intro c hc
    rw [hstore]
    rcases List.mem_append.mp hc with hc | hc
    · obtain ⟨k, hk, hnode⟩ := h.numbered c hc
      exact ⟨k, Nat.le_succ_of_le hk, hnode⟩
    · obtain rfl := List.mem_singleton.mp hc
      exact ⟨_, Nat.le_refl _, by rw [← h.options]; rfl⟩
  apart := by
    refine List.pairwise_append.mpr ⟨h.apart, List.pairwise_singleton .., fun a ha b hb => ?_⟩
    obtain rfl := List.mem_singleton.mp hb
    refine .of_ne (h.node_ne (Nat.lt_succ_self _) ha) ?_
    rintro ⟨scope, hscope, hl⟩
    obtain ⟨l, rfl, rfl⟩ := Option.map_eq_some_iff.mp hl
    cases a with
    | direct node => cases hscope
    | labelled m label id node =>
      obtain ⟨l', rfl, heq⟩ := Option.map_eq_some_iff.mp hscope
      obtain ⟨rfl, rfl⟩ := Prod.mk.inj heq
      exact Option.some_ne_none _ (((h.table _ id).mpr ⟨node, ha⟩).symm.trans (hnew _ rfl))
  past m lbl id node hc := by
    rcases List.mem_append.mp hc with hc | hc
    · exact h.past m lbl id node hc
    · cases List.mem_singleton.mp hc
      exact Nat.le_refl _
  issued lbl id node hc := by
    rw [hterms]
    rcases List.mem_append.mp hc with hc | hc
    · have hold := h.issued lbl id node hc
      rw [List.getElem?_append_left (List.getElem?_eq_some_iff.mp hold).1, hold]
    · cases List.mem_singleton.mp hc
      simp
  table l id := by
    rw [hlabels]
    by_cases hl : label = some l
    · subst hl
      have hnone : ¬ ∃ node, Call.labelled n (some l) id node ∈ calls := by
        rw [← h.table, hnew l rfl]
        simp
      rw [not_exists] at hnone
      simp [hnone, eq_comm]
    · simp [hl, Ne.symm hl, h.table]

theorem Keyed.asked (h : Keyed start n s calls) {label : Option String} {id : Nat} {node : Term}
    (hrun : s.handle levels (.blank label) = some (.ok (some id), s'))
    (hnode : s'.term? id = .ok node) : Keyed start n s' (calls ++ [.labelled n label id node]) := by
  rw [handle_blank, Option.some.injEq, Prod.mk.injEq, Except.ok.injEq, Option.some.injEq] at hrun
  obtain ⟨rfl, rfl⟩ := hrun
  rw [term?_eq_ok] at hnode
  rcases s.blank_cases label with ⟨l, id, rfl, hl, hold⟩ | ⟨hnew, hid, hstore, hterms, hlabels⟩
  · rw [hold] at hnode ⊢
    exact h.again hl hnode
  · rw [hid, hterms] at hnode
    obtain rfl : s.store.fresh.1 = node := by simpa using hnode
    rw [hid]
    exact h.fresh hnew hstore hterms hlabels

end

theorem Sessions.keyed {start : Store} {n : Nat} {s : Sink} {calls : List Call}
    (h : Sessions start n s calls) : Keyed start n s calls := by
  induction h with
  | first context => exact keyed_first start context
  | next _ context ih => exact ih.next context
  | asked _ hrun hnode ih => exact ih.asked hrun hnode
  | handled _ hrun he hcs ih =>
    obtain ⟨hlabels, hterms, -⟩ := handle_cases hrun he
    exact ih.made hlabels hterms hcs
  | @operated n s t _ _ _ _ _ _ hcs ih =>
    exact ih.made (rfl : ({ s with store := t } : Sink).labels = s.labels) List.prefix_rfl hcs

theorem Sessions.wellFormed {start : Store} (hstart : start.graph.WellFormed) {n : Nat} {s : Sink}
    {calls : List Call} (h : Sessions start n s calls) : s.store.graph.WellFormed := by
  induction h with
  | first context => exact hstart
  | next _ context ih => exact ih
  | asked _ hrun _ ih =>
    obtain ⟨cs, hcs⟩ := handle_evolves ih hrun
    exact hcs.wellFormed ih
  | handled _ _ _ hcs ih => exact hcs.wellFormed ih
  | operated _ _ hcs ih => exact hcs.wellFormed ih

/-- Of any two calls, in whatever sessions, for a label, for none or of the store itself, both came
by the same node just when both gave the same label in the same session. Every call for a label is
answered, with the number of a term, and that number keeps its term as long as the sink is open. -/
theorem Sessions.nodes_scoped {start : Store} (hstart : start.Reachable) {n : Nat} {s : Sink}
    {calls : List Call} (h : Sessions start n s calls) :
    calls.Pairwise (fun a b => a.node = b.node ↔ a.SameScope b) ∧
    (∀ label id node, .labelled n label id node ∈ calls → s.term? id = .ok node) ∧
    (∀ levels label, ∃ id node s', s.handle levels (.blank label) = some (.ok (some id), s') ∧
      s'.term? id = .ok node) ∧
    (∀ levels e a s', s.handle levels e = some (a, s') → ∃ cs, s.store.Evolves cs s'.store) ∧
    ∀ levels (op : Operation) t, op.run levels s.store = some ((), t) → ∃ cs, s.store.Evolves cs t := by
  have hkeyed := h.keyed
  have hwf := h.wellFormed hstart.wellFormed
  refine ⟨hkeyed.apart, fun label id node hc => term?_eq_ok.mpr (hkeyed.issued _ _ _ hc),
    fun levels label => ?_, fun levels e a s' hrun => handle_evolves hwf hrun,
    fun levels op t hrun => op.run_byChanges levels hwf hrun⟩
  rcases s.blank_cases label with ⟨l, id, rfl, hl, hold⟩ | ⟨-, hid, -, hterms, -⟩
  · obtain ⟨node, hc⟩ := (hkeyed.table l id).mp hl
    refine ⟨id, node, s, by rw [handle_blank, hold], term?_eq_ok.mpr (hkeyed.issued _ _ _ hc)⟩
  · refine ⟨s.terms.length, s.store.fresh.1, _, by rw [handle_blank, hid], term?_eq_ok.mpr ?_⟩
    rw [hterms]
    simp

/-- The same label twice in a session, once more in the next one, and a node from the store itself. -/
theorem nodes_scoped_over_sessions :
    let start := Store.ofOptions { builtinActions := false, blankPrefix := "x1" }
    ∃ s calls, Sessions start 1 s calls ∧
      calls.map Call.node = [.blank "x11", .blank "x11", .blank "x12", .blank "x13"] ∧
      calls.Pairwise fun a b => a.node = b.node ↔ a.SameScope b := by
  intro start
  have hnode : ∀ k label, start.options.label k = label →
      (Except.ok (.blank (start.options.label k)) : Except StoreError Term) = .ok (.blank label) :=
    fun _ _ hlabel => by rw [hlabel]
  let first := ofStore start (.named "g")
  let again := (first.blank (some "b0")).2
  let second := ofStore again.store (.named "g")
  let last := (second.blank (some "b0")).2
  have hfirst : Sessions start 0 again [.labelled 0 (some "b0") 0 (.blank "x11")] :=
    (Sessions.first (.named "g")).asked (handle_blank 0 first (some "b0"))
      (hnode 1 "x11" (by decide +kernel))
  have hagain : Sessions start 0 again
      [.labelled 0 (some "b0") 0 (.blank "x11"), .labelled 0 (some "b0") 0 (.blank "x11")] :=
    hfirst.asked (handle_blank 0 again (some "b0")) (hnode 1 "x11" (by decide +kernel))
  have hsecond : Sessions start 1 last
      [.labelled 0 (some "b0") 0 (.blank "x11"), .labelled 0 (some "b0") 0 (.blank "x11"),
        .labelled 1 (some "b0") 0 (.blank "x12")] :=
    (hagain.next (.named "g")).asked (handle_blank 0 second (some "b0"))
      (hnode 2 "x12" (by decide +kernel))
  have hlast : Sessions start 1 { last with store := last.store.fresh.2 }
      ([.labelled 0 (some "b0") 0 (.blank "x11"), .labelled 0 (some "b0") 0 (.blank "x11"),
        .labelled 1 (some "b0") 0 (.blank "x12")] ++ (last.store.nodes [.fresh]).map .direct) :=
    hsecond.operated (rfl : Operation.fresh.run 0 last.store = some ((), last.store.fresh.2))
      (.single (c := .fresh) trivial)
  have hthree : start.options.label 3 = "x13" := by decide +kernel
  refine ⟨_, _, hlast, ?_, (hlast.nodes_scoped (.start _)).1⟩
  change [Term.blank "x11", .blank "x11", .blank "x12", .blank (start.options.label 3)] = _
  rw [hthree]

end Sink

end QuadGraph
