import QuadGraph.Proofs.Reachable
import QuadGraph.Sink

/-!
# Sessions

A sink that is handed events is told here by what they come to for the store: a blank node is made for
each label when it is first used and for each node without one, and a statement is added for each that
can be told from the terms issued so far (`Sink.replay`). That account needs no table of labels and no
counter; it looks at the terms and at what was answered before. A session gives the same answers, the
same terms and the same store (`Sink.session_replays`).
-/

namespace QuadGraph

namespace SinkEvent

/-- The numbers of the terms that an event makes use of, in the order in which they are looked up. -/
def arguments : SinkEvent → List Nat
  | .collection items => items
  | .triple subject predicate object => [subject, predicate, object]
  | .quad subject predicate object context => [subject, predicate, object, context]
  | _ => []

def unknown? (e : SinkEvent) (issued : Nat) : Option Nat :=
  e.arguments.find? fun id => decide (issued ≤ id)

def label? : SinkEvent → Option String
  | .blank label => label
  | _ => none

def isEmit : SinkEvent → Bool
  | .triple _ _ _ => true
  | .quad _ _ _ _ => true
  | _ => false

end SinkEvent

namespace Sink

abbrev Answer := Except StoreError (Option Nat)

abbrev Transcript := List (SinkEvent × Answer)

namespace Transcript

def given? (past : Transcript) (label : String) : Option Answer :=
  (past.find? fun x => x.1.label? == some label).map Prod.snd

def emits (past : Transcript) : Nat := past.countP fun x => x.1.isEmit && x.2.isOk

theorem given?_append (past : Transcript) (e : SinkEvent) (a : Answer) (label : String) :
    given? (past ++ [(e, a)]) label =
      (given? past label).or (if e.label? = some label then some a else none) := by
  unfold given?
  rw [List.find?_append]
  cases past.find? fun x => x.1.label? == some label with
  | some x => rfl
  | none => by_cases h : e.label? = some label <;> simp [h]

theorem mem_of_given? {past : Transcript} {label : String} {a : Answer}
    (h : past.given? label = some a) : ∃ e, (e, a) ∈ past := by
  obtain ⟨⟨e, a⟩, hfind, rfl⟩ := Option.map_eq_some_iff.mp h
  exact ⟨e, List.mem_of_find?_eq_some hfind⟩

end Transcript

def session (levels : Nat) : Sink → List SinkEvent → Option (Transcript × Sink)
  | s, [] => some ([], s)
  | s, e :: es => do
    let (a, s) ← s.handle levels e
    let (rest, s) ← session levels s es
    return ((e, a) :: rest, s)

/-- What an event comes to, after others and their answers: the answer to it and the terms that it
issues. -/
def replayEvent (levels : Nat) (context : Term) (past : Transcript) (terms : List Term)
    (e : SinkEvent) : StoreM (Answer × List Term) :=
  match e.unknown? terms.length with
  | some id => pure (.error (.unknownTermId id), [])
  | none =>
    match e with
    | .base _ => pure (.ok none, [])
    | .namespaceName _ _ => pure (.ok none, [])
    | .iri iri => issue (.named iri)
    | .blank none => draw
    | .blank (some label) =>
      match past.given? label with
      | some a => pure (a, [])
      | none => draw
    | .literal value datatype language => issue (.literal (.ofParts value language datatype))
    | .collection items => issue (.collection (items.map fun id => terms[id]!))
    | .triple subject predicate object =>
      hand ⟨terms[subject]!, terms[predicate]!, terms[object]!, context⟩
    | .quad subject predicate object context =>
      hand ⟨terms[subject]!, terms[predicate]!, terms[object]!, terms[context]!⟩
where
  issue (t : Term) : StoreM (Answer × List Term) := pure (.ok (some terms.length), [t])
  draw : StoreM (Answer × List Term) := do
    let t ← modifyGet Store.fresh
    issue t
  hand (st : Statement) : StoreM (Answer × List Term) := do
    let _ ← StoreM.add levels st
    return (.ok none, [])

def replay (levels : Nat) (context : Term) :
    Transcript → List Term → List SinkEvent → StoreM (Transcript × List Term)
  | _, terms, [] => pure ([], terms)
  | past, terms, e :: es => do
    let (a, issued) ← replayEvent levels context past terms e
    let (rest, terms) ← replay levels context (past ++ [(e, a)]) (terms ++ issued) es
    return ((e, a) :: rest, terms)

variable {levels : Nat} {s s' : Sink} {e : SinkEvent} {es : List SinkEvent} {a : Answer}
  {past : Transcript}

/-! ## Looking terms up -/

theorem term?_eq (s : Sink) (id : Nat) :
    s.term? id = if s.terms.length ≤ id then .error (.unknownTermId id) else .ok s.terms[id]! := by
  unfold term?
  split
  case h_1 t ht =>
    obtain ⟨hid, rfl⟩ := List.getElem?_eq_some_iff.mp ht
    rw [if_neg (Nat.not_le.mpr hid), getElem!_pos s.terms id hid]
  case h_2 hnone => rw [if_pos (List.getElem?_eq_none_iff.mp hnone)]

theorem term?_eq_ok {id : Nat} {t : Term} : s.term? id = .ok t ↔ s.terms[id]? = some t := by
  unfold term?
  cases s.terms[id]? <;> simp

theorem mapM_term? (s : Sink) (items : List Nat) :
    items.mapM s.term? =
      match items.find? fun id => decide (s.terms.length ≤ id) with
      | some id => .error (.unknownTermId id)
      | none => .ok (items.map fun id => s.terms[id]!) := by
  induction items with
  | nil => rfl
  | cons id items ih =>
    rw [List.mapM_cons, term?_eq, ih]
    by_cases hid : s.terms.length ≤ id
    · rw [if_pos hid, List.find?_cons_of_pos (by simpa using hid)]
      rfl
    · rw [if_neg hid, List.find?_cons_of_neg (by simpa using hid)]
      cases items.find? fun id => decide (s.terms.length ≤ id) <;> rfl

theorem statement?_eq (s : Sink) (x y z : Nat) (context : Except StoreError Term) :
    s.statement? x y z context =
      match [x, y, z].find? fun id => decide (s.terms.length ≤ id) with
      | some id => .error (.unknownTermId id)
      | none => context.map fun t => ⟨s.terms[x]!, s.terms[y]!, s.terms[z]!, t⟩ := by
  unfold statement?
  simp only [term?_eq, List.find?_cons, List.find?_nil]
  by_cases hx : s.terms.length ≤ x
  · simp [hx, bind, Except.bind]
  by_cases hy : s.terms.length ≤ y
  · simp [hx, hy, bind, Except.bind]
  by_cases hz : s.terms.length ≤ z
  · simp [hx, hy, hz, bind, Except.bind]
  · simp only [hx, hy, hz, if_false, decide_false]
    cases context <;> rfl

theorem statement?_triple (s : Sink) (x y z : Nat) :
    s.statement? x y z (.ok s.context) =
      match (SinkEvent.triple x y z).unknown? s.terms.length with
      | some id => .error (.unknownTermId id)
      | none => .ok ⟨s.terms[x]!, s.terms[y]!, s.terms[z]!, s.context⟩ :=
  statement?_eq s x y z (.ok s.context)

theorem statement?_quad (s : Sink) (x y z w : Nat) :
    s.statement? x y z (s.term? w) =
      match (SinkEvent.quad x y z w).unknown? s.terms.length with
      | some id => .error (.unknownTermId id)
      | none => .ok ⟨s.terms[x]!, s.terms[y]!, s.terms[z]!, s.terms[w]!⟩ := by
  have hlast : (SinkEvent.quad x y z w).unknown? s.terms.length =
      ([x, y, z].find? fun id => decide (s.terms.length ≤ id)).or
        ([w].find? fun id => decide (s.terms.length ≤ id)) := by
    rw [← List.find?_append]
    rfl
  rw [statement?_eq, hlast, term?_eq]
  cases [x, y, z].find? fun id => decide (s.terms.length ≤ id) with
  | some id => rfl
  | none => by_cases hw : s.terms.length ≤ w <;> simp [hw, Except.map]

/-! ## One event -/

theorem handle_unknown {id : Nat} (h : e.unknown? s.terms.length = some id) :
    s.handle levels e = some (.error (.unknownTermId id), s) := by
  cases e with
  | collection items =>
    have hfind : (items.find? fun id => decide (s.terms.length ≤ id)) = some id := h
    rw [handle, mapM_term?, hfind]
  | triple x y z => rw [handle, statement?_triple, h, emit?]
  | quad x y z w => rw [handle, statement?_quad, h, emit?]
  | base iri => cases h
  | namespaceName name iri => cases h
  | iri iri => cases h
  | blank label => cases h
  | literal value datatype language => cases h

theorem emit_eq (levels : Nat) (s : Sink) (st : Statement) :
    s.emit? levels (.ok st) = (StoreM.add levels st s.store).map fun r =>
      (.ok none, { s with store := r.2, emitted := s.emitted + 1 }) := by
  rw [emit?, emit, Option.map_map]
  rfl

/-- An event is refused for the first of its arguments that names no term, and for nothing else. A
sink is not changed by what it refuses. -/
theorem handle_error_iff {err : StoreError} :
    s.handle levels e = some (.error err, s') ↔
      ∃ id, e.unknown? s.terms.length = some id ∧ err = .unknownTermId id ∧ s' = s := by
  constructor
  · intro h
    cases hid : e.unknown? s.terms.length with
    | some id =>
      rw [handle_unknown hid] at h
      obtain ⟨herr, rfl⟩ := Prod.mk.inj (Option.some.inj h)
      exact ⟨id, rfl, (Except.error.inj herr).symm, rfl⟩
    | none =>
      cases e with
      | collection items =>
        have hfind : (items.find? fun id => decide (s.terms.length ≤ id)) = none := hid
        rw [handle, mapM_term?, hfind] at h
        cases h
      | triple x y z =>
        rw [handle, statement?_triple, hid, emit_eq, Option.map_eq_some_iff] at h
        obtain ⟨r, -, hr⟩ := h
        cases hr
      | quad x y z w =>
        rw [handle, statement?_quad, hid, emit_eq, Option.map_eq_some_iff] at h
        obtain ⟨r, -, hr⟩ := h
        cases hr
      | base iri => cases h
      | namespaceName name iri => cases h
      | iri iri => cases h
      | blank label => cases h
      | literal value datatype language => cases h
  · rintro ⟨id, hid, rfl, rfl⟩
    exact handle_unknown hid

structure Follows (s : Sink) (past : Transcript) : Prop where
  labels : ∀ label, (s.labels[label]?).map (fun id => .ok (some id)) = past.given? label
  issued : ∀ e id, (e, .ok (some id)) ∈ past → id < s.terms.length

theorem follows_ofStore (store : Store) (context : Term) : (ofStore store context).Follows [] where
  labels label := by simp [ofStore, Transcript.given?]
  issued := by simp

/-- The table stays as it is for an event without a label, and for one with a label used before. -/
theorem Follows.answered (h : s.Follows past) (hlabels : s'.labels = s.labels)
    (hold : ∀ label, e.label? = some label → past.given? label = some a)
    (hterms : s.terms.length ≤ s'.terms.length)
    (hid : ∀ id, a = .ok (some id) → id < s'.terms.length) :
    s'.Follows (past ++ [(e, a)]) where
  labels label := by
    rw [hlabels, h.labels, Transcript.given?_append]
    split
    case isTrue hlabel => rw [hold label hlabel]; rfl
    case isFalse => rw [Option.or_none]
  issued d id hmem := by
    rcases List.mem_append.mp hmem with hmem | hmem
    · exact Nat.lt_of_lt_of_le (h.issued d id hmem) hterms
    · exact hid id (Prod.mk.inj (List.mem_singleton.mp hmem)).2.symm

theorem Follows.issue (h : s.Follows past) (he : e.label? = none) (store : Store) (t : Term) :
    ({ s with store, terms := s.terms ++ [t] } : Sink).Follows
      (past ++ [(e, .ok (some s.terms.length))]) := by
  refine h.answered rfl (fun label hlabel => ?_) (by simp) (fun id hid => ?_)
  · rw [he] at hlabel
    cases hlabel
  · obtain rfl : s.terms.length = id := by simpa using hid
    simp

theorem Follows.labelled (h : s.Follows past) {label : String} {id : Nat}
    (hlabels : s'.labels = s.labels.insert label id) (hnew : past.given? label = none)
    (hterms : s.terms.length ≤ s'.terms.length) (hid : id < s'.terms.length) :
    s'.Follows (past ++ [(.blank (some label), .ok (some id))]) where
  labels l := by
    rw [hlabels, Std.ExtTreeMap.getElem?_insert, Transcript.given?_append]
    by_cases hl : label = l
    · subst hl
      simp [hnew, SinkEvent.label?]
    · simp [hl, h.labels, SinkEvent.label?]
  issued d i hmem := by
    rcases List.mem_append.mp hmem with hmem | hmem
    · exact Nat.lt_of_lt_of_le (h.issued d i hmem) hterms
    · obtain ⟨-, hi⟩ := Prod.mk.inj (List.mem_singleton.mp hmem)
      obtain rfl : i = id := by simpa using hi
      exact hid

structure Agrees (levels : Nat) (past : Transcript) (s : Sink) (e : SinkEvent) (a : Answer)
    (s' : Sink) : Prop where
  replayed : ∃ issued, replayEvent levels s.context past s.terms e s.store =
    some ((a, issued), s'.store) ∧ s'.terms = s.terms ++ issued
  context : s'.context = s.context
  emitted : s'.emitted = s.emitted + Transcript.emits [(e, a)]
  follows : s'.Follows (past ++ [(e, a)])

/-- The sink takes the event as its account says, or neither of the two comes to an end. -/
def Accounted (levels : Nat) (past : Transcript) (s : Sink) (e : SinkEvent) : Prop :=
  (s.handle levels e = none ∧ replayEvent levels s.context past s.terms e s.store = none) ∨
    ∃ a s', s.handle levels e = some (a, s') ∧ Agrees levels past s e a s'

theorem Follows.refused (h : s.Follows past) (levels : Nat) {id : Nat}
    (hid : e.unknown? s.terms.length = some id) :
    Agrees levels past s e (.error (.unknownTermId id)) s where
  replayed := by
    refine ⟨[], ?_, (List.append_nil _).symm⟩
    unfold replayEvent
    rw [hid]
    rfl
  context := rfl
  emitted := by simp [Transcript.emits, Except.isOk, Except.toBool]
  follows := by
    refine h.answered rfl (fun label hlabel => ?_) (Nat.le_refl _) (by simp)
    cases e <;> cases hlabel
    cases hid

/-- The statement is added, or the actions of the store do not come to an end. -/
theorem Follows.handed (h : s.Follows past) (levels : Nat) (st : Statement)
    (he : e.isEmit = true) (hlabel : e.label? = none)
    (hhandle : s.handle levels e = s.emit? levels (.ok st))
    (hreplay : replayEvent levels s.context past s.terms e = replayEvent.hand levels st) :
    Accounted levels past s e := by
  have hhand : replayEvent.hand levels st s.store =
      (StoreM.add levels st s.store).map fun r => ((.ok none, []), r.2) := by
    unfold replayEvent.hand
    change (StoreM.add levels st s.store).bind _ = _
    cases StoreM.add levels st s.store <;> rfl
  rw [Accounted, hhandle, hreplay, emit_eq, hhand]
  cases hadd : StoreM.add levels st s.store with
  | none => exact .inl ⟨rfl, rfl⟩
  | some r =>
    refine .inr ⟨.ok none, { s with store := r.2, emitted := s.emitted + 1 }, rfl,
      ⟨[], ?_, (List.append_nil _).symm⟩, rfl, ?_, ?_⟩
    · rw [hreplay, hhand, hadd]
      rfl
    · simp [Transcript.emits, he, Except.isOk, Except.toBool]
    · exact h.answered rfl (by simp [hlabel]) (Nat.le_refl _) (by simp)

theorem replayEvent_blank (levels : Nat) (context : Term) (past : Transcript) (terms : List Term)
    (label : String) : replayEvent levels context past terms (.blank (some label)) =
      match past.given? label with
      | some a => pure (a, [])
      | none => replayEvent.draw terms :=
  rfl

theorem Follows.blank (h : s.Follows past) (levels : Nat) (label : String) :
    Accounted levels past s (.blank (some label)) := by
  have hlabel := h.labels label
  -- the table holds the label just when it was used before
  cases hknown : s.labels[label]? with
  | some id =>
    rw [hknown] at hlabel
    obtain ⟨d, hd⟩ := Transcript.mem_of_given? hlabel.symm
    refine .inr ⟨.ok (some id), s, ?_, ⟨[], ?_, (List.append_nil _).symm⟩, rfl, rfl, ?_⟩
    · simp only [Sink.handle, Sink.blank, hknown]
      rfl
    · rw [replayEvent_blank, ← hlabel]
      rfl
    · refine h.answered rfl (fun l hl => ?_) (Nat.le_refl _) fun i hi => ?_
      · obtain rfl := Option.some.inj hl
        exact hlabel.symm
      · cases hi
        exact h.issued d id hd
  | none =>
    rw [hknown] at hlabel
    let drawn := s.issueFresh.2
    have hlength : drawn.terms.length = s.terms.length + 1 := List.length_append
    refine .inr ⟨.ok (some s.terms.length),
      { drawn with labels := drawn.labels.insert label s.terms.length }, ?_,
      ⟨[s.store.fresh.1], ?_, rfl⟩, rfl, rfl, ?_⟩
    · simp only [Sink.handle, Sink.blank, hknown]
      rfl
    · rw [replayEvent_blank, ← hlabel]
      rfl
    · exact h.labelled rfl hlabel.symm (by simp [hlength]) (by simp [hlength])

theorem Follows.handle (h : s.Follows past) (levels : Nat) (e : SinkEvent) :
    Accounted levels past s e := by
  cases hid : e.unknown? s.terms.length with
  | some id => exact .inr ⟨_, s, handle_unknown hid, h.refused levels hid⟩
  | none =>
    cases e with
    | base iri =>
      refine .inr ⟨.ok none, _, rfl, ⟨[], rfl, (List.append_nil _).symm⟩, rfl, rfl, ?_⟩
      exact h.answered rfl (by simp [SinkEvent.label?]) (Nat.le_refl _) (by simp)
    | namespaceName name iri =>
      refine .inr ⟨.ok none, _, rfl, ⟨[], rfl, (List.append_nil _).symm⟩, rfl, rfl, ?_⟩
      exact h.answered rfl (by simp [SinkEvent.label?]) (Nat.le_refl _) (by simp)
    | iri iri => exact .inr ⟨_, _, rfl, ⟨_, rfl, rfl⟩, rfl, rfl, h.issue rfl _ _⟩
    | literal value datatype language =>
      exact .inr ⟨_, _, rfl, ⟨_, rfl, rfl⟩, rfl, rfl, h.issue rfl _ _⟩
    | collection items =>
      have hfind : (items.find? fun id => decide (s.terms.length ≤ id)) = none := hid
      have hhandle : s.handle levels (.collection items) =
          some (handle.issued (s.issue (.collection (items.map fun id => s.terms[id]!)))) := by
        rw [Sink.handle, mapM_term?, hfind]
      refine .inr ⟨_, _, hhandle, ⟨_, ?_, rfl⟩, rfl, rfl, h.issue rfl _ _⟩
      unfold replayEvent
      rw [hid]
      rfl
    | blank label =>
      cases label with
      | none => exact .inr ⟨_, _, rfl, ⟨_, rfl, rfl⟩, rfl, rfl, h.issue rfl _ _⟩
      | some label => exact h.blank levels label
    | triple x y z =>
      refine h.handed levels ⟨s.terms[x]!, s.terms[y]!, s.terms[z]!, s.context⟩ rfl rfl ?_ ?_
      · rw [Sink.handle, statement?_triple, hid]
      · unfold replayEvent
        rw [hid]
    | quad x y z w =>
      refine h.handed levels ⟨s.terms[x]!, s.terms[y]!, s.terms[z]!, s.terms[w]!⟩ rfl rfl ?_ ?_
      · rw [Sink.handle, statement?_quad, hid]
      · unfold replayEvent
        rw [hid]

/-! ## One event after the other -/

theorem session_cons (levels : Nat) (s : Sink) (e : SinkEvent) (es : List SinkEvent) :
    s.session levels (e :: es) = (s.handle levels e).bind fun r =>
      (r.2.session levels es).map fun q => ((e, r.1) :: q.1, q.2) := by
  rw [session]
  cases s.handle levels e with
  | none => rfl
  | some r => cases hrest : r.2.session levels es <;> simp [hrest]

theorem replay_cons (levels : Nat) (context : Term) (past : Transcript) (terms : List Term)
    (e : SinkEvent) (es : List SinkEvent) (store : Store) :
    replay levels context past terms (e :: es) store =
      (replayEvent levels context past terms e store).bind fun r =>
        (replay levels context (past ++ [(e, r.1.1)]) (terms ++ r.1.2) es r.2).map fun q =>
          (((e, r.1.1) :: q.1.1, q.1.2), q.2) := by
  rw [replay]
  change (replayEvent levels context past terms e store).bind _ = _
  congr 1
  funext r
  change (replay levels context (past ++ [(e, r.1.1)]) (terms ++ r.1.2) es r.2).bind _ = _
  cases replay levels context (past ++ [(e, r.1.1)]) (terms ++ r.1.2) es r.2 <;> rfl

theorem Transcript.emits_cons (x : SinkEvent × Answer) (tr : Transcript) :
    emits (x :: tr) = emits [x] + emits tr := by
  simp only [emits, List.countP_cons, List.countP_nil]
  omega

theorem Follows.session (h : s.Follows past) (levels : Nat) (es : List SinkEvent) :
    (s.session levels es = none ∧ replay levels s.context past s.terms es s.store = none) ∨
      ∃ tr s', s.session levels es = some (tr, s') ∧
        replay levels s.context past s.terms es s.store = some ((tr, s'.terms), s'.store) ∧
        s.terms <+: s'.terms ∧ s'.emitted = s.emitted + tr.emits ∧ s'.Follows (past ++ tr) := by
  -- for any past, as each event adds to what the next ones are answered by
  induction es generalizing s past with
  | nil =>
    refine .inr ⟨[], s, rfl, rfl, List.prefix_rfl, rfl, ?_⟩
    rw [List.append_nil]
    exact h
  | cons e es ih =>
    rw [session_cons, replay_cons]
    rcases h.handle levels e with ⟨hhandle, hevent⟩ | ⟨a, u, hhandle, hu⟩
    · rw [hhandle, hevent]
      exact .inl ⟨rfl, rfl⟩
    · obtain ⟨issued, hevent, hterms⟩ := hu.replayed
      rw [hhandle, hevent, Option.bind_some, Option.bind_some, ← hterms, ← hu.context]
      rcases ih hu.follows with ⟨hsession, hrest⟩ |
        ⟨tr, s', hsession, hrest, hprefix, hemitted, hs'⟩
      · rw [hsession, hrest]
        exact .inl ⟨rfl, rfl⟩
      · rw [hsession, hrest]
        refine .inr ⟨(e, a) :: tr, s', rfl, rfl, ?_, ?_, ?_⟩
        · exact List.IsPrefix.trans ⟨issued, hterms.symm⟩ hprefix
        · rw [hemitted, hu.emitted, Transcript.emits_cons (e, a) tr, Nat.add_assoc]
        · rw [List.append_assoc] at hs'
          exact hs'

/-- A session does to the store what its events come to when they are gone through in order: a blank
node is made for each label at its first use and for each without one, and the statements are added
whose terms are known, with those that actions suppress. The answers and the terms are as told too.
An event is refused just when an argument names no term, for the first that does not, and the sink is
then the same as before. A number that was answered names a term, and the same one to the end; and the
statements handed over are counted. -/
theorem session_replays (levels : Nat) (store : Store) (context : Term) :
    (∀ es, ((ofStore store context).session levels es).map (fun r => ((r.1, r.2.terms), r.2.store)) =
      replay levels context [] [] es store) ∧
    (∀ (s : Sink) e err s', s.handle levels e = some (.error err, s') ↔
      ∃ id, e.unknown? s.terms.length = some id ∧ err = .unknownTermId id ∧ s' = s) ∧
    ∀ es tr s', (ofStore store context).session levels es = some (tr, s') →
      s'.emitted = tr.emits ∧
      ∀ e id, (e, .ok (some id)) ∈ tr → ∃ t, s'.term? id = .ok t ∧
        ∀ ds tr' s'', s'.session levels ds = some (tr', s'') → s''.term? id = .ok t := by
  have hstart := follows_ofStore store context
  refine ⟨fun es => ?_, fun s e err s' => handle_error_iff, fun es tr s' hsession => ?_⟩
  · rcases hstart.session levels es with ⟨hsession, hreplay⟩ | ⟨tr, s', hsession, hreplay, -⟩
    · rw [hsession]
      exact hreplay.symm
    · rw [hsession]
      exact hreplay.symm
  · rcases hstart.session levels es with ⟨hnone, -⟩ | ⟨tr', u, hsome, -, -, hemitted, hu⟩
    · rw [hnone] at hsession
      cases hsession
    · obtain ⟨rfl, rfl⟩ := Prod.mk.inj (Option.some.inj (hsome.symm.trans hsession))
      refine ⟨hemitted.trans (Nat.zero_add _), fun e id hanswer => ?_⟩
      have hid := hu.issued e id hanswer
      refine ⟨u.terms[id], term?_eq_ok.mpr (List.getElem?_eq_getElem hid), fun ds tr' v hrest => ?_⟩
      rcases hu.session levels ds with ⟨hnone, -⟩ | ⟨_, w, hsome', -, hprefix, -⟩
      · rw [hnone] at hrest
        cases hrest
      · obtain ⟨-, rfl⟩ := Prod.mk.inj (Option.some.inj (hsome'.symm.trans hrest))
        obtain ⟨added, hadded⟩ := hprefix
        rw [term?_eq_ok, ← hadded, List.getElem?_append_left hid]
        exact List.getElem?_eq_getElem hid

theorem session_cons_of {u v w : Sink} {tr : Transcript} (hhandle : u.handle levels e = some (a, v))
    (hrest : v.session levels es = some (tr, w)) :
    u.session levels (e :: es) = some ((e, a) :: tr, w) := by
  rw [session_cons, hhandle, Option.bind_some, hrest]
  rfl

/-- A label is used twice, and two events are refused. -/
theorem session_replays_refused :
    let es : List SinkEvent :=
      [.blank (some "b"), .iri "p", .blank (some "b"), .triple 0 1 7, .collection [0, 2], .triple 0 1 0]
    let tr : Transcript := es.zip [.ok (some 0), .ok (some 1), .ok (some 0),
      .error (.unknownTermId 7), .error (.unknownTermId 2), .ok none]
    ∃ s', (ofStore .bare (.named "g")).session 0 es = some (tr, s') ∧
      replay 0 (.named "g") [] [] es .bare = some ((tr, s'.terms), s'.store) ∧
      s'.emitted = 1 ∧ ∃ t, s'.term? 0 = .ok t ∧
        ∀ ds tr' s'', s'.session 0 ds = some (tr', s'') → s''.term? 0 = .ok t := by
  intro es tr
  obtain ⟨hreplay, -, hend⟩ := session_replays 0 .bare (.named "g")
  let store := Store.bare.fresh.2
  let st : Statement := ⟨Store.bare.fresh.1, .named "p", Store.bare.fresh.1, .named "g"⟩
  let s : Sink := { ofStore store (.named "g") with
    terms := [Store.bare.fresh.1, .named "p"], labels := (∅ : Std.ExtTreeMap _ _).insert "b" 0 }
  have hagain : s.handle 0 (.blank (some "b")) = some (.ok (some 0), s) := by
    simp [s, handle, blank, handle.issued]
  have hadd : StoreM.add 0 st store =
      some (some (store.graph.insert st).1, { store with graph := (store.graph.insert st).2 }) := by
    refine StoreM.bind_eq_some.mpr ⟨store, store, rfl, ?_⟩
    rw [show store.actionsFor _ = [] from Store.actionsFor_bare _]
    rfl
  let last : Sink :=
    { s with store := { store with graph := (store.graph.insert st).2 }, emitted := 1 }
  have hhand : s.handle 0 (.triple 0 1 0) = some (.ok none, last) := by
    have hemit : s.emit? 0 (.ok st) = some (.ok none, last) := by
      rw [emit_eq, show s.store = store from rfl, hadd]
      rfl
    exact hemit
  have hsession : (ofStore .bare (.named "g")).session 0 es = some (tr, last) :=
    session_cons_of rfl <| session_cons_of (v := s) rfl <| session_cons_of hagain <|
      session_cons_of (handle_unknown rfl) <| session_cons_of (handle_unknown rfl) <|
        session_cons_of hhand rfl
  obtain ⟨hemitted, hterms⟩ := hend es tr last hsession
  have hfirst : (.blank (some "b"), .ok (some 0)) ∈ tr := by simp [tr, es]
  refine ⟨last, hsession, ?_, hemitted.trans rfl, hterms _ 0 hfirst⟩
  rw [← hreplay, hsession]
  rfl

end Sink

end QuadGraph
