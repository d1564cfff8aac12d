import QuadGraph.Proofs.Names
import QuadGraph.Proofs.Prospects

/-!
# Why a row is delivered

A row is explained by a pattern if there is a trunk for which every statement of the pattern was
matched with one that was held, and the row joins to it at most one explained row of each optional
pattern (`Pattern.Explained`). All that an execution has on its way is explained in this sense
(`Execution.Traced`): what its tasks have matched so far, what its branches have collected and what
its junctions will combine. Working on a task keeps that and hands out explained rows only
(`Execution.process_traced`). Only proper names are asked about, whatever other names there are.
-/

namespace QuadGraph

/-! ## Explanations -/

namespace Pattern

/-- What was bound from the start stays; each statement with another place was matched with one that
was held, so that each of its variables meets terms like what it stands for; and what was bound since
passes its constraint. -/
structure Fitted (g : Graph) (held : Statement → Prop) (p : Pattern) (start b : Bindings)
    (remaining : List Nat) : Prop where
  keeps : start.Keeps b
  answered : ∀ (i : Nat) (st : Statement), p.statements[i]? = some st → i ∉ remaining →
    ∃ found, held found ∧ g.FitsStatement (g.Reads b) st found
  admits : ∀ name, Proper name → name ∉ start.values → p.Admits b name

mutual

/-- The row is a trunk for the pattern with rows of its optional patterns joined to it. -/
inductive Explained (g : Graph) (held : Statement → Prop) : Pattern → Bindings → Bindings → Prop
  | intro {p : Pattern} {start trunk row : Bindings} (htrunk : p.Fitted g held start trunk [])
    (hrow : Joined g held p.optionals trunk trunk row) : Explained g held p start row

/-- The last row is the one before with rows of these patterns merged into it, in their order, each of
which starts from the trunk. A pattern may be passed over. -/
inductive Joined (g : Graph) (held : Statement → Prop) :
    List Pattern → Bindings → Bindings → Bindings → Prop
  | done {trunk row : Bindings} : Joined g held [] trunk row row
  | pass {o : Pattern} {os : List Pattern} {trunk b row : Bindings}
    (hrest : Joined g held os trunk b row) : Joined g held (o :: os) trunk b row
  | take {o : Pattern} {os : List Pattern} {trunk b r row : Bindings}
    (hr : Explained g held o trunk r) (hrest : Joined g held os trunk (b.merge r) row) :
    Joined g held (o :: os) trunk b row

end

section
variable {g g' : Graph} {held : Statement → Prop} {p : Pattern} {start b row trunk : Bindings}
  {remaining : List Nat}

theorem fitted_start (g : Graph) (held : Statement → Prop) (p : Pattern) (start : Bindings) :
    p.Fitted g held start start (List.range p.size) where
  keeps := .refl start
  answered := fun _ _ hst hi =>
    absurd (List.mem_range.mpr (List.getElem?_eq_some_iff.mp hst).1) hi
  admits := fun _ _ hnew _ t _ ht => absurd (Bindings.mem_values.mpr ⟨t, ht⟩) hnew

theorem joined_of_mem_crossings {os : List Pattern} {rss : List (List Bindings)}
    (h : List.Forall₂ (fun o rs => ∀ r ∈ rs, Explained g held o trunk r) os rss)
    (hrow : row ∈ crossings Bindings.merge b rss) : Joined g held os trunk b row := by
  induction h generalizing b with
  | nil =>
    rw [List.mem_singleton.mp hrow]
    exact .done
  | @cons o rs os rss hrs _ ih =>
    by_cases hnone : rs = []
    · rw [hnone, crossings_nil_cons] at hrow
      exact .pass (ih hrow)
    · rw [crossings_cons _ hnone, List.mem_flatMap] at hrow
      obtain ⟨r, hr, hrow⟩ := hrow
      exact .take (hrs r hr) (ih hrow)

mutual

theorem Explained.keeps {g : Graph} {held : Statement → Prop} {p : Pattern} {start row : Bindings} :
    Explained g held p start row → start.Keeps row
  | .intro htrunk hrow => htrunk.keeps.trans (Joined.keeps hrow (.refl _))

/-- What the trunk binds stays, since every row that is joined to it keeps it. -/
theorem Joined.keeps {g : Graph} {held : Statement → Prop} {os : List Pattern}
    {trunk b row : Bindings} : Joined g held os trunk b row → trunk.Keeps b → trunk.Keeps row
  | .done, hb => hb
  | .pass hrest, hb => Joined.keeps hrest hb
  | .take hr hrest, _ => Joined.keeps hrest ((Explained.keeps hr).merge _)

end

structure Serves (g g' : Graph) (held : Statement → Prop) : Prop where
  wellFormed : g.WellFormed
  alikeIn : g.AlikeIn g'
  held : ∀ e ∈ g.entries, held e.statement

theorem Fitted.extend (hg : Serves g g' held) (h : p.Fitted g' held start b remaining) {i : Nat}
    {st : Statement} (hst : p.statements[i]? = some st) {e : Entry} (he : e ∈ g.entries)
    {out : Bindings} (hunify : g.unifyStatement p st e.statement b = some out) {rest : List Nat}
    (hrest : ∀ (k : Nat) (st : Statement), p.statements[k]? = some st → k ∈ remaining →
      k = i ∨ k ∈ rest) : p.Fitted g' held start out rest := by
  obtain ⟨hkeeps, hfits, hadmits⟩ := Graph.unifyStatement_reads hg.wellFormed hunify
  refine ⟨h.keeps.trans hkeeps, fun k st' hst' hk => ?_, fun name hname hnew c t hc ht => ?_⟩
  · by_cases hki : k = i
    · subst hki
      rw [hst] at hst'
      obtain rfl := Option.some.inj hst'
      have hsame : ∀ name u, g.Reads out name u → g'.Reads out name u :=
        fun _ _ hreads => hreads.mono (.refl out) hg.alikeIn
      exact ⟨e.statement, hg.held e he, hfits.alikeIn hg.alikeIn hsame⟩
    · have hdone : k ∉ remaining := fun hmem => (hrest k st' hst' hmem).elim hki hk
      obtain ⟨found, hfound, hfits'⟩ := h.answered k st' hst' hdone
      exact ⟨found, hfound, hfits'.mono fun _ _ hreads => hreads.mono hkeeps fun _ _ halike => halike⟩
  · cases hb : b.values[name]? with
    | none => exact hadmits name hname (Bindings.not_mem_values hb) c t hc ht
    | some v =>
      -- it was bound before, and tested then
      rw [hkeeps name v hname hb] at ht
      obtain rfl := Option.some.inj ht
      exact h.admits name hname hnew c v hc hb

theorem mem_index_prepared {i : Nat} {st : Statement} (g : Graph) (b : Bindings)
    (hst : p.statements[i]? = some st) (hi : i ∈ remaining) :
    i ∈ (p.prepared g remaining b).map Prepared.index := by
  refine List.mem_map.mpr ⟨.ofStatement g b i st, ?_, rfl⟩
  rw [(p.prepared_perm g remaining b).mem_iff, List.mem_filterMap]
  exact ⟨i, hi, by rw [hst]; rfl⟩

theorem Fitted.of_nil (h : p.Fitted g' held start b remaining)
    (hplan : p.prepared g remaining b = []) : p.Fitted g' held start b [] := by
  refine ⟨h.keeps, fun i st hst _ => h.answered i st hst fun hi => ?_, h.admits⟩
  have hmem := mem_index_prepared g b hst hi
  rw [hplan] at hmem
  cases hmem

theorem Fitted.of_cons (hg : Serves g g' held) (h : p.Fitted g' held start b remaining)
    {chosen : Prepared} {others : List Prepared} (hplan : p.prepared g remaining b = chosen :: others)
    {out : Bindings} (hout : out ∈ p.extensions g chosen b) :
    p.Fitted g' held start out (others.map Prepared.index) := by
  have hfirst : chosen ∈ p.prepared g remaining b := hplan ▸ List.mem_cons_self
  obtain ⟨st, hst, hchosen⟩ := mem_prepared hfirst
  rw [extensions, hst, List.mem_filterMap] at hout
  obtain ⟨e, he, hunify⟩ := hout
  rw [hchosen] at he
  refine h.extend hg hst (Graph.candidate_stored hg.wellFormed he) hunify fun k st' hst' hk => ?_
  have hmem := mem_index_prepared g b hst' hk
  rwa [hplan, List.map_cons, List.mem_cons] at hmem

end

end Pattern

/-! ## What is on its way -/

def Branch.uncounted (b : Branch) : Branch := { b with outstanding := 0 }

def Junction.uncounted (jn : Junction) : Junction := { jn with remaining := 0 }

namespace Execution

def start? (q : Query) (js : List Junction) : Owner → Option Bindings
  | .root => some q.initial
  | .optional j => js[j]?.map Junction.trunk

def Begins (q : Query) (bs : List Branch) (js : List Junction) (i : Nat) (p : Pattern)
    (start : Bindings) : Prop :=
  ∃ b, bs[i]? = some b ∧ b.pattern = p ∧ start? q js b.owner = some start

structure Explains (g : Graph) (held : Statement → Prop) (q : Query) (bs : List Branch)
    (js : List Junction) (ts : List Task) : Prop where
  branches : ∀ (i : Nat) (b : Branch), bs[i]? = some b → ∃ start, start? q js b.owner = some start ∧
    (b.owner = .root → b.pattern = q.pattern) ∧ ∀ r ∈ b.results, b.pattern.Explained g held start r
  tasks : ∀ t ∈ ts, ∃ p start, Begins q bs js t.branch p start ∧
    p.Fitted g held start t.bindings t.remaining
  junctions : ∀ (j : Nat) (jn : Junction), js[j]? = some jn → ∃ p start,
    Begins q bs js jn.parent p start ∧ p.Fitted g held start jn.trunk [] ∧
    List.Forall₂ (fun k o => Begins q bs js k o jn.trunk) jn.branches p.optionals

section
variable {g : Graph} {held : Statement → Prop} {q : Query} {bs : List Branch} {js : List Junction}
  {ts : List Task} {i : Nat} {p : Pattern} {start : Bindings}

theorem start?_append {owner : Owner} (h : start? q js owner = some start) (js' : List Junction) :
    start? q (js ++ js') owner = some start := by
  cases owner with
  | root => exact h
  | optional j =>
    obtain ⟨jn, hj, rfl⟩ := Option.map_eq_some_iff.mp h
    rw [start?, List.getElem?_append_left (List.getElem?_eq_some_iff.mp hj).1, hj]
    rfl

theorem Begins.append (h : Begins q bs js i p start) (bs' : List Branch) (js' : List Junction) :
    Begins q (bs ++ bs') (js ++ js') i p start := by
  obtain ⟨b, hb, hp, hstart⟩ := h
  refine ⟨b, ?_, hp, start?_append hstart js'⟩
  rw [List.getElem?_append_left (List.getElem?_eq_some_iff.mp hb).1, hb]

theorem Begins.modify (h : Begins q bs js i p start) (k : Nat) (rows : List Bindings) :
    Begins q (bs.modify k fun b => b.take rows) js i p start := by
  obtain ⟨b, hb, hp, hstart⟩ := h
  refine ⟨if k = i then b.take rows else b, ?_, ?_, ?_⟩
  · rw [List.getElem?_modify, hb]
    rfl
  · split <;> exact hp
  · split <;> exact hstart

theorem Begins.unique {p' : Pattern} {start' : Bindings} (h : Begins q bs js i p start)
    (h' : Begins q bs js i p' start') : p = p' ∧ start = start' := by
  obtain ⟨b, hb, rfl, hstart⟩ := h
  obtain ⟨b', hb', rfl, hstart'⟩ := h'
  rw [hb] at hb'
  obtain rfl := Option.some.inj hb'
  rw [hstart] at hstart'
  exact ⟨rfl, Option.some.inj hstart'⟩

namespace Explains

theorem subset {ts' : List Task} (h : Explains g held q bs js ts) (hts : ts' ⊆ ts) :
    Explains g held q bs js ts' :=
  ⟨h.branches, fun t ht => h.tasks t (hts ht), h.junctions⟩

/-- A task may be replaced by others that have matched more. -/
theorem append {ts' : List Task} (h : Explains g held q bs js ts)
    (hts : ∀ t ∈ ts', ∃ p start, Begins q bs js t.branch p start ∧
      p.Fitted g held start t.bindings t.remaining) : Explains g held q bs js (ts' ++ ts) := by
  refine ⟨h.branches, fun t ht => ?_, h.junctions⟩
  rcases List.mem_append.mp ht with ht | ht
  · exact hts t ht
  · exact h.tasks t ht

/-- Rows are explained where they are collected. -/
theorem take (h : Explains g held q bs js ts) (hi : Begins q bs js i p start) {rows : List Bindings}
    (hrows : ∀ r ∈ rows, p.Explained g held start r) :
    Explains g held q (bs.modify i fun b => b.take rows) js ts := by
  refine ⟨fun k b' hb' => ?_, fun t ht => ?_, fun j jn hj => ?_⟩
  · rw [List.getElem?_modify] at hb'
    obtain ⟨b, hb, rfl⟩ := Option.map_eq_some_iff.mp hb'
    obtain ⟨start', hstart, hroot, hresults⟩ := h.branches k b hb
    by_cases hk : i = k
    · subst hk
      obtain ⟨rfl, rfl⟩ := hi.unique ⟨b, hb, rfl, hstart⟩
      rw [if_pos rfl]
      refine ⟨start, hstart, hroot, fun r hr => ?_⟩
      rw [Branch.take] at hr
      dsimp only at hr
      split at hr
      · exact hresults r hr
      · exact (List.mem_append.mp hr).elim (hresults r) (hrows r)
    · rw [if_neg hk]
      exact ⟨start', hstart, hroot, hresults⟩
  · obtain ⟨p', start', hbegins, hfitted⟩ := h.tasks t ht
    exact ⟨p', start', hbegins.modify i rows, hfitted⟩
  · obtain ⟨p', start', hbegins, hfitted, hbranches⟩ := h.junctions j jn hj
    exact ⟨p', start', hbegins.modify i rows, hfitted,
      hbranches.imp fun _ _ hbegins => hbegins.modify i rows⟩

/-- A trunk is found: each optional pattern gets a branch that starts from it. -/
theorem fork (h : Explains g held q bs js ts) {parent : Nat} (hparent : Begins q bs js parent p start)
    {trunk : Bindings} (htrunk : p.Fitted g held start trunk []) :
    Explains g held q (bs ++ p.optionals.map (unstarted js.length))
      (js ++ [⟨parent, trunk, List.range' bs.length p.optionals.length, 0⟩])
      (((numbered bs.length p.optionals).map fun o => firstTask o.1 o.2 trunk) ++ ts) := by
  have hstart : ∀ jn : Junction, jn.trunk = trunk →
      start? q (js ++ [jn]) (.optional js.length) = some trunk := by
    rintro jn rfl
    rw [start?, List.getElem?_concat_length]
    rfl
  have hnew : ∀ o ∈ numbered bs.length p.optionals,
      Begins q (bs ++ p.optionals.map (unstarted js.length))
        (js ++ [⟨parent, trunk, List.range' bs.length p.optionals.length, 0⟩]) o.1 o.2 trunk := by
    intro o ho
    obtain ⟨k, hk, hget⟩ := mem_numbered.mp ho
    refine ⟨unstarted js.length o.2, ?_, rfl, hstart _ rfl⟩
    rw [hk, List.getElem?_append_right (Nat.le_add_right _ _), Nat.add_sub_cancel_left,
      List.getElem?_map, hget]
    rfl
  refine .append ⟨fun i b hb => ?_, fun t ht => ?_, fun j jn hj => ?_⟩ fun t ht => ?_
  · rw [List.getElem?_append] at hb
    split at hb
    · obtain ⟨start', hstart', hroot, hresults⟩ := h.branches i b hb
      exact ⟨start', start?_append hstart' _, hroot, hresults⟩
    · rw [List.getElem?_map, Option.map_eq_some_iff] at hb
      obtain ⟨o, -, rfl⟩ := hb
      exact ⟨trunk, hstart _ rfl, nofun, nofun⟩
  · obtain ⟨p', start', hbegins, hfitted⟩ := h.tasks t ht
    exact ⟨p', start', hbegins.append _ _, hfitted⟩
  · rw [List.getElem?_append] at hj
    split at hj
    · obtain ⟨p', start', hbegins, hfitted, hbranches⟩ := h.junctions j jn hj
      exact ⟨p', start', hbegins.append _ _, hfitted,
        hbranches.imp fun _ _ hbegins => hbegins.append _ _⟩
    · obtain ⟨-, rfl⟩ := List.getElem?_eq_some_iff.mp hj
      rw [List.getElem_singleton]
      refine ⟨p, start, hparent.append _ _, htrunk, List.forall₂_iff_zip.mpr ⟨?_, fun ho => ?_⟩⟩
      · rw [List.length_range']
      · exact hnew _ ho
  · obtain ⟨o, ho, rfl⟩ := List.mem_map.mp ht
    exact ⟨o.2, trunk, hnew o ho, Pattern.fitted_start g held o.2 trunk⟩

/-- What the branches of a junction have collected combines to rows of its parent. -/
theorem combined (h : Explains g held q bs js ts) {j : Nat} {jn : Junction} (hj : js[j]? = some jn) :
    ∃ p start, Begins q bs js jn.parent p start ∧
      ∀ r ∈ combine jn.trunk (jn.branches.map fun i => (bs[i]?.map Branch.results).getD []),
        p.Explained g held start r := by
  obtain ⟨p, start, hbegins, hfitted, hbranches⟩ := h.junctions j jn hj
  refine ⟨p, start, hbegins, fun r hr => .intro hfitted ?_⟩
  rw [combine_eq_crossings] at hr
  refine Pattern.joined_of_mem_crossings ?_ hr
  rw [List.forall₂_map_right_iff]
  refine hbranches.flip.imp ?_
  rintro o i ⟨b, hb, rfl, hstart⟩ r hr
  obtain ⟨start', hstart', -, hresults⟩ := h.branches i b hb
  rw [hstart] at hstart'
  obtain rfl := Option.some.inj hstart'
  rw [hb] at hr
  exact hresults r hr

end Explains

end

/-! ## Working on a task -/

def Traced (g : Graph) (held : Statement → Prop) (q : Query) (e : Execution) (ts : List Task) : Prop :=
  Explains g held q (e.branches.map Branch.uncounted) (e.junctions.map Junction.uncounted) ts

def Accounts (g : Graph) (held : Statement → Prop) (q : Query) (ds : List Delivery) : Prop :=
  ∀ row, .row row ∈ ds → q.pattern.Explained g held q.initial row

section
variable {e : Execution}

theorem uncounted_changeBranch (e : Execution) (i : Nat) {f : Branch → Branch}
    (hf : ∀ b, (f b).uncounted = b.uncounted) :
    (e.changeBranch i f).branches.map Branch.uncounted = e.branches.map Branch.uncounted := by
  refine List.ext_getElem? fun k => ?_
  simp only [List.getElem?_map, getElem?_changeBranch]
  split
  · rw [Option.map_map]
    exact congrArg (fun f => e.branches[k]?.map f) (funext hf)
  · rfl

theorem uncounted_releaseJunction (e : Execution) (j : Nat) :
    (e.releaseJunction j).junctions.map Junction.uncounted =
      e.junctions.map Junction.uncounted := by
  refine List.ext_getElem? fun k => ?_
  simp only [List.getElem?_map, getElem?_releaseJunction]
  split
  · rw [Option.map_map]
    rfl
  · rfl

theorem uncounted_spawnAll (e : Execution) (ts : List Task) :
    (e.spawnAll ts).branches.map Branch.uncounted = e.branches.map Branch.uncounted := by
  induction ts with
  | nil => rfl
  | cons t ts ih =>
    rw [spawnAll_cons, ← ih]
    exact uncounted_changeBranch (e.spawnAll ts) t.branch fun _ => rfl

theorem uncounted_deliverAll (i : Nat) (rows : List Bindings) (e : Execution) :
    (deliverAll i rows e).1.branches.map Branch.uncounted =
      (e.branches.map Branch.uncounted).modify i fun b => b.take rows := by
  refine List.ext_getElem? fun k => ?_
  rw [List.getElem?_map, deliverAll_branches, List.getElem?_modify, List.getElem?_map]
  by_cases hk : i = k
  · simp only [if_pos hk, Option.map_map]
    cases e.branches[k]? <;> rfl
  · simp only [if_neg hk]
    cases e.branches[k]? <;> rfl

theorem collected_uncounted (e : Execution) (jn : Junction) :
    (jn.branches.map fun i => ((e.branches.map Branch.uncounted)[i]?.map Branch.results).getD []) =
      e.collected jn := by
  refine List.map_congr_left fun i _ => ?_
  rw [List.getElem?_map, Option.map_map]
  rfl

theorem mem_deliver {i : Nat} {x r : Bindings} (h : .row r ∈ (e.deliver i x).2) :
    r = x ∧ ∃ b, e.branches[i]? = some b ∧ b.owner = .root := by
  unfold deliver at h
  split at h
  case h_1 hroot =>
    obtain ⟨b, hb, hown⟩ := Option.map_eq_some_iff.mp hroot
    exact ⟨Delivery.row.inj (List.mem_singleton.mp h), b, hb, hown⟩
  case h_2 => cases h
  case h_3 => cases h

theorem mem_deliverAll {i : Nat} {rows : List Bindings} {r : Bindings}
    (h : .row r ∈ (deliverAll i rows e).2) :
    r ∈ rows ∧ ∃ b, e.branches[i]? = some b ∧ b.owner = .root := by
  induction rows generalizing e with
  | nil => cases h
  | cons x rows ih =>
    rcases List.mem_append.mp h with h | h
    · obtain ⟨rfl, hroot⟩ := mem_deliver h
      exact ⟨List.mem_cons_self, hroot⟩
    · obtain ⟨hr, b', hb', hown⟩ := ih (e := (e.deliver i x).1) h
      rw [deliver_branches, if_pos rfl] at hb'
      obtain ⟨b, hb, rfl⟩ := Option.map_eq_some_iff.mp hb'
      exact ⟨List.mem_cons_of_mem _ hr, b, hb, hown⟩

end

section
variable {g : Graph} {held : Statement → Prop} {q : Query} {e e' : Execution} {ts : List Task}

theorem Traced.congr (h : e.Traced g held q ts)
    (hbranches : e'.branches.map Branch.uncounted = e.branches.map Branch.uncounted)
    (hjunctions : e'.junctions.map Junction.uncounted = e.junctions.map Junction.uncounted) :
    e'.Traced g held q ts := by
  unfold Traced
  rw [hbranches, hjunctions]
  exact h

theorem Traced.release (h : e.Traced g held q ts) (i : Nat) : (e.release i).Traced g held q ts :=
  h.congr (uncounted_changeBranch e i fun _ => rfl) rfl

theorem Traced.releaseJunction (h : e.Traced g held q ts) (j : Nat) :
    (e.releaseJunction j).Traced g held q ts :=
  h.congr rfl (uncounted_releaseJunction e j)

theorem Accounts.nil (g : Graph) (held : Statement → Prop) (q : Query) : Accounts g held q [] :=
  fun _ h => nomatch h

theorem Accounts.append {ds ds' : List Delivery} (h : Accounts g held q ds)
    (h' : Accounts g held q ds') : Accounts g held q (ds ++ ds') :=
  fun row hrow => (List.mem_append.mp hrow).elim (h row) (h' row)

theorem Traced.deliverAll (h : e.Traced g held q ts) {i : Nat} {p : Pattern} {start : Bindings}
    (hi : Begins q (e.branches.map Branch.uncounted) (e.junctions.map Junction.uncounted) i p start)
    {rows : List Bindings} (hrows : ∀ r ∈ rows, p.Explained g held start r) :
    (deliverAll i rows e).1.Traced g held q ts ∧ Accounts g held q (deliverAll i rows e).2 := by
  obtain ⟨branches, delivered, hfields⟩ := deliverAll_fields i rows e
  have hjunctions : (Execution.deliverAll i rows e).1.junctions = e.junctions := by rw [hfields]
  refine ⟨?_, fun r hr => ?_⟩
  · unfold Traced
    rw [uncounted_deliverAll, hjunctions]
    exact h.take hi hrows
  · -- only a branch for the whole query hands rows out
    obtain ⟨hr, b, hb, hown⟩ := mem_deliverAll hr
    have hb' : (e.branches.map Branch.uncounted)[i]? = some b.uncounted := by
      rw [List.getElem?_map, hb]
      rfl
    obtain ⟨start', hstart', hroot, -⟩ := h.branches i _ hb'
    obtain ⟨rfl, rfl⟩ := hi.unique ⟨_, hb', rfl, hstart'⟩
    have hinitial : start? q (e.junctions.map Junction.uncounted) .root = some start :=
      hown ▸ hstart'
    obtain rfl := Option.some.inj hinitial
    rw [← hroot hown]
    exact hrows r hr

theorem finish_traced {height i : Nat} (h : e.Traced g held q ts) :
    (finish height i e).1.Traced g held q ts ∧ Accounts g held q (finish height i e).2 := by
  have hnone : Accounts g held q [] := .nil g held q
  induction height generalizing i e with
  | zero => exact ⟨h, hnone⟩
  | succ height ih =>
    have hreleased := h.release i
    cases hb : (e.release i).branches[i]? with
    | none =>
      rw [finish_of_none hb]
      exact ⟨hreleased, hnone⟩
    | some b =>
      by_cases hzero : b.outstanding = 0
      · cases hown : b.owner with
        | root =>
          rw [finish_of_root hb hzero hown]
          exact ⟨hreleased, fun row hrow => nomatch List.mem_singleton.mp hrow⟩
        | optional j =>
          have hreleased' := hreleased.releaseJunction j
          cases hj : ((e.release i).releaseJunction j).junctions[j]? with
          | none =>
            rw [finish_of_missing hb hzero hown hj]
            exact ⟨hreleased', hnone⟩
          | some jn =>
            by_cases hlast : jn.remaining = 0
            · have hj' : (((e.release i).releaseJunction j).junctions.map Junction.uncounted)[j]? =
                  some jn.uncounted := by
                rw [List.getElem?_map, hj]
                rfl
              obtain ⟨p, start, hbegins, hrows⟩ := hreleased'.combined hj'
              obtain ⟨hpassed, haccounts⟩ := hreleased'.deliverAll hbegins hrows
              obtain ⟨hended, haccounts'⟩ := ih (i := jn.parent) hpassed
              rw [finish_of_junction hb hzero hown hj hlast, passOn, ← collected_uncounted]
              exact ⟨hended, haccounts.append haccounts'⟩
            · rw [finish_of_junction_pos hb hzero hown hj (Nat.pos_of_ne_zero hlast)]
              exact ⟨hreleased', hnone⟩
      · rw [finish_of_pos hb (Nat.pos_of_ne_zero hzero)]
        exact ⟨hreleased, hnone⟩

theorem Traced.openJunction (h : e.Traced g held q e.tasks) {i : Nat} {p : Pattern}
    {start trunk : Bindings}
    (hi : Begins q (e.branches.map Branch.uncounted) (e.junctions.map Junction.uncounted) i p start)
    (htrunk : p.Fitted g held start trunk []) :
    (e.openJunction i p.optionals trunk).Traced g held q (e.openJunction i p.optionals trunk).tasks := by
  obtain ⟨_, hfields⟩ := openJunction_fields e i p.optionals trunk
  have htasks : (e.openJunction i p.optionals trunk).tasks =
      ((numbered e.branches.length p.optionals).map fun o => firstTask o.1 o.2 trunk) ++ e.tasks := by
    rw [hfields, tasks, tasks, List.append_assoc]
  have hjunctions : (e.openJunction i p.optionals trunk).junctions.map Junction.uncounted =
      e.junctions.map Junction.uncounted ++
        [⟨i, trunk, List.range' e.branches.length p.optionals.length, 0⟩] := by
    rw [hfields, List.map_append]
    rfl
  have hbranches : (e.openJunction i p.optionals trunk).branches.map Branch.uncounted =
      e.branches.map Branch.uncounted ++ p.optionals.map (unstarted e.junctions.length) := by
    rw [openJunction_eq, uncounted_spawnAll]
    refine Eq.trans (uncounted_changeBranch _ i ?_) ?_
    · exact fun _ => rfl
    · rw [List.map_append, List.map_map]
      rfl
  have hfork := h.fork hi htrunk
  rw [List.length_map, List.length_map] at hfork
  rw [htasks, Traced, hbranches, hjunctions]
  exact hfork

theorem matched_traced (h : e.Traced g held q e.tasks) {i : Nat} {p : Pattern} {start b : Bindings}
    (hi : Begins q (e.branches.map Branch.uncounted) (e.junctions.map Junction.uncounted) i p start)
    (hb : p.Fitted g held start b []) :
    (e.matched i p b).1.Traced g held q (e.matched i p b).1.tasks ∧
      Accounts g held q (e.matched i p b).2 := by
  by_cases hoptionals : p.optionals = []
  · have hrow : p.Explained g held start b := .intro hb (hoptionals ▸ .done)
    have hone : e.deliver i b = Execution.deliverAll i [b] e := by
      simp only [Execution.deliverAll, List.append_nil]
    obtain ⟨branches, delivered, hfields⟩ := deliverAll_fields i [b] e
    have htasks : (Execution.deliverAll i [b] e).1.tasks = e.tasks := by rw [hfields, tasks, tasks]
    rw [matched_of_nil hoptionals, hone, htasks]
    exact h.deliverAll hi fun r hr => List.mem_singleton.mp hr ▸ hrow
  · rw [matched_of_ne_nil hoptionals]
    exact ⟨h.openJunction hi hb, .nil g held q⟩

/-- What a task leaves behind is explained, and so is what is handed out meanwhile. -/
theorem process_traced {g' : Graph} (hg : Pattern.Serves g' g held) {t : Task}
    (h : e.Traced g held q (t :: e.tasks)) :
    (process g' e t).1.Traced g held q (process g' e t).1.tasks ∧
      Accounts g held q (process g' e t).2 := by
  obtain ⟨p, start, hbegins, hfitted⟩ := h.tasks t List.mem_cons_self
  obtain ⟨b, hb, hp⟩ : ∃ b, e.branches[t.branch]? = some b ∧ b.pattern = p := by
    obtain ⟨_, hb', rfl, -⟩ := hbegins
    rw [List.getElem?_map, Option.map_eq_some_iff] at hb'
    obtain ⟨b, hb, rfl⟩ := hb'
    exact ⟨b, hb, rfl⟩
  have hrest : e.Traced g held q e.tasks := h.subset (List.subset_cons_self ..)
  -- taking the task off the account leaves all tasks as they are
  have hended : ∀ e' : Execution, e'.Traced g held q e'.tasks →
      (e'.finishTask t.branch).1.Traced g held q (e'.finishTask t.branch).1.tasks ∧
        Accounts g held q (e'.finishTask t.branch).2 := by
    intro e' h'
    obtain ⟨_, _, _, _, hfields⟩ := finish_fields (t.branch + 1) t.branch e'
    have htasks : (e'.finishTask t.branch).1.tasks = e'.tasks := by
      rw [finishTask, hfields, tasks, tasks]
    rw [htasks]
    exact finish_traced h'
  cases hplan : p.prepared g' t.remaining t.bindings with
  | nil =>
    rw [process_of_nil hb hp hplan]
    obtain ⟨hmatched, haccounts⟩ := matched_traced hrest hbegins (hfitted.of_nil hplan)
    obtain ⟨hfinished, haccounts'⟩ := hended _ hmatched
    exact ⟨hfinished, haccounts.append haccounts'⟩
  | cons chosen others =>
    rw [process_of_cons hb hp hplan]
    obtain ⟨branches, hspawned⟩ := spawnAll_eq e ((p.extensions g' chosen t.bindings).map fun x =>
      ⟨t.branch, others.map Prepared.index, x⟩)
    have htasks : (e.spawnAll ((p.extensions g' chosen t.bindings).map fun x =>
        (⟨t.branch, others.map Prepared.index, x⟩ : Task))).tasks =
        ((p.extensions g' chosen t.bindings).map fun x =>
          ⟨t.branch, others.map Prepared.index, x⟩) ++ e.tasks := by
      rw [hspawned, tasks, tasks, List.append_assoc]
    refine hended _ ?_
    rw [htasks]
    refine Traced.congr (e := e) (hrest.append fun t' ht' => ?_) (uncounted_spawnAll e _) ?_
    · obtain ⟨x, hx, rfl⟩ := List.mem_map.mp ht'
      exact ⟨p, start, hbegins, hfitted.of_cons hg hplan hx⟩
    · rw [hspawned]

end

end Execution

end QuadGraph
