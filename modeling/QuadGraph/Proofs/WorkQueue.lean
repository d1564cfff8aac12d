import QuadGraph.Proofs.Branches
import QuadGraph.Proofs.Evaluation

/-!
# The work queue

The tasks of an execution lie on one stack, so that all work that a task leads to is done before
the tasks below it are taken up. By then its branch has received the rows that evaluation by
recursion gives for the task, in that order, and every older branch and junction is as it was
(`Runs`). The proof goes along the recursion of the evaluator.
-/

namespace QuadGraph

namespace Execution

/-! ## Working through tasks -/

def started (e : Execution) (rest : List Task) : Execution :=
  { e with stack := rest, fuelUsed := e.fuelUsed + 1 }

inductive Works (g : Graph) : Execution → List Delivery → Execution → Prop
  | refl (e : Execution) : Works g e [] e
  | step {e e' : Execution} {t : Task} {rest : List Task} {ds : List Delivery}
      (hfuel : e.query.maxFuel = none) (hstack : e.stack = t :: rest)
      (hworks : Works g (process g (e.started rest) t).1 ds e') :
      Works g e ((process g (e.started rest) t).2 ++ ds) e'

theorem Works.trans {g : Graph} {e e' e'' : Execution} {ds ds' : List Delivery}
    (h : Works g e ds e') (h' : Works g e' ds' e'') : Works g e (ds ++ ds') e'' := by
  induction h with
  | refl e => exact h'
  | step hfuel hstack _ ih =>
    rw [List.append_assoc]
    exact .step hfuel hstack (ih h')

/-- The work for a branch above the rest of the stack hands these solutions over and then takes
one task of the branch off the account. -/
def Yields (g : Graph) (e₀ e : Execution) (branch : Nat) (b : Branch) (rest : List Task)
    (rows : List Bindings) : Prop :=
  ∃ e', e₀.Leaves branch (b.take rows) rest e' ∧
    Works g e (b.handsOut rows ++ (e'.finishTask branch).2) (e'.finishTask branch).1

def Runs (g : Graph) (p : Pattern) (remaining : List Nat) (b₀ : Bindings) (rows : List Bindings) :
    Prop :=
  ∀ ⦃e : Execution⦄ ⦃branch : Nat⦄ ⦃b : Branch⦄ ⦃rest : List Task⦄,
    e.query.maxFuel = none → e.Rooted → e.stack = ⟨branch, remaining, b₀⟩ :: rest →
    e.branches[branch]? = some b → b.pattern = p → 0 < b.outstanding →
    Yields g e e branch b rest rows

/-! ### Tasks of one branch -/

/-- Tasks for the same statements, one after the other. -/
theorem yields_siblings {g : Graph} {p : Pattern} {remaining : List Nat}
    {rows : Bindings → List Bindings} {x : Bindings} {xs : List Bindings}
    (hruns : ∀ y ∈ x :: xs, Runs g p remaining y (rows y)) {e : Execution} {branch : Nat}
    {b : Branch} {rest : List Task} (hfuel : e.query.maxFuel = none) (hr : e.Rooted)
    (hstack : e.stack = (x :: xs).map (fun y => ⟨branch, remaining, y⟩) ++ rest)
    (hb : e.branches[branch]? = some { b with outstanding := b.outstanding + xs.length })
    (hp : b.pattern = p) (hpos : 0 < b.outstanding) :
    Yields g e e branch b rest ((x :: xs).flatMap rows) := by
  induction xs generalizing x e b with
  | nil =>
    rw [List.flatMap_cons, List.flatMap_nil, List.append_nil]
    exact hruns x (by simp) hfuel hr hstack hb hp hpos
  | cons y ys ih =>
    -- the branch still waits for the tasks below, so finishing the first hands nothing over
    obtain ⟨e₁, hleaves, hworks⟩ := hruns x (by simp) hfuel hr hstack hb hp (by simp only; omega)
    have hwaits := finishTask_leaves hleaves.branch hleaves.rooted
      (by simp only [Branch.take_outstanding, List.length_cons]; omega)
    obtain ⟨hwaits, hnone⟩ := hwaits
    rw [hnone, List.append_nil] at hworks
    have hframe := hleaves.frame.trans hwaits.frame
    have hrest := ih (x := y) (e := (e₁.finishTask branch).1) (b := b.take (rows x))
      (fun z hz => hruns z (by simp [hz])) (by rw [hframe.query]; exact hfuel) hwaits.rooted
      (by rw [hwaits.stack, hleaves.stack]; rfl)
      (by rw [hwaits.branch]; rfl) hp hpos
    obtain ⟨e₂, hleaves₂, hworks₂⟩ := hrest
    rw [Branch.take_take, ← List.flatMap_cons] at hleaves₂
    refine ⟨e₂, hleaves₂.after hframe, ?_⟩
    rw [List.flatMap_cons, b.handsOut_append, List.append_assoc]
    exact hworks.trans hworks₂

/-! ### Optional branches -/

/-- The state of an open junction: the branches of the first optional patterns have collected
their solutions, and the tasks of the others are what lies next on the stack. -/
structure Pending (g : Graph) (e₀ e : Execution) (parent junction : Nat) (b : Branch)
    (trunk : Bindings) (rest : List Task) (ended waiting : List (Nat × Pattern)) : Prop where
  frame : e₀.Frame parent e
  rooted : e.Rooted
  stack : e.stack = (waiting.map fun o => firstTask o.1 o.2 trunk) ++ rest
  parentBranch : e.branches[parent]? = some b
  opened : e.junctions[junction]? =
    some ⟨parent, trunk, (ended ++ waiting).map Prod.fst, waiting.length⟩
  fresh : e₀.junctions[junction]? = none
  freshBranches : ∀ o ∈ ended ++ waiting, e₀.branches[o.1]? = none ∧ parent < o.1
  distinct : ((ended ++ waiting).map Prod.fst).Nodup
  untouched : ∀ o ∈ waiting, e.branches[o.1]? =
    some { pattern := o.2, owner := .optional junction, outstanding := 1 }
  collected : ∀ o ∈ ended, e.branches[o.1]?.map Branch.results = some (o.2.rows g trunk)

theorem pending_openJunction {g : Graph} {e : Execution} {parent : Nat} {b : Branch}
    (hb : e.branches[parent]? = some b) (hr : e.Rooted) (hpos : 0 < b.outstanding)
    (ps : List Pattern) (trunk : Bindings) :
    Pending g e ((e.openJunction parent ps trunk).finishTask parent).1 parent e.junctions.length b
      trunk e.stack [] (numbered e.branches.length ps) := by
  have hframe : e.Frame parent (e.openJunction parent ps trunk) := openJunction_frame ps trunk
  have hlt := (List.getElem?_eq_some_iff.mp hb).1
  obtain ⟨hwaits, -⟩ := finishTask_leaves (openJunction_parent hb ps trunk)
    (hr.openJunction hb ps trunk) (Nat.succ_le_succ hpos)
  refine ⟨hframe.trans hwaits.frame, hwaits.rooted, ?_, hwaits.branch, ?_, ?_, ?_, ?_, ?_, ?_⟩
  · rw [hwaits.stack, openJunction_stack]
  · refine hwaits.frame.junctions _ _ ?_
    rw [openJunction_junctions, List.getElem?_concat_length, List.nil_append, map_fst_numbered,
      numbered, List.length_zip, List.length_range', Nat.min_self]
  · exact List.getElem?_eq_none (Nat.le_refl _)
  · intro o ho
    obtain ⟨k, hk, -⟩ := mem_numbered.mp ho
    exact ⟨List.getElem?_eq_none (by omega), by omega⟩
  · rw [List.nil_append, map_fst_numbered]
    exact List.nodup_range'
  · intro o ho
    obtain ⟨k, hk, -⟩ := mem_numbered.mp ho
    exact hwaits.frame.branches o.1 _ (by omega) (openJunction_optional hb ps trunk ho)
  · exact fun o ho => absurd ho List.not_mem_nil

section
variable {g : Graph} {e₀ e e₁ : Execution} {parent junction : Nat} {b : Branch} {trunk : Bindings}
  {rest : List Task} {ended waiting : List (Nat × Pattern)} {o : Nat × Pattern}
  (hpending : Pending g e₀ e parent junction b trunk rest ended (o :: waiting))
  (hleaves : e.Leaves o.1
    (Branch.take { pattern := o.2, owner := .optional junction, outstanding := 1 } (o.2.rows g trunk))
    ((waiting.map fun o => firstTask o.1 o.2 trunk) ++ rest) e₁)
include hpending hleaves

theorem Pending.release : ((e₁.release o.1).branches[o.1]? =
    some { pattern := o.2, owner := .optional junction, results := o.2.rows g trunk }) ∧
    ((e₁.release o.1).releaseJunction junction).junctions[junction]? =
      some ⟨parent, trunk, (ended ++ o :: waiting).map Prod.fst, waiting.length⟩ := by
  constructor
  · rw [release_branch hleaves.branch]
    rfl
  · rw [getElem?_releaseJunction, if_pos rfl]
    have hjunction := hleaves.frame.junctions _ _ hpending.opened
    change (e₁.junctions[junction]?).map _ = _
    rw [hjunction]
    rfl

theorem Pending.next : Pending g e₀ ((e₁.release o.1).releaseJunction junction) parent junction b
    trunk rest (ended ++ [o]) waiting := by
  have happend : ended ++ [o] ++ waiting = ended ++ o :: waiting := by simp
  have hmem : o ∈ ended ++ o :: waiting := by simp
  have hdistinct := hpending.distinct
  rw [List.map_append, List.map_cons, List.nodup_append, List.nodup_cons] at hdistinct
  obtain ⟨-, ⟨hwaiting, -⟩, hended⟩ := hdistinct
  -- only the branch that ended and the junction have changed
  have hbranches : ∀ i a, i ≠ o.1 → e.branches[i]? = some a →
      ((e₁.release o.1).releaseJunction junction).branches[i]? = some a :=
    fun i a hne hi =>
      (Frame.changeBranch e₁ o.1 _).branches i a hne (hleaves.frame.branches i a hne hi)
  refine ⟨⟨?_, ?_, ?_⟩, ?_, hleaves.stack, ?_, ?_, hpending.fresh, ?_, ?_, ?_, ?_⟩
  · exact hleaves.frame.query.trans hpending.frame.query
  · intro i a hne hi
    refine hbranches i a (fun heq => ?_) (hpending.frame.branches i a hne hi)
    rw [heq, (hpending.freshBranches o hmem).1] at hi
    cases hi
  · intro j jn hj
    have hne : junction ≠ j := by
      rintro rfl
      rw [hpending.fresh] at hj
      cases hj
    rw [getElem?_releaseJunction, if_neg hne]
    exact hleaves.frame.junctions j jn (hpending.frame.junctions j jn hj)
  · exact (hleaves.rooted.release o.1).releaseJunction junction
  · exact hbranches parent b (Nat.ne_of_lt (hpending.freshBranches o hmem).2) hpending.parentBranch
  · rw [happend]
    exact (hpending.release hleaves).2
  · rw [happend]
    exact hpending.freshBranches
  · rw [happend]
    exact hpending.distinct
  · intro x hx
    refine hbranches x.1 _ (fun heq => hwaiting ?_) (hpending.untouched x (List.mem_cons_of_mem o hx))
    rw [← heq]
    exact List.mem_map_of_mem hx
  · intro x hx
    rcases List.mem_append.mp hx with hx | hx
    · obtain ⟨a, ha, hresults⟩ := Option.map_eq_some_iff.mp (hpending.collected x hx)
      have hne : x.1 ≠ o.1 := hended x.1 (List.mem_map_of_mem hx) o.1 (List.mem_cons_self ..)
      rw [hbranches x.1 a hne ha, Option.map_some, hresults]
    · obtain rfl := List.mem_singleton.mp hx
      change ((e₁.release x.1).branches[x.1]?).map _ = _
      rw [(hpending.release hleaves).1]
      rfl

end

theorem Pending.collected_eq {g : Graph} {e₀ e : Execution} {parent junction : Nat} {b : Branch}
    {trunk : Bindings} {rest : List Task} {ended : List (Nat × Pattern)}
    (hpending : Pending g e₀ e parent junction b trunk rest ended []) (remaining : Nat) :
    e.collected ⟨parent, trunk, ended.map Prod.fst, remaining⟩ =
      ended.map fun o => o.2.rows g trunk := by
  rw [Execution.collected, List.map_map]
  refine List.map_congr_left fun o ho => ?_
  simp only [Function.comp_apply, hpending.collected o ho, Option.getD_some]

/-- Optional branches, one after the other; the last to be finished makes the junction hand over
what they combine to. -/
theorem yields_optionals {g : Graph} {e₀ e : Execution} {parent junction : Nat} {b : Branch}
    {trunk : Bindings} {rest : List Task} {ended waiting : List (Nat × Pattern)}
    (hfuel : e₀.query.maxFuel = none) (hne : waiting ≠ [])
    (hpending : Pending g e₀ e parent junction b trunk rest ended waiting)
    (hruns : ∀ o ∈ waiting, Runs g o.2 (List.range o.2.size) trunk (o.2.rows g trunk)) :
    Yields g e₀ e parent b rest
      (crossings Bindings.merge trunk ((ended ++ waiting).map fun o => o.2.rows g trunk)) := by
  induction waiting generalizing e ended with
  | nil => exact absurd rfl hne
  | cons o waiting ih =>
    have hfuel' : e.query.maxFuel = none := by rw [hpending.frame.query]; exact hfuel
    obtain ⟨e₁, hleaves, hworks⟩ := hruns o (by simp) hfuel' hpending.rooted hpending.stack
      (hpending.untouched o (by simp)) rfl Nat.one_pos
    obtain ⟨hbranch, hjunction⟩ := hpending.release hleaves
    have hnext := hpending.next hleaves
    rw [Branch.handsOut, if_neg (by simp), List.nil_append] at hworks
    cases waiting with
    | nil =>
      have hparent : parent < o.1 := (hpending.freshBranches o (by simp)).2
      obtain ⟨hpassed, hrows⟩ := deliverAll_leaves hnext.parentBranch hnext.rooted
        (crossings Bindings.merge trunk ((ended ++ [o]).map fun o => o.2.rows g trunk))
      have hfinish : e₁.finishTask o.1 = _ :=
        finish_of_junction (h := o.1) hbranch rfl rfl hjunction rfl
      simp only [passOn, combine_eq_crossings, hnext.collected_eq, hrows] at hfinish
      -- the height that is left is enough for the branches above the parent
      rw [finish_height hpassed.rooted hparent (Nat.lt_succ_self parent)] at hfinish
      rw [hfinish] at hworks
      rw [hnext.stack] at hpassed
      exact ⟨_, hpassed.after hnext.frame, hworks⟩
    | cons o' waiting =>
      have hfinish : e₁.finishTask o.1 = ((e₁.release o.1).releaseJunction junction, []) :=
        finish_of_junction_pos hbranch rfl rfl hjunction (Nat.succ_pos _)
      rw [hfinish] at hworks
      obtain ⟨e', hleaves', hworks'⟩ := ih (List.cons_ne_nil _ _) hnext
        fun x hx => hruns x (List.mem_cons_of_mem o hx)
      rw [List.append_assoc, List.singleton_append] at hleaves' hworks'
      exact ⟨e', hleaves', hworks.trans hworks'⟩

/-! ## The recursion of the evaluator -/

theorem children_eq (g : Graph) (p : Pattern) (t : Task) (chosen : Prepared) (rest : List Nat) :
    children g p t chosen rest =
      (p.extensions g chosen t.bindings).map fun b => ⟨t.branch, rest, b⟩ := by
  unfold children Pattern.extensions
  split <;> simp_all

theorem Works.one {g : Graph} {e : Execution} {t : Task} {rest : List Task}
    (hfuel : e.query.maxFuel = none) (hstack : e.stack = t :: rest) :
    Works g e (process g (e.started rest) t).2 (process g (e.started rest) t).1 := by
  have hstep := Works.step hfuel hstack (.refl (process g (e.started rest) t).1)
  rwa [List.append_nil] at hstep

/-- Work that hands nothing out may come before. -/
theorem Yields.after {g : Graph} {e e₁ e₂ : Execution} {branch : Nat} {b : Branch} {rest : List Task}
    {rows : List Bindings} (h : Yields g e₁ e₂ branch b rest rows) (hframe : e.Frame branch e₁)
    (hworks : Works g e [] e₂) : Yields g e e branch b rest rows := by
  obtain ⟨e', hleaves, hworks'⟩ := h
  exact ⟨e', hleaves.after hframe, hworks.trans hworks'⟩

section
variable {g : Graph} {e : Execution} {t : Task} {b : Branch} {p : Pattern}
  (hb : e.branches[t.branch]? = some b) (hp : b.pattern = p)
include hb hp

theorem process_of_nil (hplan : p.prepared g t.remaining t.bindings = []) :
    process g e t =
      let opened := e.matched t.branch p t.bindings
      let ended := opened.1.finishTask t.branch
      (ended.1, opened.2 ++ ended.2) := by
  have hplan' : plan g p t = [] := hplan
  simp only [process, hb, Option.map_some, hp, hplan']

theorem process_of_cons {chosen : Prepared} {others : List Prepared}
    (hplan : p.prepared g t.remaining t.bindings = chosen :: others) :
    process g e t = (e.spawnAll ((p.extensions g chosen t.bindings).map fun x =>
      ⟨t.branch, others.map Prepared.index, x⟩)).finishTask t.branch := by
  have hplan' : plan g p t = chosen :: others := hplan
  simp only [process, hb, Option.map_some, hp, hplan', children_eq]

end

theorem frame_started (e : Execution) (rest : List Task) (branch : Nat) :
    e.Frame branch (e.started rest) :=
  ⟨rfl, fun _ _ _ h => h, fun _ _ h => h⟩

theorem matched_of_nil {p : Pattern} (h : p.optionals = []) (e : Execution) (branch : Nat)
    (b : Bindings) : e.matched branch p b = e.deliver branch b := by
  rw [matched, h, List.isEmpty_nil, if_pos rfl]

theorem matched_of_ne_nil {p : Pattern} (h : p.optionals ≠ []) (e : Execution) (branch : Nat)
    (b : Bindings) : e.matched branch p b = (e.openJunction branch p.optionals b, []) := by
  rw [matched, if_neg (by simpa using h)]

/-- Branches are never dropped. -/
theorem patterns_process (g : Graph) (e : Execution) (t : Task) :
    e.patterns <+: (process g e t).1.patterns := by
  cases hb : e.branches[t.branch]? with
  | none => simp [process, hb]
  | some b =>
    cases hplan : b.pattern.prepared g t.remaining t.bindings with
    | nil =>
      rw [process_of_nil hb rfl hplan]
      simp only [finishTask, patterns_finish]
      by_cases hps : b.pattern.optionals = []
      · simp only [matched_of_nil hps, patterns_deliver, List.prefix_rfl]
      · simp only [matched_of_ne_nil hps, patterns_openJunction, List.prefix_append]
    | cons chosen others =>
      rw [process_of_cons hb rfl hplan]
      simp only [finishTask, patterns_finish, patterns_spawnAll, List.prefix_rfl]

theorem map_rows_numbered (g : Graph) (b : Bindings) (n : Nat) (ps : List Pattern) :
    (numbered n ps).map (fun o => o.2.rows g b) = ps.map fun p => p.rows g b := by
  have hmap := congrArg (List.map fun p => p.rows g b) (map_snd_numbered n ps)
  rw [List.map_map] at hmap
  exact hmap

/-- The optional patterns of a branch are worked through right after their junction was opened. -/
theorem yields_openJunction {g : Graph} {e : Execution} {branch : Nat} {b : Branch}
    {ps : List Pattern} {trunk : Bindings} (hfuel : e.query.maxFuel = none) (hr : e.Rooted)
    (hb : e.branches[branch]? = some b) (hpos : 0 < b.outstanding) (hne : ps ≠ [])
    (hruns : ∀ o ∈ ps, Runs g o (List.range o.size) trunk (o.rows g trunk)) :
    Yields g e ((e.openJunction branch ps trunk).finishTask branch).1 branch b e.stack
      (crossings Bindings.merge trunk (ps.map fun o => o.rows g trunk)) := by
  have hpending := pending_openJunction (g := g) hb hr hpos ps trunk
  have hnumbered : numbered e.branches.length ps ≠ [] := by
    intro hnil
    have hps := map_snd_numbered e.branches.length ps
    rw [hnil] at hps
    exact hne hps.symm
  have hruns' : ∀ o ∈ numbered e.branches.length ps,
      Runs g o.2 (List.range o.2.size) trunk (o.2.rows g trunk) := by
    intro o ho
    obtain ⟨k, -, hk⟩ := mem_numbered.mp ho
    exact hruns o.2 (List.mem_of_getElem? hk)
  have hyields := yields_optionals hfuel hnumbered hpending hruns'
  rw [List.nil_append, map_rows_numbered] at hyields
  exact hyields

/-- All statements are matched: the bindings are a solution unless there are optional patterns. -/
theorem runs_matched {g : Graph} {p : Pattern} {remaining : List Nat} {b₀ : Bindings}
    (hplan : p.prepared g remaining b₀ = [])
    (hruns : ∀ o ∈ p.optionals, Runs g o (List.range o.size) b₀ (o.rows g b₀)) :
    Runs g p remaining b₀ (p.eval g remaining b₀) := by
  intro e branch b rest hfuel hr hstack hb hp hpos
  have hr' : (e.started rest).Rooted := hr
  have hb' : (e.started rest).branches[branch]? = some b := hb
  have hframe := frame_started e rest branch
  have hworks := Works.one (g := g) hfuel hstack
  rw [process_of_nil (t := ⟨branch, remaining, b₀⟩) hb' hp hplan] at hworks
  rw [Pattern.eval_of_nil g hplan]
  by_cases hopt : p.optionals = []
  · simp only [matched_of_nil hopt, deliver_rows hb'] at hworks
    rw [hopt, List.map_nil, crossings]
    exact ⟨_, (deliver_leaves hb' hr' b₀).after hframe, hworks⟩
  · -- the junction counts as a task of the branch, so opening it does not finish the branch
    obtain ⟨-, hnone⟩ := finishTask_leaves (openJunction_parent hb' p.optionals b₀)
      (hr'.openJunction hb' p.optionals b₀) (Nat.succ_le_succ hpos)
    simp only [matched_of_ne_nil hopt, hnone, List.append_nil] at hworks
    have hfuel' : (e.started rest).query.maxFuel = none := hfuel
    exact (yields_openJunction hfuel' hr' hb' hpos hopt hruns).after hframe hworks

/-- One statement is matched: what follows each of its matches is worked through in turn. -/
theorem runs_next {g : Graph} {p : Pattern} {remaining : List Nat} {b₀ : Bindings}
    {chosen : Prepared} {others : List Prepared}
    (hplan : p.prepared g remaining b₀ = chosen :: others)
    (hruns : ∀ b, Runs g p (others.map Prepared.index) b (p.eval g (others.map Prepared.index) b)) :
    Runs g p remaining b₀ (p.eval g remaining b₀) := by
  intro e branch b rest hfuel hr hstack hb hp hpos
  have hr' : (e.started rest).Rooted := hr
  have hb' : (e.started rest).branches[branch]? = some b := hb
  have hprocess := process_of_cons (t := ⟨branch, remaining, b₀⟩) hb' hp hplan
  have hworks := Works.one (g := g) hfuel hstack
  rw [hprocess] at hworks
  rw [Pattern.eval_of_cons g hplan]
  cases hexts : p.extensions g chosen b₀ with
  | nil =>
    rw [hexts] at hworks
    refine ⟨e.started rest, ⟨frame_started e rest branch, rfl, ?_, hr'⟩, ?_⟩
    · rw [List.flatMap_nil, b.take_nil]
      exact hb'
    · rw [List.flatMap_nil, b.handsOut_nil, List.nil_append]
      exact hworks
  | cons x xs =>
    rw [hexts] at hworks
    -- the matches are put on the account before the task itself is taken off it
    have hspawned := spawnAll_leaves hb' hr'
      ((x :: xs).map fun y => ⟨branch, others.map Prepared.index, y⟩) (by simp)
    obtain ⟨hwaits, hnone⟩ := finishTask_leaves hspawned.branch hspawned.rooted
      (by simp only [List.length_map, List.length_cons]; omega)
    rw [hnone] at hworks
    have hframe := (frame_started e rest branch).trans (hspawned.frame.trans hwaits.frame)
    have hyields := yields_siblings (fun y _ => hruns y) (by rw [hframe.query]; exact hfuel)
      hwaits.rooted (by rw [hwaits.stack, hspawned.stack])
      (by rw [hwaits.branch, List.length_map]; rfl) hp hpos
    exact hyields.after hframe hworks

theorem runs_eval (g : Graph) (p : Pattern) (remaining : List Nat) (b : Bindings) :
    Runs g p remaining b (p.eval g remaining b) := by
  induction p, remaining, b using Pattern.eval.induct g with
  | case1 p remaining b hplan ih => exact runs_matched hplan fun o ho => ih ⟨o, ho⟩
  | case2 p remaining b chosen others hplan ih => exact runs_next hplan ih

/-! ## Runs -/

section
variable {φ : Type} [Fetcher φ] {levels rounds rounds' : Nat}

theorem loop_mono {m : Machine φ} {r : Machine φ × Except QueryError RunStatus}
    (h : loop levels rounds m = some r) (hle : rounds ≤ rounds') : loop levels rounds' m = some r := by
  induction rounds generalizing rounds' m with
  | zero => cases h
  | succ rounds ih =>
    obtain ⟨more, rfl⟩ : ∃ more, rounds' = more + 1 := ⟨rounds' - 1, by omega⟩
    rw [loop] at h ⊢
    cases hstack : m.execution.stack with
    | nil => simpa only [hstack] using h
    | cons t rest =>
      simp only [hstack] at h ⊢
      split at h
      case h_1 => exact h
      case h_2 =>
        obtain ⟨m', hadvance, hloop⟩ := Option.bind_eq_some_iff.mp h
        rw [hadvance]
        exact ih hloop (by omega)

/-- A run that stops stops in the same way when it is given more rounds. -/
theorem run_mono {e : Execution} {f : φ} {s : Store} {r : Machine φ × Except QueryError RunStatus}
    (h : run levels rounds e f s = some r) (hle : rounds ≤ rounds') :
    run levels rounds' e f s = some r := by
  unfold run at h ⊢
  split at h
  case isTrue haborted => rw [if_pos haborted, h]
  case isFalse haborted =>
    rw [if_neg haborted]
    split at h
    case isTrue hcomplete => rw [if_pos hcomplete, h]
    case isFalse hcomplete =>
      rw [if_neg hcomplete]
      exact loop_mono h hle

end

/-! ## Runs without a fetcher -/

theorem checkDocuments_noDocuments (levels : Nat) (f : NoDocuments) (ts : List Term) (s : Store) :
    checkDocuments levels f ts s = some ((.ready, f), s) := by
  induction ts with
  | nil => rfl
  | cons t ts ih => exact ih

abbrev Plain := Machine NoDocuments

theorem overLimit_of_unlimited {e : Execution} (h : e.query.maxFuel = none) :
    e.overLimit = none := by
  simp [overLimit, h]

theorem loop_cons {levels rounds : Nat} {m : Plain} {t : Task} {rest : List Task}
    (hstack : m.execution.stack = t :: rest)
    (hlimit : (m.execution.started rest).overLimit = none) :
    loop levels (rounds + 1) m = loop levels rounds { m with
      execution := (process m.store.graph (m.execution.started rest) t).1
      deliveries := m.deliveries ++ (process m.store.graph (m.execution.started rest) t).2 } := by
  rw [started] at hlimit
  rw [loop, hstack]
  simp only [hlimit, advance, checkDocuments_noDocuments, Option.map_some, dispatch]
  rfl

theorem loop_works (levels : Nat) {g : Graph} {e e' : Execution} {ds : List Delivery}
    (hworks : Works g e ds e') : ∃ k, ∀ rounds (m : Plain), m.execution = e → m.store.graph = g →
      loop levels (rounds + k) m =
        loop levels rounds { m with execution := e', deliveries := m.deliveries ++ ds } := by
  induction hworks with
  | refl e =>
    refine ⟨0, fun rounds m hm _ => ?_⟩
    subst hm
    rw [List.append_nil, Nat.add_zero]
  | step hfuel hstack _ ih =>
    obtain ⟨k, hk⟩ := ih
    refine ⟨k + 1, fun rounds m hm hg => ?_⟩
    subst hm hg
    rw [← Nat.add_assoc, loop_cons hstack (overLimit_of_unlimited hfuel), ← List.append_assoc]
    exact hk rounds _ rfl rfl

theorem rooted_new (q : Query) : (new q).Rooted := by
  intro i b j hi hown
  have hbranches : (new q).branches = [{ pattern := q.pattern, owner := .root, outstanding := 1 }] := rfl
  rw [hbranches, List.getElem?_singleton] at hi
  split at hi
  · obtain rfl := Option.some.inj hi
    cases hown
  · cases hi

theorem works_new (g : Graph) (q : Query) (hfuel : q.maxFuel = none) :
    ∃ e, e.stack = [] ∧ e.complete = true ∧
      Works g (.new q) ((q.pattern.rows g q.initial).map Delivery.row ++ [.done]) e := by
  have hb : (new q).branches[0]? =
      some { pattern := q.pattern, owner := .root, outstanding := 1 } := rfl
  obtain ⟨e, hleaves, hworks⟩ := runs_eval g q.pattern (List.range q.pattern.size) q.initial
    (e := new q) hfuel (rooted_new q) rfl hb rfl Nat.one_pos
  have hfinish : e.finishTask 0 = ({ e.release 0 with complete := true }, [.done]) :=
    finish_of_root (release_branch hleaves.branch) rfl rfl
  rw [hfinish, Branch.handsOut, if_pos rfl] at hworks
  exact ⟨{ e.release 0 with complete := true }, hleaves.stack, rfl, hworks⟩

theorem resumeSettled_new (f : NoDocuments) (q : Query) : (new q).resumeSettled f = new q := by
  have hparked : (new q).parked.values = [] := rfl
  rw [resumeSettled, hparked]
  rfl

theorem run_new (levels rounds : Nat) (q : Query) (f : NoDocuments) (s : Store) :
    run levels rounds (.new q) f s = loop levels rounds ⟨.new q, f, s, []⟩ := by
  rw [run, resumeSettled_new]
  rfl

theorem loop_complete (levels rounds : Nat) {m : Plain} (hstack : m.execution.stack = [])
    (hcomplete : m.execution.complete = true) :
    loop levels (rounds + 1) m = some (m, .ok .complete) := by
  rw [loop, hstack]
  simp only [hcomplete, if_true]

theorem run_of_works {q : Query} {s : Store} {e : Execution} {ds : List Delivery} (levels : Nat)
    (hworks : Works s.graph (.new q) ds e) (hstack : e.stack = []) (hcomplete : e.complete = true) :
    ∃ n, ∀ rounds ≥ n,
      run levels rounds (.new q) NoDocuments.mk s = some (⟨e, .mk, s, ds⟩, .ok .complete) := by
  obtain ⟨k, hk⟩ := loop_works levels hworks
  refine ⟨k + 1, fun rounds hrounds => ?_⟩
  obtain ⟨r, rfl⟩ : ∃ r, rounds = (r + 1) + k := ⟨rounds - (k + 1), by omega⟩
  rw [run_new, hk (r + 1) ⟨.new q, .mk, s, []⟩ rfl rfl]
  exact loop_complete levels r hstack hcomplete

theorem filterMap_row? (rows : List Bindings) :
    (rows.map Delivery.row ++ [Delivery.done]).filterMap Delivery.row? = rows := by
  simp [Function.comp_def, Delivery.row?]

/-- Without a limit on the work and without documents a query is complete after finitely many
rounds. What it has handed out are the solutions that evaluation by recursion gives, in that order,
and then that there are no more. -/
theorem run_delivers_eval (q : Query) (hfuel : q.maxFuel = none) (levels : Nat) (s : Store) :
    ∃ n, ∀ rounds ≥ n, ∃ m : Plain,
      run levels rounds (.new q) NoDocuments.mk s = some (m, .ok .complete) ∧ m.store = s ∧
      m.deliveries = (q.pattern.eval s.graph (List.range q.pattern.size) q.initial).map Delivery.row ++
        [.done] := by
  obtain ⟨e, hstack, hcomplete, hworks⟩ := works_new s.graph q hfuel
  obtain ⟨n, hn⟩ := run_of_works levels hworks hstack hcomplete
  exact ⟨n, fun rounds hrounds => ⟨_, hn rounds hrounds, rfl, rfl⟩⟩

theorem run_delivers_eval_optional :
    let data : List Statement := [⟨.named "a", .named "p", .named "b", .defaultGraph⟩,
      ⟨.named "a", .named "p", .named "c", .defaultGraph⟩, ⟨.named "b", .named "q", .named "d", .defaultGraph⟩,
      ⟨.named "d", .named "r", .named "e", .defaultGraph⟩, ⟨.named "d", .named "r", .named "f", .defaultGraph⟩]
    let innermost := Pattern.empty.add (.var "z") (.named "r") (.var "u")
    let inner := (Pattern.empty.add (.var "y") (.named "q") (.var "z")).addOptional innermost
    let q : Query := { pattern := (Pattern.empty.add (.var "x") (.named "p") (.var "y")).addOptional inner }
    q.maxFuel = none ∧ ∃ s, (StoreM.addAll 5 data .bare).map Prod.snd = some s ∧
      (q.pattern.eval s.graph (List.range q.pattern.size) q.initial).map Bindings.names =
        [["u", "x", "y", "z"], ["u", "x", "y", "z"], ["x", "y"]] ∧
      ∃ n, ∀ rounds ≥ n, ∃ m : Plain,
        run 0 rounds (.new q) NoDocuments.mk s = some (m, .ok .complete) ∧ m.store = s ∧
        m.deliveries = (q.pattern.eval s.graph (List.range q.pattern.size) q.initial).map
          Delivery.row ++ [.done] := by
  intro data innermost inner q
  have hruns : (((StoreM.addAll 5 data .bare).map Prod.snd).any fun s =>
      (run 0 20 (.new q) NoDocuments.mk s).any fun r =>
        (r.1.deliveries.filterMap Delivery.row?).map Bindings.names ==
          [["u", "x", "y", "z"], ["u", "x", "y", "z"], ["x", "y"]]) = true := by decide +kernel
  obtain ⟨s, hs, hany⟩ := (Option.any_eq_true ..).mp hruns
  obtain ⟨r, hr, hnames⟩ := (Option.any_eq_true ..).mp hany
  obtain ⟨n, hn⟩ := run_delivers_eval q rfl 0 s
  obtain ⟨m, hm, -, hdeliveries⟩ := hn (max n 20) (Nat.le_max_left n 20)
  have hsame : r = (m, .ok .complete) :=
    Option.some.inj ((run_mono hr (Nat.le_max_right n 20)).symm.trans hm)
  rw [hsame, hdeliveries, filterMap_row?] at hnames
  exact ⟨rfl, s, hs, beq_iff_eq.mp hnames, n, hn⟩

end Execution

theorem Query.solve_eq_rows (q : Query) (hfuel : q.maxFuel = none) (s : Store) :
    ∃ n, ∀ rounds ≥ n, q.solve rounds s = some (.ok (q.pattern.rows s.graph q.initial)) := by
  obtain ⟨e, hstack, hcomplete, hworks⟩ := Execution.works_new s.graph q hfuel
  obtain ⟨n, hn⟩ := Execution.run_of_works 0 hworks hstack hcomplete
  refine ⟨n, fun rounds hrounds => ?_⟩
  rw [solve, hn rounds hrounds, Option.map_some]
  simp only [Except.map, Execution.filterMap_row?]

def Query.Returns (q : Query) (s : Store) (rows : List Bindings) : Prop :=
  ∃ n, ∀ rounds ≥ n, q.solve rounds s = some (.ok rows)

theorem Query.returns_rows (q : Query) (hfuel : q.maxFuel = none) (s : Store) :
    q.Returns s (q.pattern.rows s.graph q.initial) :=
  q.solve_eq_rows hfuel s

end QuadGraph
