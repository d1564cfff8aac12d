import Mathlib.Logic.Relation
import QuadGraph.Proofs.Accounting
import QuadGraph.Proofs.WorkQueue

/-!
# Calls on an execution

An execution is run, with whatever fetcher and on whatever store, and told that documents are ready,
in any order. `Called` is such a history of calls with all that was handed out. Between any two tasks
of any run the account balances (`round_midway`, `Called.accounted`), as long as no limit on the
work was met; `Called.balanced` says what follows for the answers of the calls.
-/

namespace QuadGraph

namespace Execution

/-! ## Working on a task -/

theorem spawnAll_eq (e : Execution) (ts : List Task) :
    ∃ branches, e.spawnAll ts = { e with branches, stack := ts ++ e.stack } := by
  induction ts with
  | nil => exact ⟨e.branches, rfl⟩
  | cons t ts ih =>
    obtain ⟨branches, hspawn⟩ := ih
    rw [spawnAll_cons, hspawn]
    exact ⟨_, rfl⟩

theorem charged_spawnAll (e : Execution) (ts : List Task) (owed : List Nat) :
    ((e.spawnAll ts).charged owed).Perm (ts.map Task.branch ++ e.charged owed) := by
  obtain ⟨branches, hspawn⟩ := spawnAll_eq e ts
  rw [hspawn]
  simp only [charged, tasks, List.map_append, List.append_assoc]
  exact List.perm_append_comm_assoc ..

theorem count_map_branch (ts : List Task) (i : Nat) :
    (ts.map Task.branch).count i = ts.countP fun t => t.branch == i := by
  rw [List.count, List.countP_map]
  rfl

theorem length_spawnAll (e : Execution) (ts : List Task) :
    (e.spawnAll ts).branches.length = e.branches.length := by
  simpa [patterns] using congrArg List.length (patterns_spawnAll e ts)

theorem Treelike.spawnAll {e : Execution} (h : e.Treelike) (ts : List Task) :
    (e.spawnAll ts).Treelike := by
  refine h.mono (fun i => ?_) fun j => by rw [spawnAll_junctions]
  rw [spawnAll_branches, Option.map_map]
  rfl

theorem junctionsOf_spawnAll (e : Execution) (ts : List Task) (i : Nat) :
    (e.spawnAll ts).junctionsOf i = e.junctionsOf i := by
  rw [junctionsOf, spawnAll_junctions]
  rfl

theorem Accounted.spawnAll {e : Execution} {owed : List Nat} (h : e.Accounted owed)
    (ts : List Task) (hts : ∀ t ∈ ts, e.unfinished t.branch = true) :
    (e.spawnAll ts).Accounted owed := by
  obtain ⟨branches, hspawn⟩ := spawnAll_eq e ts
  have hcharged := charged_spawnAll e ts owed
  have hunfinished : (e.spawnAll ts).unfinished = e.unfinished := by
    funext i
    rw [unfinished, spawnAll_branches, Option.any_map]
    by_cases hi : ∃ t ∈ ts, t.branch = i
    · obtain ⟨t, ht, rfl⟩ := hi
      obtain ⟨b, hb, hpos⟩ := unfinished_iff.mp (hts t ht)
      rw [unfinished, hb, Option.any_some, Option.any_some]
      simp only [decide_eq_decide]
      omega
    · have hnone : (ts.countP fun t => t.branch == i) = 0 := by
        refine List.countP_eq_zero.mpr fun t ht hti => hi ⟨t, ht, ?_⟩
        exact beq_iff_eq.mp hti
      rw [hnone]
      rfl
  refine ⟨h.toTreelike.spawnAll ts, fun i b' hb' => ?_, ?_, fun i hi => ?_, ?_, ?_⟩
  · rw [spawnAll_branches] at hb'
    obtain ⟨b, hb, rfl⟩ := Option.map_eq_some_iff.mp hb'
    have hout := h.outstanding i b hb
    rw [hcharged.count_eq, List.count_append, count_map_branch, junctionsOf_spawnAll]
    simp only
    omega
  · rw [hunfinished, spawnAll_junctions]
    exact h.remaining
  · rw [length_spawnAll]
    rcases List.mem_append.mp (hcharged.mem_iff.mp hi) with hi | hi
    · obtain ⟨t, ht, rfl⟩ := List.mem_map.mp hi
      obtain ⟨b, hb, -⟩ := unfinished_iff.mp (hts t ht)
      exact (List.getElem?_eq_some_iff.mp hb).1
    · exact h.charged_lt i hi
  · rw [hunfinished, hspawn]
    exact h.complete_iff
  · rw [hspawn]
    exact h.filled

/-! ### Opening a junction -/

theorem openJunction_fields (e : Execution) (parent : Nat) (ps : List Pattern) (trunk : Bindings) :
    ∃ branches, e.openJunction parent ps trunk = { e with
      branches
      junctions := e.junctions ++
        [⟨parent, trunk, List.range' e.branches.length ps.length, ps.length⟩]
      stack := ((numbered e.branches.length ps).map fun o => firstTask o.1 o.2 trunk) ++ e.stack } := by
  rw [openJunction_eq]
  obtain ⟨branches, hspawn⟩ := spawnAll_eq (({ e with
      branches := e.branches ++ ps.map (unstarted e.junctions.length)
      junctions := e.junctions ++
        [⟨parent, trunk, List.range' e.branches.length ps.length, ps.length⟩] } :
    Execution).changeBranch parent fun x => { x with outstanding := x.outstanding + 1 })
    ((numbered e.branches.length ps).map fun o => firstTask o.1 o.2 trunk)
  exact ⟨branches, hspawn⟩

section
variable {e : Execution} {parent : Nat} (ps : List Pattern) (trunk : Bindings)

theorem length_openJunction :
    (e.openJunction parent ps trunk).branches.length = e.branches.length + ps.length := by
  simpa [patterns] using congrArg List.length (patterns_openJunction e parent ps trunk)

variable {b : Branch} (hb : e.branches[parent]? = some b)
include hb

theorem openJunction_cases {i : Nat} {b' : Branch}
    (hi : (e.openJunction parent ps trunk).branches[i]? = some b') :
    (i ∈ List.range' e.branches.length ps.length ∧ b'.owner = .optional e.junctions.length ∧
      b'.outstanding = 1) ∨
    (i = parent ∧ b' = { b with outstanding := b.outstanding + 1 }) ∨
    (i ≠ parent ∧ e.branches[i]? = some b') := by
  by_cases hlt : i < e.branches.length
  · refine .inr ?_
    by_cases hip : i = parent
    · subst hip
      rw [openJunction_parent hb ps trunk] at hi
      exact .inl ⟨rfl, (Option.some.inj hi).symm⟩
    · obtain ⟨a, ha⟩ : ∃ a, e.branches[i]? = some a := ⟨_, List.getElem?_eq_getElem hlt⟩
      rw [(openJunction_frame ps trunk).branches i a hip ha] at hi
      exact .inr ⟨hip, by rw [ha, hi]⟩
  · refine .inl ?_
    have hlen := (List.getElem?_eq_some_iff.mp hi).1
    rw [length_openJunction] at hlen
    have hmem : i ∈ List.range' e.branches.length ps.length := List.mem_range'_1.mpr (by omega)
    rw [← map_fst_numbered] at hmem
    obtain ⟨o, ho, rfl⟩ := List.mem_map.mp hmem
    rw [openJunction_optional hb ps trunk ho] at hi
    obtain rfl := Option.some.inj hi
    exact ⟨by rw [← map_fst_numbered]; exact List.mem_map_of_mem ho, rfl, rfl⟩

theorem Treelike.openJunction (h : e.Treelike) : (e.openJunction parent ps trunk).Treelike := by
  have hlt := (List.getElem?_eq_some_iff.mp hb).1
  have hback : ∀ {i : Nat} {a : Branch}, e.branches[i]? = some a → ∃ a' : Branch,
      (e.openJunction parent ps trunk).branches[i]? = some a' ∧ a'.owner = a.owner := by
    intro i a ha
    by_cases hip : i = parent
    · subst hip
      rw [hb] at ha
      obtain rfl := Option.some.inj ha
      exact ⟨_, openJunction_parent hb ps trunk, rfl⟩
    · exact ⟨a, (openJunction_frame ps trunk).branches i a hip ha, rfl⟩
  have hjunctions : ∀ {j : Nat} {jn : Junction},
      (e.openJunction parent ps trunk).junctions[j]? = some jn → e.junctions[j]? = some jn ∨
        (j = e.junctions.length ∧ jn.branches = List.range' e.branches.length ps.length) := by
    intro j jn hj
    rw [openJunction_junctions, List.getElem?_append] at hj
    split at hj
    · exact .inl hj
    · obtain ⟨hlen, rfl⟩ := List.getElem?_eq_some_iff.mp hj
      rw [List.length_singleton] at hlen
      refine .inr ⟨by omega, ?_⟩
      rw [List.getElem_singleton]
  refine ⟨h.rooted.openJunction hb ps trunk, fun i b' hi => ?_, fun j jn hj i => ?_, fun j jn hj => ?_⟩
  · rcases openJunction_cases ps trunk hb hi with ⟨hmem, hown, -⟩ | ⟨rfl, rfl⟩ | ⟨-, ha⟩
    · have hle := (List.mem_range'_1.mp hmem).1
      rw [hown]
      exact ⟨fun h => (nomatch h), fun h => by omega⟩
    · exact h.root i b hb
    · exact h.root i b' ha
  · have hnew : ∀ {i : Nat} {a : Branch}, e.branches[i]? = some a →
        a.owner ≠ .optional e.junctions.length := by
      intro i a ha hown
      obtain ⟨jn, hjn, -⟩ := h.rooted i a _ ha hown
      rw [List.getElem?_eq_none (Nat.le_refl _)] at hjn
      cases hjn
    rcases hjunctions hj with hold | ⟨rfl, hbranches⟩
    · rw [h.members j jn hold]
      constructor
      · rintro ⟨a, ha, hown⟩
        obtain ⟨a', ha', hown'⟩ := hback ha
        exact ⟨a', ha', hown'.trans hown⟩
      · rintro ⟨a', ha', hown'⟩
        rcases openJunction_cases ps trunk hb ha' with ⟨-, hown, -⟩ | ⟨rfl, rfl⟩ | ⟨-, ha⟩
        · rw [hown] at hown'
          have hjlt := (List.getElem?_eq_some_iff.mp hold).1
          have heq := Owner.optional.inj hown'
          omega
        · exact ⟨b, hb, hown'⟩
        · exact ⟨a', ha, hown'⟩
    · rw [hbranches]
      constructor
      · intro hmem
        rw [← map_fst_numbered] at hmem
        obtain ⟨o, ho, rfl⟩ := List.mem_map.mp hmem
        exact ⟨_, openJunction_optional hb ps trunk ho, rfl⟩
      · rintro ⟨a', ha', hown'⟩
        rcases openJunction_cases ps trunk hb ha' with ⟨hmem, -⟩ | ⟨rfl, rfl⟩ | ⟨-, ha⟩
        · exact hmem
        · exact (hnew hb hown').elim
        · exact absurd hown' (hnew ha)
  · rcases hjunctions hj with hold | ⟨-, hbranches⟩
    · exact h.distinct j jn hold
    · rw [hbranches]
      exact List.nodup_range'

end

section
variable {e : Execution} {parent : Nat} {owed : List Nat} (h : e.Accounted (parent :: owed))
  (ps : List Pattern) (trunk : Bindings)

theorem charged_openJunction (e : Execution) (parent : Nat) (ps : List Pattern) (trunk : Bindings)
    (owed : List Nat) : ((e.openJunction parent ps trunk).charged owed).Perm
      (List.range' e.branches.length ps.length ++ e.charged owed) := by
  obtain ⟨branches, hopen⟩ := openJunction_fields e parent ps trunk
  have hfirst : ((numbered e.branches.length ps).map fun o => firstTask o.1 o.2 trunk).map
      Task.branch = List.range' e.branches.length ps.length := by
    rw [List.map_map, ← map_fst_numbered]
    rfl
  rw [hopen]
  simp only [charged, tasks, List.map_append, List.append_assoc, hfirst]
  exact List.perm_append_comm_assoc ..

theorem junctionsOf_openJunction (e : Execution) (parent : Nat) {ps : List Pattern} (hps : ps ≠ [])
    (trunk : Bindings) (i : Nat) : (e.openJunction parent ps trunk).junctionsOf i =
      e.junctionsOf i + if parent = i then 1 else 0 := by
  have hpos : 0 < ps.length := List.length_pos_iff.mpr hps
  rw [junctionsOf, openJunction_junctions, List.countP_append, List.countP_singleton]
  by_cases hi : parent = i <;> simp [hi, hpos, junctionsOf]

include h

theorem Accounted.junctionsOf_new {i : Nat} (hi : e.branches.length ≤ i) : e.junctionsOf i = 0 := by
  refine Nat.eq_zero_of_not_pos fun hpos => ?_
  obtain ⟨k, hik, hk⟩ := h.exists_unfinished hpos
  obtain ⟨b, hb, -⟩ := unfinished_iff.mp hk
  have hlt := (List.getElem?_eq_some_iff.mp hb).1
  omega

theorem Accounted.unfinished_openJunction {i : Nat} (hi : i < e.branches.length) :
    (e.openJunction parent ps trunk).unfinished i = e.unfinished i := by
  have hparent : e.unfinished parent = true := h.unfinished_of_charged (by simp [charged])
  obtain ⟨b, hb, hpos⟩ := unfinished_iff.mp hparent
  by_cases hip : i = parent
  · subst hip
    rw [hparent]
    exact unfinished_iff.mpr ⟨_, openJunction_parent hb ps trunk, Nat.succ_pos _⟩
  · obtain ⟨a, ha⟩ : ∃ a, e.branches[i]? = some a := ⟨_, List.getElem?_eq_getElem hi⟩
    rw [unfinished, unfinished, (openJunction_frame ps trunk).branches i a hip ha, ha]

variable {ps}

theorem Accounted.openJunction (hps : ps ≠ []) :
    (e.openJunction parent ps trunk).Accounted (parent :: owed) := by
  have hparent : e.unfinished parent = true := h.unfinished_of_charged (by simp [charged])
  obtain ⟨b, hb, hpos⟩ := unfinished_iff.mp hparent
  have hlt := (List.getElem?_eq_some_iff.mp hb).1
  have hcharged := charged_openJunction e parent ps trunk (parent :: owed)
  obtain ⟨branches, hopen⟩ := openJunction_fields e parent ps trunk
  have hold : ∀ {i}, i < e.branches.length →
      (List.range' e.branches.length ps.length).count i = 0 := by
    intro i hi
    refine List.count_eq_zero.mpr fun hmem => ?_
    have hle := (List.mem_range'_1.mp hmem).1
    omega
  refine ⟨h.toTreelike.openJunction ps trunk hb, fun i b' hi => ?_, fun j jn hj => ?_,
    fun i hi => ?_, ?_, ?_⟩
  · rw [hcharged.count_eq, List.count_append, junctionsOf_openJunction e parent hps]
    rcases openJunction_cases ps trunk hb hi with ⟨hmem, -, hone⟩ | ⟨rfl, rfl⟩ | ⟨hne, ha⟩
    · have hle := (List.mem_range'_1.mp hmem).1
      have hnot : (e.charged (parent :: owed)).count i = 0 := by
        refine List.count_eq_zero.mpr fun hcharged => ?_
        have hsmall := h.charged_lt i hcharged
        omega
      rw [hone, hnot, h.junctionsOf_new hle, if_neg (by omega),
        List.Nodup.count List.nodup_range', if_pos hmem]
    · have hout := h.outstanding i b hb
      rw [hold hlt, if_pos rfl]
      simp only
      omega
    · have hout := h.outstanding i b' ha
      rw [hold (List.getElem?_eq_some_iff.mp ha).1, if_neg (Ne.symm hne)]
      omega
  · rw [openJunction_junctions, List.getElem?_append] at hj
    split at hj
    · rw [h.remaining j jn hj]
      refine List.countP_congr fun k hk => ?_
      obtain ⟨a, ha, -⟩ := (h.members j jn hj k).mp hk
      rw [h.unfinished_openJunction ps trunk (List.getElem?_eq_some_iff.mp ha).1]
    · obtain ⟨-, rfl⟩ := List.getElem?_eq_some_iff.mp hj
      rw [List.getElem_singleton]
      have hall : (List.range' e.branches.length ps.length).countP
          (e.openJunction parent ps trunk).unfinished =
          (List.range' e.branches.length ps.length).length := by
        refine List.countP_eq_length.mpr fun k hk => ?_
        rw [← map_fst_numbered] at hk
        obtain ⟨o, ho, rfl⟩ := List.mem_map.mp hk
        exact unfinished_iff.mpr ⟨_, openJunction_optional hb ps trunk ho, Nat.one_pos⟩
      rw [hall, List.length_range']
  · rw [length_openJunction]
    rcases List.mem_append.mp (hcharged.mem_iff.mp hi) with hi | hi
    · exact (List.mem_range'_1.mp hi).2
    · exact Nat.lt_add_right _ (h.charged_lt i hi)
  · rw [h.unfinished_openJunction ps trunk (by omega), hopen]
    exact h.complete_iff
  · rw [hopen]
    exact h.filled

end

/-! ### One task -/

theorem deliver_fields (e : Execution) (i : Nat) (b : Bindings) : ∃ branches delivered,
    (e.deliver i b).1 = { e with branches, delivered } := by
  unfold deliver
  split
  · exact ⟨e.branches, e.delivered + 1, rfl⟩
  · exact ⟨_, e.delivered, rfl⟩
  · exact ⟨e.branches, e.delivered, rfl⟩

theorem deliverAll_fields (i : Nat) (rows : List Bindings) (e : Execution) : ∃ branches delivered,
    (deliverAll i rows e).1 = { e with branches, delivered } := by
  induction rows generalizing e with
  | nil => exact ⟨e.branches, e.delivered, rfl⟩
  | cons r rows ih =>
    obtain ⟨branches, delivered, hfirst⟩ := deliver_fields e i r
    obtain ⟨branches', delivered', hrest⟩ := ih (e.deliver i r).1
    rw [hfirst] at hrest
    refine ⟨branches', delivered', ?_⟩
    rw [← hfirst] at hrest
    exact hrest.trans (by rw [hfirst])

theorem finish_fields (height i : Nat) (e : Execution) : ∃ branches junctions delivered complete,
    (finish height i e).1 = { e with branches, junctions, delivered, complete } := by
  induction height generalizing i e with
  | zero => exact ⟨e.branches, e.junctions, e.delivered, e.complete, rfl⟩
  | succ height ih =>
    cases hb : (e.release i).branches[i]? with
    | none =>
      rw [finish_of_none hb]
      exact ⟨_, _, _, _, rfl⟩
    | some b =>
      by_cases hzero : b.outstanding = 0
      · cases hown : b.owner with
        | root =>
          rw [finish_of_root hb hzero hown]
          exact ⟨_, _, _, _, rfl⟩
        | optional j =>
          cases hj : ((e.release i).releaseJunction j).junctions[j]? with
          | none =>
            rw [finish_of_missing hb hzero hown hj]
            exact ⟨_, _, _, _, rfl⟩
          | some jn =>
            by_cases hlast : jn.remaining = 0
            · rw [finish_of_junction hb hzero hown hj hlast]
              obtain ⟨branches, delivered, hpassed⟩ := deliverAll_fields jn.parent
                (combine jn.trunk (((e.release i).releaseJunction j).collected jn))
                ((e.release i).releaseJunction j)
              obtain ⟨branches', junctions, delivered', complete, hrest⟩ := ih jn.parent
                (((e.release i).releaseJunction j).passOn jn).1
              refine ⟨branches', junctions, delivered', complete, hrest.trans ?_⟩
              rw [passOn, hpassed]
              rfl
            · rw [finish_of_junction_pos hb hzero hown hj (Nat.pos_of_ne_zero hlast)]
              exact ⟨_, _, _, _, rfl⟩
      · rw [finish_of_pos hb (Nat.pos_of_ne_zero hzero)]
        exact ⟨_, _, _, _, rfl⟩

theorem process_fields (g : Graph) (e : Execution) (t : Task) :
    ∃ branches junctions stack delivered complete,
      (process g e t).1 = { e with branches, junctions, stack, delivered, complete } := by
  have hfinish : ∀ (e' : Execution) branches junctions stack delivered,
      e' = { e with branches, junctions, stack, delivered } →
      ∃ branches junctions stack delivered complete, (e'.finishTask t.branch).1 =
        { e with branches, junctions, stack, delivered, complete } := by
    rintro e' branches junctions stack delivered rfl
    obtain ⟨branches', junctions', delivered', complete, hended⟩ := finish_fields (t.branch + 1)
      t.branch { e with branches, junctions, stack, delivered }
    exact ⟨branches', junctions', stack, delivered', complete, hended⟩
  cases hb : e.branches[t.branch]? with
  | none => exact ⟨e.branches, e.junctions, e.stack, e.delivered, e.complete, by simp [process, hb]⟩
  | some b =>
    cases hplan : plan g b.pattern t with
    | nil =>
      rw [process_of_nil hb rfl hplan]
      by_cases hps : b.pattern.optionals = []
      · obtain ⟨branches, delivered, hdelivered⟩ := deliver_fields e t.branch t.bindings
        rw [matched_of_nil hps]
        exact hfinish _ branches e.junctions e.stack delivered hdelivered
      · obtain ⟨branches, hopen⟩ := openJunction_fields e t.branch
          b.pattern.optionals t.bindings
        rw [matched_of_ne_nil hps]
        exact hfinish _ branches _ _ e.delivered hopen
    | cons chosen others =>
      obtain ⟨branches, hspawn⟩ := spawnAll_eq e
        (children g b.pattern t chosen (others.map Prepared.index))
      rw [process_of_cons hb rfl hplan, ← children_eq]
      exact hfinish _ branches e.junctions _ e.delivered hspawn

/-- Working on a task, without an answer where finishing has none. -/
def process? (g : Graph) (e : Execution) (t : Task) : Option (Execution × List Delivery) := do
  let pattern ← e.branches[t.branch]?.map Branch.pattern
  match plan g pattern t with
  | [] =>
    let (e, rows) := e.matched t.branch pattern t.bindings
    let (e, others) ← finish? (t.branch + 1) t.branch e
    some (e, rows ++ others)
  | chosen :: others =>
    finish? (t.branch + 1) t.branch
      (e.spawnAll (children g pattern t chosen (others.map Prepared.index)))

theorem matched_accounted {e : Execution} {i : Nat} {owed : List Nat}
    (h : e.Accounted (i :: owed)) (p : Pattern) (b : Bindings) :
    (e.matched i p b).1.Accounted (i :: owed) ∧ (e.matched i p b).1.complete = false ∧
      Tally e.delivered (e.matched i p b).2 (e.matched i p b).1 := by
  have hopen : e.complete = false := h.complete_eq_false (i := i) (by simp [charged])
  by_cases hps : p.optionals = []
  · rw [matched_of_nil hps]
    exact ⟨h.deliver i b, (deliver_complete e i b).trans hopen, deliver_tally hopen i b⟩
  · rw [matched_of_ne_nil hps]
    obtain ⟨branches, hfields⟩ := openJunction_fields e i p.optionals b
    refine ⟨h.openJunction b hps, ?_, [], ?_, ?_⟩
    · rw [hfields]
      exact hopen
    · rw [hfields]
      simp [hopen]
    · rw [hfields]
      rfl

theorem children_branch {g : Graph} {p : Pattern} {t t' : Task} {chosen : Prepared}
    {rest : List Nat} (h : t' ∈ children g p t chosen rest) : t'.branch = t.branch := by
  rw [children_eq] at h
  obtain ⟨b, -, rfl⟩ := List.mem_map.mp h
  rfl

/-- When a task is worked on the account is kept, no counter that is nothing counts down, and what
is handed out agrees with the number of rows delivered. -/
theorem process_accounted {e : Execution} {t : Task} {owed : List Nat} (g : Graph)
    (h : e.Accounted (t.branch :: owed)) :
    (process g e t).1.Accounted owed ∧ process? g e t = some (process g e t) ∧
      Tally e.delivered (process g e t).2 (process g e t).1 := by
  have hcharged : t.branch ∈ e.charged (t.branch :: owed) := by simp [charged]
  have hunfinished := h.unfinished_of_charged hcharged
  obtain ⟨b, hb, -⟩ := unfinished_iff.mp hunfinished
  cases hplan : plan g b.pattern t with
  | nil =>
    obtain ⟨hmatched, hopen, htally⟩ := matched_accounted h b.pattern t.bindings
    obtain ⟨haccount, hchecked, htally'⟩ := finish_accounted hmatched (Nat.lt_succ_self t.branch)
    rw [process_of_nil hb rfl hplan]
    refine ⟨haccount, ?_, htally.append hopen htally'⟩
    simp only [process?, hb, Option.map_some, Option.bind_eq_bind, Option.bind_some, hplan]
    rw [hchecked]
    rfl
  | cons chosen others =>
    have hspawned := h.spawnAll (children g b.pattern t chosen (others.map Prepared.index))
      fun t' ht' => by rw [children_branch ht']; exact hunfinished
    obtain ⟨haccount, hchecked, htally⟩ := finish_accounted hspawned (Nat.lt_succ_self t.branch)
    obtain ⟨branches, hspawn⟩ := spawnAll_eq e
      (children g b.pattern t chosen (others.map Prepared.index))
    have hdelivered : (e.spawnAll (children g b.pattern t chosen
        (others.map Prepared.index))).delivered = e.delivered := by rw [hspawn]
    rw [hdelivered] at htally
    rw [process_of_cons hb rfl hplan, ← children_eq]
    refine ⟨haccount, ?_, htally⟩
    simp only [process?, hb, Option.map_some, Option.bind_eq_bind, Option.bind_some, hplan]
    exact hchecked

/-! ## Parking -/

theorem filled_park {e : Execution} (h : ∀ p ∈ e.parked.values, p.tasks ≠ []) (document : Term)
    (t : Task) : ∀ p ∈ (e.park document t).parked.values, p.tasks ≠ [] := by
  intro p hp
  obtain ⟨k, hk⟩ := mem_values_iff.mp hp
  rcases parked_of_park hk with hk | ⟨-, rfl | ⟨v, -, rfl⟩⟩
  · exact h p (mem_values_iff.mpr ⟨k, hk⟩)
  · simp
  · simp

theorem Accounted.park {e : Execution} {t : Task} {owed : List Nat}
    (h : e.Accounted (t.branch :: owed)) (document : Term) : (e.park document t).Accounted owed := by
  refine h.rearrange rfl rfl rfl (filled_park h.filled document t) ?_
  have htasks := ((tasks_park e document t).map Task.branch).append_left owed
  exact htasks.trans List.perm_middle

theorem Accounted.push {e : Execution} {t : Task} {owed : List Nat}
    (h : e.Accounted (t.branch :: owed)) :
    ({ e with stack := t :: e.stack } : Execution).Accounted owed :=
  h.rearrange rfl rfl rfl h.filled List.perm_middle

theorem documentReady_fields (e : Execution) (document : Term) : ∃ stack parked,
    (e.documentReady document).2 = { e with stack, parked } := by
  rw [documentReady]
  split
  · exact ⟨e.stack, e.parked, rfl⟩
  · exact ⟨_, _, rfl⟩

theorem Accounted.documentReady {e : Execution} (h : e.Accounted []) (document : Term) :
    (e.documentReady document).2.Accounted [] := by
  obtain ⟨stack, parked, hfields⟩ := documentReady_fields e document
  have htasks := (tasks_documentReady e document).map Task.branch
  refine h.rearrange ?_ ?_ ?_ (fun w hw => ?_) htasks
  · rw [hfields]
  · rw [hfields]
  · rw [hfields]
  · obtain ⟨k, hk⟩ := mem_values_iff.mp hw
    exact h.filled w (mem_values_iff.mpr ⟨k, (parked_of_documentReady hk).1⟩)

/-- What settling any document keeps is kept when documents are found settled. -/
theorem resumeSettled_keeps {φ : Type} [Fetcher φ] {P : Execution → Prop}
    (hready : ∀ e document, P e → P (e.documentReady document).2) (f : φ) {e : Execution} (h : P e) :
    P (e.resumeSettled f) := by
  rw [resumeSettled]
  generalize e.parked.values.filter _ = ps
  induction ps generalizing e with
  | nil => exact h
  | cons p ps ih => exact ih (hready e p.document h)

theorem resumeSettled_fields {φ : Type} [Fetcher φ] (f : φ) (e : Execution) : ∃ stack parked,
    e.resumeSettled f = { e with stack, parked } := by
  refine resumeSettled_keeps (P := fun e' => ∃ stack parked, e' = { e with stack, parked })
    (fun e' document h => ?_) f ⟨e.stack, e.parked, rfl⟩
  obtain ⟨stack, parked, rfl⟩ := h
  exact documentReady_fields { e with stack, parked } document

theorem Accounted.resumeSettled {φ : Type} [Fetcher φ] {e : Execution} (h : e.Accounted []) (f : φ) :
    (e.resumeSettled f).Accounted [] :=
  resumeSettled_keeps (P := fun e => e.Accounted []) (fun _ document h => h.documentReady document) f h

/-! ## Runs -/

section
variable {φ : Type} [Fetcher φ]

/-- One round of a run: a task is taken from the stack, and worked on, looked at again or parked. -/
inductive Round (levels : Nat) : Machine φ → Machine φ → Prop
  | take {m m' : Machine φ} {t : Task} {rest : List Task} (hstack : m.execution.stack = t :: rest)
      (hlimit : (m.execution.started rest).overLimit = none)
      (hadvance : advance levels { m with execution := m.execution.started rest } t = some m') :
      Round levels m m'

inductive Stops : Machine φ → Machine φ → Except QueryError RunStatus → Prop
  | idle {m : Machine φ} (hstack : m.execution.stack = []) : Stops m m
      (.ok (if m.execution.complete then .complete else .waiting m.execution.waitingOn))
  | overLimit {m : Machine φ} {t : Task} {rest : List Task} {error : QueryError}
      (hstack : m.execution.stack = t :: rest)
      (hlimit : (m.execution.started rest).overLimit = some error) :
      Stops m { m with execution := { m.execution.started rest with aborted := true } } (.error error)

theorem loop_rounds {levels rounds : Nat} {m m' : Machine φ} {outcome : Except QueryError RunStatus}
    (h : loop levels rounds m = some (m', outcome)) :
    ∃ m₁, Relation.ReflTransGen (Round levels) m m₁ ∧ Stops m₁ m' outcome := by
  induction rounds generalizing m with
  | zero => cases h
  | succ rounds ih =>
    rw [loop] at h
    cases hstack : m.execution.stack with
    | nil =>
      rw [hstack] at h
      obtain ⟨rfl, rfl⟩ := Prod.mk.inj (Option.some.inj h)
      exact ⟨m, .refl, .idle hstack⟩
    | cons t rest =>
      simp only [hstack] at h
      split at h
      case h_1 error hlimit =>
        obtain ⟨rfl, rfl⟩ := Prod.mk.inj (Option.some.inj h)
        exact ⟨m, .refl, .overLimit hstack hlimit⟩
      case h_2 hlimit =>
        obtain ⟨m₂, hadvance, hloop⟩ := Option.bind_eq_some_iff.mp h
        obtain ⟨m₁, hrounds, hstops⟩ := ih hloop
        exact ⟨m₁, .head (.take hstack hlimit hadvance) hrounds, hstops⟩

structure Midway (n : Nat) (m : Machine φ) : Prop where
  accounted : m.execution.Accounted []
  aborted : m.execution.aborted = false
  tally : Tally n m.deliveries m.execution

theorem Accounted.started {e : Execution} (h : e.Accounted []) {t : Task} {rest : List Task}
    (hstack : e.stack = t :: rest) : (e.started rest).Accounted [t.branch] := by
  refine h.rearrange rfl rfl rfl h.filled ?_
  simp only [charged, tasks, hstack]
  exact .refl _

theorem Accounted.complete_of_stack {e : Execution} {owed : List Nat} (h : e.Accounted owed)
    {t : Task} {rest : List Task} (hstack : e.stack = t :: rest) : e.complete = false :=
  h.complete_eq_false (i := t.branch) (by simp [charged, tasks, hstack])

theorem round_midway {levels n : Nat} {m m' : Machine φ} (h : Midway n m)
    (hround : Round levels m m') : Midway n m' := by
  obtain ⟨hstack, hlimit, hadvance⟩ := hround
  rename_i t rest
  have hstarted := h.accounted.started hstack
  have hopen := h.accounted.complete_of_stack hstack
  rw [advance, Option.map_eq_some_iff] at hadvance
  obtain ⟨⟨⟨readiness, fetcher⟩, store⟩, -, rfl⟩ := hadvance
  cases readiness with
  | ready =>
    obtain ⟨haccount, -, htally⟩ := process_accounted store.graph hstarted
    obtain ⟨_, _, _, _, _, hfields⟩ := process_fields store.graph (m.execution.started rest) t
    refine ⟨haccount, ?_, h.tally.append hopen htally⟩
    change (process store.graph (m.execution.started rest) t).1.aborted = false
    rw [hfields]
    exact h.aborted
  | retry => exact ⟨hstarted.push, h.aborted, h.tally⟩
  | suspend document => exact ⟨hstarted.park document, h.aborted, h.tally⟩

theorem rounds_midway {levels n : Nat} {m m' : Machine φ} (h : Midway n m)
    (hrounds : Relation.ReflTransGen (Round levels) m m') : Midway n m' := by
  induction hrounds with
  | refl => exact h
  | tail _ hround ih => exact round_midway ih hround

theorem run_cases {levels rounds : Nat} {e : Execution} {f : φ} {s : Store} {m : Machine φ}
    {outcome : Except QueryError RunStatus} (h : run levels rounds e f s = some (m, outcome)) :
    (e.aborted = true ∧ m = ⟨e, f, s, []⟩ ∧ outcome = .error .aborted) ∨
    (e.aborted = false ∧ e.complete = true ∧ m = ⟨e, f, s, []⟩ ∧ outcome = .ok .complete) ∨
    (e.aborted = false ∧ e.complete = false ∧ ∃ m₁, Relation.ReflTransGen (Round levels)
      ⟨e.resumeSettled f, f, s, []⟩ m₁ ∧ Stops m₁ m outcome) := by
  rw [run] at h
  cases haborted : e.aborted with
  | true =>
    simp only [haborted, if_true] at h
    obtain ⟨rfl, rfl⟩ := Prod.mk.inj (Option.some.inj h)
    exact .inl ⟨rfl, rfl, rfl⟩
  | false =>
    refine .inr ?_
    cases hcomplete : e.complete with
    | true =>
      simp only [haborted, hcomplete, if_true, Bool.false_eq_true, if_false] at h
      obtain ⟨rfl, rfl⟩ := Prod.mk.inj (Option.some.inj h)
      exact .inl ⟨rfl, rfl, rfl, rfl⟩
    | false =>
      simp only [haborted, hcomplete, Bool.false_eq_true, if_false] at h
      exact .inr ⟨rfl, rfl, loop_rounds h⟩

end

/-! ## Any sequence of calls -/

/-- What calls on an execution of the query have led to, and all that they have handed out. -/
inductive Called (q : Query) : Execution → List Delivery → Prop
  | new : Called q (.new q) []
  | ready {e : Execution} {ds : List Delivery} (h : Called q e ds) (document : Term) :
      Called q (e.documentReady document).2 ds
  | ran {e : Execution} {ds : List Delivery} (h : Called q e ds) {φ : Type} [Fetcher φ]
      {levels rounds : Nat} {f : φ} {s : Store} {m : Machine φ}
      {outcome : Except QueryError RunStatus} (hrun : run levels rounds e f s = some (m, outcome)) :
      Called q m.execution (ds ++ m.deliveries)

theorem accounted_new (q : Query) : (new q).Accounted [] := by
  have hbranches : (new q).branches = [{ pattern := q.pattern, owner := .root, outstanding := 1 }] := rfl
  have hjunctions : (new q).junctions = [] := rfl
  have hcharged : (new q).charged [] = [0] := rfl
  have hroot : ∀ {i : Nat} {b : Branch}, (new q).branches[i]? = some b → i = 0 ∧
      b = { pattern := q.pattern, owner := .root, outstanding := 1 } := by
    intro i b hi
    rw [hbranches, List.getElem?_singleton] at hi
    split at hi
    case isTrue hzero => exact ⟨hzero, (Option.some.inj hi).symm⟩
    case isFalse => cases hi
  have hnone : ∀ {j : Nat} {jn : Junction}, (new q).junctions[j]? ≠ some jn := by
    intro j jn
    rw [hjunctions]
    exact nofun
  refine ⟨⟨rooted_new q, fun i b hi => ?_, fun j jn hj => absurd hj hnone,
    fun j jn hj => absurd hj hnone⟩, fun i b hi => ?_, fun j jn hj => absurd hj hnone, ?_, ?_, ?_⟩
  · obtain ⟨rfl, rfl⟩ := hroot hi
    exact ⟨fun _ => rfl, fun _ => rfl⟩
  · obtain ⟨rfl, rfl⟩ := hroot hi
    rfl
  · intro i hi
    rw [hcharged, List.mem_singleton] at hi
    rw [hi]
    exact Nat.one_pos
  · exact ⟨fun h => (nomatch h), fun h => (nomatch h)⟩
  · exact fun p hp => (nomatch hp)

theorem Accounted.midway {φ : Type} [Fetcher φ] {e : Execution} (h : e.Accounted [])
    (haborted : e.aborted = false) (hopen : e.complete = false) (f : φ) (s : Store) :
    Midway e.delivered (⟨e.resumeSettled f, f, s, []⟩ : Machine φ) := by
  obtain ⟨stack, parked, hfields⟩ := resumeSettled_fields f e
  refine ⟨h.resumeSettled f, ?_, [], ?_, ?_⟩
  · simp only [hfields, haborted]
  · simp [hfields, hopen]
  · simp [hfields]

theorem Called.accounted {q : Query} {e : Execution} {ds : List Delivery} (h : Called q e ds) :
    (e.aborted = false → e.Accounted []) ∧ (e.aborted = true → e.complete = false) ∧
      Tally 0 ds e := by
  induction h with
  | new => exact ⟨fun _ => accounted_new q, fun h => (nomatch h), [], rfl, rfl⟩
  | @ready e ds _ document ih =>
    obtain ⟨haccount, hcomplete, htally⟩ := ih
    obtain ⟨stack, parked, hfields⟩ := documentReady_fields e document
    refine ⟨fun haborted => (haccount ?_).documentReady document, ?_, ?_⟩
    · rw [hfields] at haborted
      exact haborted
    · rw [hfields]
      exact hcomplete
    · rw [hfields]
      exact htally
  | @ran e ds _ φ _ levels rounds f s m outcome hrun ih =>
    obtain ⟨haccount, hcomplete, htally⟩ := ih
    rcases run_cases hrun with ⟨-, rfl, -⟩ | ⟨-, -, rfl, -⟩ | ⟨haborted, hopen, m₁, hrounds, hstops⟩
    · rw [List.append_nil]
      exact ⟨haccount, hcomplete, htally⟩
    · rw [List.append_nil]
      exact ⟨haccount, hcomplete, htally⟩
    · have hmidway := rounds_midway ((haccount haborted).midway haborted hopen f s) hrounds
      have htally' := htally.append hopen hmidway.tally
      cases hstops with
      | idle hstack =>
        refine ⟨fun _ => hmidway.accounted, fun habort => ?_, htally'⟩
        rw [hmidway.aborted] at habort
        cases habort
      | @overLimit t rest error hstack hlimit =>
        have hend := hmidway.accounted.complete_of_stack hstack
        exact ⟨fun habort => (nomatch habort), fun _ => hend, htally'⟩

structure Balanced (e : Execution) : Prop where
  outstanding : ∀ (i : Nat) (b : Branch), e.branches[i]? = some b →
    b.outstanding = e.tasksOf i + e.junctionsOf i
  remaining : ∀ (j : Nat) (jn : Junction), e.junctions[j]? = some jn → 0 < jn.remaining →
    jn.remaining = jn.branches.countP e.unfinished
  branches : ∀ (j : Nat) (jn : Junction), e.junctions[j]? = some jn → jn.branches.Nodup ∧
    ∀ i, i ∈ jn.branches ↔ ∃ b : Branch, e.branches[i]? = some b ∧ b.owner = .optional j
  complete_iff : e.complete = true ↔ e.stack = [] ∧ e.parked = ∅

theorem Accounted.balances {e : Execution} (h : e.Accounted []) : e.Balanced where
  outstanding := fun i b hb => by rw [← count_charged]; exact h.outstanding i b hb
  remaining := fun j jn hj _ => h.remaining j jn hj
  branches := fun j jn hj => ⟨h.distinct j jn hj, h.members j jn hj⟩
  complete_iff := h.complete_iff_tasks

theorem waitingOn_ne_nil {e : Execution} (h : e.parked ≠ ∅) : e.waitingOn ≠ [] := by
  obtain ⟨key, w, hw⟩ := exists_of_ne_empty h
  exact List.ne_nil_of_mem (mem_waitingOn.mpr ⟨key, w, hw, rfl⟩)

/-- Whatever calls are made, in whatever order, with whatever fetchers and stores: unless a limit was
met the account balances, also between any two tasks of a run, and working on a task never takes one
off a counter that is nothing. So a run that does not complete the execution waits for something; that
there are no more rows is told once, last of all, by the run that completes it; and the rows handed
out are as many as are said to be delivered. -/
theorem Called.balanced {q : Query} {e : Execution} {ds : List Delivery} (h : Called q e ds) :
    (∃ rows : List Bindings, ds = rows.map Delivery.row ++ (if e.complete then [.done] else []) ∧
      e.delivered = rows.length) ∧
    (e.aborted = true → e.complete = false) ∧
    (e.aborted = false → e.Balanced) ∧
    ∀ {φ : Type} [Fetcher φ] (levels : Nat) (f : φ) (s : Store),
      (e.aborted = false → e.complete = false → ∀ m : Machine φ,
        Relation.ReflTransGen (Round levels) ⟨e.resumeSettled f, f, s, []⟩ m →
          m.execution.Balanced ∧ Tally e.delivered m.deliveries m.execution ∧
          ∀ g t rest, m.execution.stack = t :: rest →
            process? g (m.execution.started rest) t =
              some (process g (m.execution.started rest) t)) ∧
      ∀ rounds (m : Machine φ) outcome, run levels rounds e f s = some (m, outcome) →
        (outcome = .ok .complete ↔ m.execution.complete = true) ∧
        (∀ documents, outcome = .ok (.waiting documents) → documents ≠ []) ∧
        (.done ∈ m.deliveries ↔ e.complete = false ∧ outcome = .ok .complete) ∧
        (e.aborted = true → outcome = .error .aborted ∧ m.deliveries = []) := by
  obtain ⟨haccount, hcomplete, rows, hrows, hcount⟩ := h.accounted
  refine ⟨⟨rows, hrows, by omega⟩, hcomplete, fun habort => (haccount habort).balances, ?_⟩
  intro φ _ levels f s
  refine ⟨fun haborted hopen m hrounds => ?_, fun rounds m outcome hrun => ?_⟩
  · have hmidway := rounds_midway ((haccount haborted).midway haborted hopen f s) hrounds
    refine ⟨hmidway.accounted.balances, hmidway.tally, fun g t rest hstack => ?_⟩
    exact (process_accounted g (hmidway.accounted.started hstack)).2.1
  · rcases run_cases hrun with ⟨haborted, rfl, rfl⟩ | ⟨haborted, hdone, rfl, rfl⟩ |
      ⟨haborted, hopen, m₁, hrounds, hstops⟩
    · have hopen := hcomplete haborted
      simp [hopen]
    · simp [hdone, haborted]
    · have hmidway := rounds_midway ((haccount haborted).midway haborted hopen f s) hrounds
      have hdone : .done ∈ m₁.deliveries ↔ m₁.execution.complete = true := by
        obtain ⟨rows, hrows, -⟩ := hmidway.tally
        rw [hrows]
        cases m₁.execution.complete <;> simp
      cases hstops with
      | idle hstack =>
        cases hend : m.execution.complete with
        | true =>
          rw [hend] at hdone
          simp [hdone, hopen, haborted]
        | false =>
          have hparked : m.execution.parked ≠ ∅ := by
            intro hnone
            rw [hmidway.accounted.complete_iff_tasks.mpr ⟨hstack, hnone⟩] at hend
            cases hend
          have hwaiting := waitingOn_ne_nil hparked
          rw [hend] at hdone
          simp [hdone, hopen, haborted, hwaiting]
      | @overLimit t rest error hstack hlimit =>
        have hend := hmidway.accounted.complete_of_stack hstack
        have hsame : (m₁.execution.started rest).complete = m₁.execution.complete := rfl
        simp [hdone, hopen, haborted, hend, hsame]

/-- A task of an optional pattern waits for a document while another one goes on; the call that
resumes it has another fetcher. -/
theorem balanced_after_run :
    let node : Term := .named "http://d/b#it"
    let data : List Statement := [⟨.named "a", .named "p", node, .defaultGraph⟩,
      ⟨.named "a", .named "p", .blank "c", .defaultGraph⟩, ⟨node, .named "q", .named "e", .defaultGraph⟩]
    let inner := Pattern.empty.add (.var "y") (.named "q") (.var "z")
    let q : Query := { pattern := (Pattern.empty.add (.var "x") (.named "p") (.var "y")).addOptional inner }
    let f : MemoryFetcher := { deferred := true }
    ∃ (s : Store) (m₁ : Machine MemoryFetcher) (m₂ : Plain) (outcome₁ outcome₂ : Except QueryError RunStatus),
      (StoreM.addAll 5 data (.ofOptions {})).map Prod.snd = some s ∧
      run 5 20 (.new q) f s = some (m₁, outcome₁) ∧
      run 5 20 (m₁.execution.documentReady (.named "http://d/b")).2 NoDocuments.mk s =
        some (m₂, outcome₂) ∧
      m₁.execution.parked.isEmpty = false ∧
      (m₁.execution.junctions.any fun jn => decide (0 < jn.remaining)) = true ∧
      m₁.execution.complete = false ∧ m₁.execution.Balanced ∧
      m₂.execution.complete = true ∧ m₂.execution.Balanced ∧
      ∃ rows : List Bindings, m₁.deliveries ++ m₂.deliveries = rows.map Delivery.row ++ [.done] ∧
        m₂.execution.delivered = rows.length ∧ rows.length = 2 := by
  intro node data inner q f
  have hruns : (((StoreM.addAll 5 data (.ofOptions {})).map Prod.snd).any fun s =>
      (run 5 20 (.new q) f s).any fun r =>
        !r.1.execution.aborted && !r.1.execution.complete && !r.1.execution.parked.isEmpty &&
          (r.1.execution.junctions.any fun jn => decide (0 < jn.remaining)) &&
          (run 5 20 (r.1.execution.documentReady (.named "http://d/b")).2 NoDocuments.mk s).any fun r' =>
            !r'.1.execution.aborted && r'.1.execution.complete &&
              r'.1.execution.delivered == 2) = true := by decide +kernel
  obtain ⟨s, hs, hany⟩ := (Option.any_eq_true ..).mp hruns
  obtain ⟨⟨m₁, outcome₁⟩, hrun₁, hm⟩ := (Option.any_eq_true ..).mp hany
  simp only [Bool.and_eq_true, Bool.not_eq_true'] at hm
  obtain ⟨⟨⟨⟨haborted₁, hopen⟩, hparked⟩, hjunction⟩, hany₂⟩ := hm
  obtain ⟨⟨m₂, outcome₂⟩, hrun₂, hm₂⟩ := (Option.any_eq_true ..).mp hany₂
  simp only [Bool.and_eq_true, Bool.not_eq_true', beq_iff_eq] at hm₂
  obtain ⟨⟨haborted₂, hcomplete⟩, hdelivered⟩ := hm₂
  have hcalled₁ : Called q m₁.execution m₁.deliveries := .ran .new hrun₁
  have hcalled₂ : Called q m₂.execution (m₁.deliveries ++ m₂.deliveries) :=
    .ran (.ready hcalled₁ (.named "http://d/b")) hrun₂
  obtain ⟨-, -, hbalanced₁, -⟩ := hcalled₁.balanced
  obtain ⟨⟨rows, hrows, hcount⟩, -, hbalanced₂, -⟩ := hcalled₂.balanced
  rw [if_pos hcomplete] at hrows
  exact ⟨s, m₁, m₂, outcome₁, outcome₂, hs, hrun₁, hrun₂, hparked, hjunction, hopen,
    hbalanced₁ haborted₁, hcomplete, hbalanced₂ haborted₂, rows, hrows, hcount,
    hcount.symm.trans hdelivered⟩

end Execution

end QuadGraph
