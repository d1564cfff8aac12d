import QuadGraph.Proofs.Branches
import QuadGraph.Proofs.Parking

/-!
# The account of an execution

A branch counts its tasks, on the stack or parked, and the junctions that it waits for; a junction
counts its branches that are not finished. `Accounted` says so of an execution together with the
branches of tasks that were taken up and are still owed a count. Finishing a
branch keeps the account and never takes one off a counter that is nothing (`finish_accounted`). From
the account alone it follows that an execution is complete just when there is no task left
(`Accounted.complete_iff_tasks`).
-/

namespace QuadGraph

namespace Execution

/-! ## The account -/

def tasksOf (e : Execution) (i : Nat) : Nat := e.tasks.countP fun t => t.branch == i

def junctionsOf (e : Execution) (i : Nat) : Nat :=
  e.junctions.countP fun jn => decide (0 < jn.remaining) && jn.parent == i

def unfinished (e : Execution) (i : Nat) : Bool :=
  e.branches[i]?.any fun b => decide (0 < b.outstanding)

def charged (e : Execution) (owed : List Nat) : List Nat := owed ++ e.tasks.map Task.branch

structure Treelike (e : Execution) : Prop where
  rooted : e.Rooted
  root : ∀ (i : Nat) (b : Branch), e.branches[i]? = some b → (b.owner = .root ↔ i = 0)
  members : ∀ (j : Nat) (jn : Junction), e.junctions[j]? = some jn → ∀ i, i ∈ jn.branches ↔
    ∃ b : Branch, e.branches[i]? = some b ∧ b.owner = .optional j
  distinct : ∀ (j : Nat) (jn : Junction), e.junctions[j]? = some jn → jn.branches.Nodup

/-- Counters say what they should when one count is still owed to each of the branches given. -/
structure Accounted (e : Execution) (owed : List Nat) : Prop extends Treelike e where
  outstanding : ∀ (i : Nat) (b : Branch), e.branches[i]? = some b →
    b.outstanding = (e.charged owed).count i + e.junctionsOf i
  remaining : ∀ (j : Nat) (jn : Junction), e.junctions[j]? = some jn →
    jn.remaining = jn.branches.countP e.unfinished
  charged_lt : ∀ i ∈ e.charged owed, i < e.branches.length
  complete_iff : e.complete = true ↔ e.unfinished 0 = false
  filled : ∀ p ∈ e.parked.values, p.tasks ≠ []

theorem Treelike.mono {e e' : Execution} (h : e.Treelike)
    (hbranches : ∀ i : Nat, e'.branches[i]?.map Branch.owner = e.branches[i]?.map Branch.owner)
    (hjunctions : ∀ j : Nat, e'.junctions[j]?.map (fun jn => (jn.parent, jn.branches)) =
      e.junctions[j]?.map fun jn => (jn.parent, jn.branches)) : e'.Treelike := by
  have hbranch : ∀ {i : Nat} {b' : Branch}, e'.branches[i]? = some b' →
      ∃ b : Branch, e.branches[i]? = some b ∧ b.owner = b'.owner := by
    intro i b' hb'
    have hi := hbranches i
    rw [hb', Option.map_some] at hi
    exact Option.map_eq_some_iff.mp hi.symm
  have hback : ∀ {i : Nat} {b : Branch}, e.branches[i]? = some b →
      ∃ b' : Branch, e'.branches[i]? = some b' ∧ b'.owner = b.owner := by
    intro i b hb
    have hi := hbranches i
    rw [hb, Option.map_some] at hi
    exact Option.map_eq_some_iff.mp hi
  have hjunction : ∀ {j : Nat} {jn' : Junction}, e'.junctions[j]? = some jn' →
      ∃ jn : Junction, e.junctions[j]? = some jn ∧ jn.branches = jn'.branches := by
    intro j jn' hj
    have hi := hjunctions j
    rw [hj, Option.map_some] at hi
    obtain ⟨jn, hjn, heq⟩ := Option.map_eq_some_iff.mp hi.symm
    exact ⟨jn, hjn, (Prod.mk.inj heq).2⟩
  refine ⟨h.rooted.mono (fun i b' hb' => hbranch hb') fun j jn hj => ?_, ?_, ?_, ?_⟩
  · have hi := hjunctions j
    rw [hj, Option.map_some] at hi
    obtain ⟨jn', hjn', heq⟩ := Option.map_eq_some_iff.mp hi
    exact ⟨jn', hjn', (Prod.mk.inj heq).1⟩
  · intro i b' hb'
    obtain ⟨b, hb, hown⟩ := hbranch hb'
    rw [← hown]
    exact h.root i b hb
  · intro j jn' hj i
    obtain ⟨jn, hjn, heq⟩ := hjunction hj
    rw [← heq, h.members j jn hjn]
    constructor
    · rintro ⟨b, hb, hown⟩
      obtain ⟨b', hb', hown'⟩ := hback hb
      exact ⟨b', hb', hown'.trans hown⟩
    · rintro ⟨b', hb', hown'⟩
      obtain ⟨b, hb, hown⟩ := hbranch hb'
      exact ⟨b, hb, hown.trans hown'⟩
  · intro j jn' hj
    obtain ⟨jn, hjn, heq⟩ := hjunction hj
    rw [← heq]
    exact h.distinct j jn hjn

theorem Treelike.changeBranch {e : Execution} (h : e.Treelike) (i : Nat) {f : Branch → Branch}
    (hf : ∀ b, (f b).owner = b.owner) : (e.changeBranch i f).Treelike := by
  refine h.mono (fun k => ?_) fun _ => rfl
  rw [getElem?_changeBranch]
  split
  · rw [Option.map_map]
    exact congrArg (fun f => e.branches[k]?.map f) (funext hf)
  · rfl

theorem Treelike.release {e : Execution} (h : e.Treelike) (i : Nat) : (e.release i).Treelike :=
  h.changeBranch i fun _ => rfl

theorem Treelike.releaseJunction {e : Execution} (h : e.Treelike) (j : Nat) :
    (e.releaseJunction j).Treelike := by
  refine h.mono (fun _ => rfl) fun k => ?_
  rw [getElem?_releaseJunction]
  split
  · rw [Option.map_map]
    rfl
  · rfl

theorem unfinished_iff {e : Execution} {i : Nat} :
    e.unfinished i = true ↔ ∃ b : Branch, e.branches[i]? = some b ∧ 0 < b.outstanding := by
  simp [unfinished, Option.any_eq_true]

theorem count_charged (e : Execution) (i : Nat) : (e.charged []).count i = e.tasksOf i := by
  rw [charged, List.nil_append, List.count, List.countP_map]
  rfl

namespace Accounted

variable {e e' : Execution} {owed owed' : List Nat} {i : Nat}

theorem unfinished_of_charged (h : e.Accounted owed) (hi : i ∈ e.charged owed) :
    e.unfinished i = true := by
  have hlt := h.charged_lt i hi
  have hb := List.getElem?_eq_getElem hlt
  have hcount := List.count_pos_iff.mpr hi
  refine unfinished_iff.mpr ⟨_, hb, ?_⟩
  rw [h.outstanding i _ hb]
  omega

/-- A branch that waits for something keeps the junction above it open, and so the parent. -/
theorem unfinished_parent (h : e.Accounted owed) (hi : e.unfinished i = true) (hne : i ≠ 0) :
    ∃ k, k < i ∧ 0 < e.junctionsOf k ∧ (k < e.branches.length → e.unfinished k = true) := by
  obtain ⟨b, hb, -⟩ := unfinished_iff.mp hi
  cases hown : b.owner with
  | root => exact absurd ((h.root i b hb).mp hown) hne
  | optional j =>
    obtain ⟨jn, hjn, hlt⟩ := h.rooted i b j hb hown
    have hmem : i ∈ jn.branches := (h.members j jn hjn i).mpr ⟨b, hb, hown⟩
    have hopen : 0 < jn.remaining := by
      rw [h.remaining j jn hjn]
      exact List.countP_pos_iff.mpr ⟨i, hmem, hi⟩
    have hjunctions : 0 < e.junctionsOf jn.parent :=
      List.countP_pos_iff.mpr ⟨jn, List.mem_of_getElem? hjn, by simp [hopen]⟩
    refine ⟨jn.parent, hlt, hjunctions, fun hparent => ?_⟩
    have hp := List.getElem?_eq_getElem hparent
    refine unfinished_iff.mpr ⟨_, hp, ?_⟩
    rw [h.outstanding _ _ hp]
    omega

theorem unfinished_root (h : e.Accounted owed) (hi : e.unfinished i = true) :
    e.unfinished 0 = true := by
  induction i using Nat.strongRecOn with
  | ind i ih =>
    by_cases hne : i = 0
    · rw [← hne]
      exact hi
    · obtain ⟨k, hlt, -, hk⟩ := h.unfinished_parent hi hne
      obtain ⟨b, hb, -⟩ := unfinished_iff.mp hi
      have hlen := (List.getElem?_eq_some_iff.mp hb).1
      exact ih k hlt (hk (by omega))

theorem complete_eq_false (h : e.Accounted owed) (hi : i ∈ e.charged owed) :
    e.complete = false := by
  have hroot := h.unfinished_root (h.unfinished_of_charged hi)
  cases hcomplete : e.complete with
  | false => rfl
  | true =>
    rw [h.complete_iff.mp hcomplete] at hroot
    cases hroot

theorem exists_unfinished (h : e.Accounted owed) (hopen : 0 < e.junctionsOf i) :
    ∃ k, i < k ∧ e.unfinished k = true := by
  obtain ⟨jn, hmem, hjn⟩ := List.countP_pos_iff.mp hopen
  simp only [Bool.and_eq_true, decide_eq_true_eq, beq_iff_eq] at hjn
  obtain ⟨hpos, rfl⟩ := hjn
  obtain ⟨j, hj⟩ := List.mem_iff_getElem?.mp hmem
  rw [h.remaining j jn hj, List.countP_pos_iff] at hpos
  obtain ⟨k, hk, hunfinished⟩ := hpos
  obtain ⟨b, hb, hown⟩ := (h.members j jn hj k).mp hk
  obtain ⟨jn', hjn', hlt⟩ := h.rooted k b j hb hown
  rw [hj] at hjn'
  obtain rfl := Option.some.inj hjn'
  exact ⟨k, hlt, hunfinished⟩

theorem finished_of_tasks_nil (h : e.Accounted []) (htasks : e.tasks = []) (i : Nat) :
    e.unfinished i = false := by
  -- from the youngest branch down: one that waits for a junction waits for a younger branch
  have hnone : ∀ n k, e.branches.length ≤ k + n → e.unfinished k = false := by
    intro n
    induction n with
    | zero =>
      intro k hk
      rw [unfinished, List.getElem?_eq_none (by omega)]
      rfl
    | succ n ih =>
      intro k hk
      cases hunfinished : e.unfinished k with
      | false => rfl
      | true =>
        obtain ⟨b, hb, hpos⟩ := unfinished_iff.mp hunfinished
        have hcharged : (e.charged []).count k = 0 := by simp [charged, htasks]
        rw [h.outstanding k b hb, hcharged, Nat.zero_add] at hpos
        obtain ⟨k', hlt, hk'⟩ := h.exists_unfinished hpos
        rw [ih k' (by omega)] at hk'
        cases hk'
  exact hnone e.branches.length i (Nat.le_add_left ..)

theorem parked_eq_empty (h : e.Accounted owed) (htasks : e.tasks = []) : e.parked = ∅ := by
  refine Std.ExtTreeMap.ext_getElem? fun k => ?_
  rw [Std.ExtTreeMap.getElem?_empty]
  cases hk : e.parked[k]? with
  | none => rfl
  | some p =>
    have hmem : p ∈ e.parked.values := mem_values_iff.mpr ⟨k, hk⟩
    have hnil := List.flatMap_eq_nil_iff.mp (List.append_eq_nil_iff.mp htasks).2 p hmem
    exact absurd hnil (h.filled p hmem)

theorem complete_iff_tasks (h : e.Accounted []) :
    e.complete = true ↔ e.stack = [] ∧ e.parked = ∅ := by
  constructor
  · intro hcomplete
    have htasks : e.tasks = [] := by
      cases hall : e.tasks with
      | nil => rfl
      | cons t ts =>
        have hmem : t.branch ∈ e.charged [] := by simp [charged, hall]
        rw [h.complete_eq_false hmem] at hcomplete
        cases hcomplete
    exact ⟨(List.append_eq_nil_iff.mp htasks).1, h.parked_eq_empty htasks⟩
  · rintro ⟨hstack, hparked⟩
    have htasks : e.tasks = [] := by
      rw [tasks, hstack, hparked]
      rfl
    exact h.complete_iff.mpr (h.finished_of_tasks_nil htasks 0)

/-- Tasks may go from one place to another, and what is owed may become a task. -/
theorem rearrange (h : e.Accounted owed) (hbranches : e'.branches = e.branches)
    (hjunctions : e'.junctions = e.junctions) (hcomplete : e'.complete = e.complete)
    (hfilled : ∀ p ∈ e'.parked.values, p.tasks ≠ [])
    (hcharged : (e'.charged owed').Perm (e.charged owed)) : e'.Accounted owed' where
  outstanding := by
    intro i b hb
    rw [hbranches] at hb
    rw [hcharged.count_eq, junctionsOf, hjunctions]
    exact h.outstanding i b hb
  remaining := by
    intro j jn hj
    have hsame : e'.unfinished = e.unfinished := by
      funext i
      rw [unfinished, hbranches]
      rfl
    rw [hjunctions] at hj
    rw [hsame]
    exact h.remaining j jn hj
  charged_lt := by
    intro i hi
    rw [hbranches]
    exact h.charged_lt i (hcharged.mem_iff.mp hi)
  toTreelike := h.toTreelike.mono (fun i => by rw [hbranches]) fun j => by rw [hjunctions]
  complete_iff := by
    rw [hcomplete, unfinished, hbranches]
    exact h.complete_iff
  filled := hfilled

/-- What a branch has collected is not part of the account. -/
theorem changeBranch (h : e.Accounted owed) (i : Nat) {f : Branch → Branch}
    (howner : ∀ b, (f b).owner = b.owner) (hout : ∀ b, (f b).outstanding = b.outstanding) :
    (e.changeBranch i f).Accounted owed := by
  have hbranch : ∀ {k : Nat} {b' : Branch}, (e.changeBranch i f).branches[k]? = some b' →
      ∃ b : Branch, e.branches[k]? = some b ∧ b'.outstanding = b.outstanding := by
    intro k b' hb'
    rw [getElem?_changeBranch] at hb'
    split at hb'
    · obtain ⟨b, hb, rfl⟩ := Option.map_eq_some_iff.mp hb'
      exact ⟨b, hb, hout b⟩
    · exact ⟨b', hb', rfl⟩
  have hunfinished : (e.changeBranch i f).unfinished = e.unfinished := by
    funext k
    rw [unfinished, getElem?_changeBranch]
    split
    · rw [unfinished, Option.any_map]
      exact congrArg (e.branches[k]?.any) (funext fun b => by simp [hout])
    · rfl
  refine ⟨h.toTreelike.changeBranch i howner, fun k b' hb' => ?_, ?_, ?_, ?_, h.filled⟩
  · obtain ⟨b, hb, heq⟩ := hbranch hb'
    rw [heq]
    exact h.outstanding k b hb
  · rw [hunfinished]
    exact h.remaining
  · intro k hk
    rw [Execution.changeBranch, List.length_modify]
    exact h.charged_lt k hk
  · rw [hunfinished]
    exact h.complete_iff

theorem deliver (h : e.Accounted owed) (i : Nat) (r : Bindings) :
    (e.deliver i r).1.Accounted owed := by
  unfold Execution.deliver
  split
  · exact h.rearrange rfl rfl rfl h.filled (.refl _)
  · exact h.changeBranch i (fun _ => rfl) fun _ => rfl
  · exact h

theorem deliverAll (h : e.Accounted owed) (i : Nat) (rows : List Bindings) :
    (deliverAll i rows e).1.Accounted owed := by
  induction rows generalizing e with
  | nil => exact h
  | cons r rows ih => exact ih (h.deliver i r)

end Accounted

/-! ## Deliveries -/

/-- Rows were handed out, and that there are no more if the execution is complete. The number of
rows handed out was that given and has gone up by as many. -/
def Tally (n : Nat) (ds : List Delivery) (e : Execution) : Prop :=
  ∃ rows : List Bindings, ds = rows.map Delivery.row ++ (if e.complete then [.done] else []) ∧
    e.delivered = n + rows.length

theorem Tally.nil {e : Execution} (h : e.complete = false) : Tally e.delivered [] e :=
  ⟨[], by simp [h], rfl⟩

theorem Tally.append {n : Nat} {ds ds' : List Delivery} {e e' : Execution} (h : Tally n ds e)
    (hopen : e.complete = false) (h' : Tally e.delivered ds' e') : Tally n (ds ++ ds') e' := by
  obtain ⟨rows, rfl, hcount⟩ := h
  obtain ⟨rows', rfl, hcount'⟩ := h'
  refine ⟨rows ++ rows', by simp [hopen], ?_⟩
  rw [hcount', hcount, List.length_append, Nat.add_assoc]

theorem deliver_complete (e : Execution) (i : Nat) (r : Bindings) :
    (e.deliver i r).1.complete = e.complete := by
  unfold deliver
  split <;> rfl

theorem deliver_tally {e : Execution} (hopen : e.complete = false) (i : Nat) (r : Bindings) :
    Tally e.delivered (e.deliver i r).2 (e.deliver i r).1 := by
  unfold deliver
  split
  · exact ⟨[r], by simp [hopen], rfl⟩
  · exact ⟨[], by simp [hopen, changeBranch], rfl⟩
  · exact .nil hopen

theorem deliverAll_complete (i : Nat) (rows : List Bindings) (e : Execution) :
    (deliverAll i rows e).1.complete = e.complete := by
  induction rows generalizing e with
  | nil => rfl
  | cons r rows ih => exact (ih _).trans (deliver_complete e i r)

theorem deliverAll_tally {e : Execution} (hopen : e.complete = false) (i : Nat)
    (rows : List Bindings) :
    Tally e.delivered (deliverAll i rows e).2 (deliverAll i rows e).1 := by
  induction rows generalizing e with
  | nil => exact .nil hopen
  | cons r rows ih =>
    have hopen' := (deliver_complete e i r).trans hopen
    exact (deliver_tally hopen i r).append hopen' (ih hopen')

theorem passOn_tally {e : Execution} (hopen : e.complete = false) (jn : Junction) :
    (e.passOn jn).1.complete = false ∧ Tally e.delivered (e.passOn jn).2 (e.passOn jn).1 :=
  ⟨(deliverAll_complete ..).trans hopen, deliverAll_tally hopen ..⟩

/-! ## Finishing -/

/-- Finishing without an answer where a branch or a junction is missing, or where one would have to
be taken off a counter that is nothing. -/
def finish? : Nat → Nat → Execution → Option (Execution × List Delivery)
  | 0, _, _ => none
  | height + 1, branch, e => do
    let b ← e.branches[branch]?
    if b.outstanding = 0 then none
    else if 1 < b.outstanding then some (e.release branch, [])
    else
      match b.owner with
      | .root => some ({ e.release branch with complete := true }, [.done])
      | .optional junction => do
        let jn ← e.junctions[junction]?
        let e := (e.release branch).releaseJunction junction
        if jn.remaining = 0 then none
        else if 1 < jn.remaining then some (e, [])
        else do
          let (e, rows) := e.passOn { jn with remaining := 0 }
          let (e, others) ← finish? height jn.parent e
          some (e, rows ++ others)

theorem countP_modify {α : Type} (p : α → Bool) (f : α → α) {l : List α} {j : Nat} {a : α}
    (h : l[j]? = some a) :
    (l.modify j f).countP p + (if p a then 1 else 0) = l.countP p + (if p (f a) then 1 else 0) := by
  induction l generalizing j with
  | nil => cases h
  | cons x xs ih =>
    cases j with
    | zero =>
      obtain rfl := Option.some.inj h
      simp only [List.modify_zero_cons, List.countP_cons]
      omega
    | succ j =>
      have htail := ih h
      simp only [List.modify_succ_cons, List.countP_cons]
      omega

theorem countP_eq_succ {l : List Nat} (hl : l.Nodup) {i : Nat} (hi : i ∈ l) {p q : Nat → Bool}
    (hp : p i = true) (hq : q i = false) (h : ∀ k, k ≠ i → p k = q k) :
    l.countP p = l.countP q + 1 := by
  induction l with
  | nil => cases hi
  | cons x xs ih =>
    rw [List.nodup_cons] at hl
    by_cases hx : x = i
    · subst hx
      have hrest : xs.countP p = xs.countP q :=
        List.countP_congr fun k hk => by rw [h k fun heq => hl.1 (heq ▸ hk)]
      simp [hp, hq, hrest]
    · have hmem : i ∈ xs := (List.mem_cons.mp hi).resolve_left (Ne.symm hx)
      have hrest := ih hl.2 hmem
      simp only [List.countP_cons, h x hx, hrest]
      omega

section
variable {e : Execution} {owed : List Nat} {i j : Nat} {b : Branch} {jn : Junction}
  (h : e.Accounted (i :: owed)) (hb : e.branches[i]? = some b)

include hb in
theorem unfinished_release (k : Nat) :
    (e.release i).unfinished k = if i = k then decide (1 < b.outstanding) else e.unfinished k := by
  rw [unfinished, release, getElem?_changeBranch]
  by_cases hk : i = k
  · subst hk
    simp only [if_true, hb, Option.map_some, Option.any_some, decide_eq_decide]
    omega
  · rw [if_neg hk, if_neg hk]
    rfl

include h

theorem Accounted.outstanding_pos (hb : e.branches[i]? = some b) : 0 < b.outstanding := by
  rw [h.outstanding i b hb, charged, List.cons_append, List.count_cons_self]
  omega

theorem Accounted.outstanding_release (k : Nat) (b' : Branch)
    (hb' : (e.release i).branches[k]? = some b') :
    b'.outstanding = (e.charged owed).count k + e.junctionsOf k := by
  rw [release, getElem?_changeBranch] at hb'
  split at hb'
  case isTrue hk =>
    subst hk
    obtain ⟨b, hb, rfl⟩ := Option.map_eq_some_iff.mp hb'
    have hcount := h.outstanding i b hb
    rw [charged, List.cons_append, List.count_cons_self, ← charged] at hcount
    simp only
    omega
  case isFalse hk =>
    have hcount := h.outstanding k b' hb'
    rw [charged, List.cons_append, List.count_cons_of_ne hk, ← charged] at hcount
    exact hcount

theorem Accounted.charged_lt_release : ∀ k ∈ e.charged owed, k < (e.release i).branches.length := by
  intro k hk
  rw [release, Execution.changeBranch, List.length_modify]
  refine h.charged_lt k ?_
  rw [charged, List.cons_append]
  exact List.mem_cons_of_mem i hk

include hb

theorem Accounted.release (hmore : 1 < b.outstanding) : (e.release i).Accounted owed := by
  have hunfinished : (e.release i).unfinished = e.unfinished := by
    funext k
    rw [unfinished_release hb]
    by_cases hk : i = k
    · subst hk
      have hpos : e.unfinished i = true := unfinished_iff.mpr ⟨b, hb, by omega⟩
      simp [hpos, hmore]
    · rw [if_neg hk]
  refine ⟨h.toTreelike.release i, h.outstanding_release, ?_, h.charged_lt_release,
    ?_, h.filled⟩
  · rw [hunfinished]
    exact h.remaining
  · rw [hunfinished]
    exact h.complete_iff

theorem Accounted.release_root (hlast : b.outstanding = 1) (hroot : b.owner = .root) :
    ({ e.release i with complete := true } : Execution).Accounted owed := by
  obtain rfl := (h.root i b hb).mp hroot
  have hfinished : (e.release 0).unfinished 0 = false := by
    rw [unfinished_release hb, if_pos rfl, hlast]
    rfl
  refine ⟨(h.toTreelike.release 0).mono (fun _ => rfl) fun _ => rfl,
    h.outstanding_release, fun j jn hj => ?_, h.charged_lt_release, ?_, h.filled⟩
  · -- the root is in no junction
    rw [h.remaining j jn hj]
    refine List.countP_congr fun k hk => ?_
    obtain ⟨b', hb', hown⟩ := (h.members j jn hj k).mp hk
    have hne : 0 ≠ k := by
      rintro rfl
      rw [(h.root 0 b' hb').mpr rfl] at hown
      cases hown
    have hsame := unfinished_release hb k
    rw [if_neg hne] at hsame
    exact iff_of_eq (congrArg (· = true) hsame.symm)
  · exact ⟨fun _ => hfinished, fun _ => rfl⟩

variable (hlast : b.outstanding = 1) (hown : b.owner = .optional j)
  (hj : e.junctions[j]? = some jn)
include hlast hown hj

theorem Accounted.remaining_release : 0 < jn.remaining ∧
    jn.remaining - 1 = jn.branches.countP (e.release i).unfinished := by
  have hmem : i ∈ jn.branches := (h.members j jn hj i).mpr ⟨b, hb, hown⟩
  have hpos : e.unfinished i = true := unfinished_iff.mpr ⟨b, hb, by omega⟩
  have hfinished : (e.release i).unfinished i = false := by
    rw [unfinished_release hb, if_pos rfl, hlast]
    rfl
  have hcount := countP_eq_succ (h.distinct j jn hj) hmem hpos hfinished fun k hk => by
    rw [unfinished_release hb, if_neg (Ne.symm hk)]
  rw [← h.remaining j jn hj] at hcount
  omega

/-- The branch is finished. The junction is done if it was the last; what it counted for at the
branch it delivers to is then owed there. -/
theorem Accounted.release_junction : ((e.release i).releaseJunction j).Accounted
    (if jn.remaining = 1 then jn.parent :: owed else owed) := by
  obtain ⟨hpos, hremaining⟩ := h.remaining_release hb hlast hown hj
  have hne : i ≠ 0 := by
    rintro rfl
    rw [(h.root 0 b hb).mpr rfl] at hown
    cases hown
  have hjunctions : ∀ k, ((e.release i).releaseJunction j).junctionsOf k +
      (if jn.remaining = 1 ∧ jn.parent = k then 1 else 0) = e.junctionsOf k := by
    intro k
    have hmodify := countP_modify (fun x : Junction => decide (0 < x.remaining) && x.parent == k)
      (fun x => { x with remaining := x.remaining - 1 }) hj
    change ((e.release i).releaseJunction j).junctionsOf k + _ = e.junctionsOf k + _ at hmodify
    by_cases hk : jn.parent = k
    · by_cases hone : jn.remaining = 1
      · simp [hk, hone] at hmodify ⊢
        omega
      · have hmore : 0 < jn.remaining - 1 := by omega
        simp [hk, hpos, hmore, hone] at hmodify ⊢
        omega
    · simp [hk] at hmodify ⊢
      omega
  obtain ⟨jn', hjn', hlt⟩ := h.rooted i b j hb hown
  rw [hj] at hjn'
  obtain rfl := Option.some.inj hjn'
  have hi := (List.getElem?_eq_some_iff.mp hb).1
  refine ⟨(h.toTreelike.release i).releaseJunction j, fun k b' hb' => ?_,
    fun k jn' hk => ?_, ?_, ?_, h.filled⟩
  · rw [h.outstanding_release k b' hb', ← hjunctions k]
    change _ = (e.charged _).count k + _
    by_cases hone : jn.remaining = 1
    · by_cases hk : jn.parent = k
      · simp [hone, hk, charged]
        omega
      · simp [hone, hk, charged]
    · simp [hone]
  · rw [getElem?_releaseJunction] at hk
    split at hk
    case isTrue hjk =>
      subst hjk
      change (e.junctions[j]?).map _ = _ at hk
      rw [hj, Option.map_some] at hk
      rw [← Option.some.inj hk]
      exact hremaining
    case isFalse hjk =>
      change e.junctions[k]? = _ at hk
      rw [h.remaining k jn' hk]
      refine List.countP_congr fun x hx => ?_
      obtain ⟨b', hb', hown'⟩ := (h.members k jn' hk x).mp hx
      have hxi : i ≠ x := by
        rintro rfl
        rw [hb] at hb'
        rw [← Option.some.inj hb', hown] at hown'
        exact hjk (Owner.optional.inj hown')
      have hsame := unfinished_release hb x
      rw [if_neg hxi] at hsame
      exact iff_of_eq (congrArg (· = true) hsame.symm)
  · have hrest := h.charged_lt_release
    change ∀ k ∈ e.charged _, k < (e.release i).branches.length
    split
    · intro k hk
      rw [charged, List.cons_append, List.mem_cons, ← charged] at hk
      rcases hk with rfl | hk
      · rw [Execution.release, Execution.changeBranch, List.length_modify]
        omega
      · exact hrest k hk
    · exact hrest
  · have hsame := unfinished_release hb 0
    rw [if_neg hne] at hsame
    exact h.complete_iff.trans (iff_of_eq (congrArg (· = false) hsame.symm))

end

/-- Finishing keeps the account, and there is always one left to take off. -/
theorem finish_accounted {height i : Nat} {e : Execution} {owed : List Nat}
    (h : e.Accounted (i :: owed)) (hheight : i < height) :
    (finish height i e).1.Accounted owed ∧ finish? height i e = some (finish height i e) ∧
      Tally e.delivered (finish height i e).2 (finish height i e).1 := by
  induction height generalizing i e with
  | zero => omega
  | succ height ih =>
    have hcharged : i ∈ e.charged (i :: owed) := by simp [charged]
    have hopen := h.complete_eq_false hcharged
    obtain ⟨b, hb⟩ : ∃ b, e.branches[i]? = some b :=
      ⟨_, List.getElem?_eq_getElem (h.charged_lt i hcharged)⟩
    have hpos := h.outstanding_pos hb
    have hrelease := release_branch hb
    rw [finish?, hb, Option.bind_eq_bind, Option.bind_some, if_neg (Nat.ne_of_gt hpos)]
    by_cases hmore : 1 < b.outstanding
    · rw [finish_of_pos hrelease (by simp only; omega), if_pos hmore]
      exact ⟨h.release hb hmore, rfl, .nil hopen⟩
    · have hlast : b.outstanding = 1 := by omega
      rw [if_neg hmore]
      have hzero : b.outstanding - 1 = 0 := by omega
      cases hown : b.owner with
      | root =>
        rw [finish_of_root hrelease hzero hown]
        exact ⟨h.release_root hb hlast hown, rfl, [], by simp, rfl⟩
      | optional j =>
        obtain ⟨jn, hj, hlt⟩ := h.rooted i b j hb hown
        obtain ⟨hremaining, -⟩ := h.remaining_release hb hlast hown hj
        have hreleased := h.release_junction hb hlast hown hj
        have hjunction : ((e.release i).releaseJunction j).junctions[j]? =
            some { jn with remaining := jn.remaining - 1 } := by
          rw [getElem?_releaseJunction, if_pos rfl]
          change (e.junctions[j]?).map _ = _
          rw [hj]
          rfl
        simp only [hj, Option.bind_eq_bind, Option.bind_some, if_neg (Nat.ne_of_gt hremaining)]
        by_cases hone : jn.remaining = 1
        · -- the junction hands over, and the branch above is finished in turn
          rw [if_pos hone] at hreleased
          rw [finish_of_junction hrelease hzero hown hjunction (by simp only; omega)]
          obtain ⟨hopen', htally⟩ :=
            passOn_tally (e := (e.release i).releaseJunction j) hopen jn
          have hpassed : (((e.release i).releaseJunction j).passOn jn).1.Accounted
              (jn.parent :: owed) := hreleased.deliverAll jn.parent _
          obtain ⟨haccount, hchecked, htally'⟩ := ih hpassed (by omega)
          refine ⟨haccount, ?_, htally.append hopen' htally'⟩
          rw [if_neg (by omega)]
          change (finish? height jn.parent (((e.release i).releaseJunction j).passOn jn).1).bind _ = _
          rw [hchecked]
          rfl
        · rw [if_neg hone] at hreleased
          rw [finish_of_junction_pos hrelease hzero hown hjunction (by simp only; omega),
            if_pos (by omega)]
          exact ⟨hreleased, rfl, .nil hopen⟩

end Execution

end QuadGraph
