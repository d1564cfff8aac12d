import QuadGraph.Query.Execution

/-!
# Branches and junctions

What the bookkeeping of an execution does to one branch: putting tasks on the stack, handing
solutions over, counting down and opening a junction. Each leaves the other branches and the
junctions that are there as they were (`Frame`).
-/

namespace QuadGraph

namespace Branch

def take (b : Branch) (rows : List Bindings) : Branch :=
  { b with results := if b.owner = .root then b.results else b.results ++ rows }

def handsOut (b : Branch) (rows : List Bindings) : List Delivery :=
  if b.owner = .root then rows.map Delivery.row else []

@[simp] theorem take_outstanding (b : Branch) (rows : List Bindings) :
    (b.take rows).outstanding = b.outstanding := rfl

theorem take_take (b : Branch) (r r' : List Bindings) : (b.take r).take r' = b.take (r ++ r') := by
  simp only [take]
  split <;> simp

theorem take_nil (b : Branch) : b.take [] = b := by
  simp [take]

theorem handsOut_take (b : Branch) (r r' : List Bindings) :
    (b.take r).handsOut r' = b.handsOut r' := rfl

theorem handsOut_append (b : Branch) (r r' : List Bindings) :
    b.handsOut (r ++ r') = b.handsOut r ++ b.handsOut r' := by
  simp only [handsOut]
  split <;> simp

theorem handsOut_nil (b : Branch) : b.handsOut [] = [] := by
  simp [handsOut]

end Branch

namespace Execution

/-! ## Branches above a branch -/

/-- A branch that belongs to a junction is younger than the branch that the junction delivers to. -/
def Rooted (e : Execution) : Prop :=
  ∀ (i : Nat) (b : Branch) (j : Nat), e.branches[i]? = some b → b.owner = .optional j →
    ∃ jn : Junction, e.junctions[j]? = some jn ∧ jn.parent < i

theorem Rooted.mono {e e' : Execution} (h : e.Rooted)
    (hb : ∀ (i : Nat) (b : Branch), e'.branches[i]? = some b →
      ∃ a : Branch, e.branches[i]? = some a ∧ a.owner = b.owner)
    (hj : ∀ (j : Nat) (jn : Junction), e.junctions[j]? = some jn →
      ∃ jn' : Junction, e'.junctions[j]? = some jn' ∧ jn'.parent = jn.parent) :
    e'.Rooted := by
  intro i b j hib hown
  obtain ⟨a, hia, howner⟩ := hb i b hib
  obtain ⟨jn, hjn, hlt⟩ := h i a j hia (howner.trans hown)
  obtain ⟨jn', hjn', hparent⟩ := hj j jn hjn
  exact ⟨jn', hjn', by rw [hparent]; exact hlt⟩

theorem Rooted.changeBranch {e : Execution} (h : e.Rooted) (i : Nat) {f : Branch → Branch}
    (hf : ∀ b, (f b).owner = b.owner) : (e.changeBranch i f).Rooted := by
  refine h.mono (fun k b hk => ?_) fun j jn hjn => ⟨jn, hjn, rfl⟩
  simp only [Execution.changeBranch, List.getElem?_modify, Option.map_eq_map,
    Option.map_eq_some_iff] at hk
  obtain ⟨a, ha, rfl⟩ := hk
  refine ⟨a, ha, ?_⟩
  split
  · rw [hf]
  · rfl

theorem getElem?_changeBranch (e : Execution) (i k : Nat) (f : Branch → Branch) :
    (e.changeBranch i f).branches[k]? = if i = k then e.branches[k]?.map f else e.branches[k]? := by
  simp only [changeBranch, List.getElem?_modify]
  split <;> simp

/-! ## What is left alone -/

structure Frame (e : Execution) (branch : Nat) (e' : Execution) : Prop where
  query : e'.query = e.query
  branches : ∀ (i : Nat) (b : Branch), i ≠ branch → e.branches[i]? = some b →
    e'.branches[i]? = some b
  junctions : ∀ (j : Nat) (jn : Junction), e.junctions[j]? = some jn → e'.junctions[j]? = some jn

theorem Frame.refl (e : Execution) (branch : Nat) : e.Frame branch e :=
  ⟨rfl, fun _ _ _ h => h, fun _ _ h => h⟩

theorem Frame.trans {e e' e'' : Execution} {branch : Nat} (h : e.Frame branch e')
    (h' : e'.Frame branch e'') : e.Frame branch e'' where
  query := h'.query.trans h.query
  branches := fun i b hne hi => h'.branches i b hne (h.branches i b hne hi)
  junctions := fun j jn hj => h'.junctions j jn (h.junctions j jn hj)

theorem Frame.changeBranch (e : Execution) (branch : Nat) (f : Branch → Branch) :
    e.Frame branch (e.changeBranch branch f) where
  query := rfl
  branches := by
    intro i b hne hi
    rw [getElem?_changeBranch, if_neg (Ne.symm hne), hi]
  junctions := fun _ _ h => h

structure Leaves (e : Execution) (branch : Nat) (b : Branch) (rest : List Task) (e' : Execution) :
    Prop where
  frame : e.Frame branch e'
  stack : e'.stack = rest
  branch : e'.branches[branch]? = some b
  rooted : e'.Rooted

theorem Leaves.after {e e' e'' : Execution} {branch : Nat} {b : Branch} {rest : List Task}
    (h' : e'.Leaves branch b rest e'') (h : e.Frame branch e') : e.Leaves branch b rest e'' where
  frame := h.trans h'.frame
  stack := h'.stack
  branch := h'.branch
  rooted := h'.rooted

theorem leaves_changeBranch {e : Execution} (hr : e.Rooted) {branch : Nat} {b : Branch}
    (hb : e.branches[branch]? = some b) {f : Branch → Branch} (hf : ∀ b, (f b).owner = b.owner) :
    e.Leaves branch (f b) e.stack (e.changeBranch branch f) where
  frame := .changeBranch e branch f
  stack := rfl
  branch := by rw [getElem?_changeBranch, if_pos rfl, hb, Option.map_some]
  rooted := hr.changeBranch branch hf

/-! ## Finishing -/

def release (e : Execution) (branch : Nat) : Execution :=
  e.changeBranch branch fun b => { b with outstanding := b.outstanding - 1 }

def releaseJunction (e : Execution) (junction : Nat) : Execution :=
  { e with junctions := e.junctions.modify junction fun j => { j with remaining := j.remaining - 1 } }

def collected (e : Execution) (jn : Junction) : List (List Bindings) :=
  jn.branches.map fun i => (e.branches[i]?.map Branch.results).getD []

def passOn (e : Execution) (jn : Junction) : Execution × List Delivery :=
  deliverAll jn.parent (combine jn.trunk (e.collected jn)) e

section
variable {e : Execution} {h branch junction : Nat} {b : Branch} {jn : Junction}

theorem finish_of_none (hb : (e.release branch).branches[branch]? = none) :
    finish (h + 1) branch e = (e.release branch, []) := by
  rw [release] at hb ⊢
  simp only [finish, hb]

theorem finish_of_pos (hb : (e.release branch).branches[branch]? = some b) (hpos : 0 < b.outstanding) :
    finish (h + 1) branch e = (e.release branch, []) := by
  rw [release] at hb ⊢
  simp only [finish, hb, gt_iff_lt, hpos, if_true]

theorem finish_of_root (hb : (e.release branch).branches[branch]? = some b) (hzero : b.outstanding = 0)
    (hroot : b.owner = .root) :
    finish (h + 1) branch e = ({ e.release branch with complete := true }, [.done]) := by
  rw [release] at hb ⊢
  simp only [finish, hb, hzero, hroot, gt_iff_lt, Nat.lt_irrefl, if_false]

theorem finish_of_missing (hb : (e.release branch).branches[branch]? = some b)
    (hzero : b.outstanding = 0) (hown : b.owner = .optional junction)
    (hj : ((e.release branch).releaseJunction junction).junctions[junction]? = none) :
    finish (h + 1) branch e = ((e.release branch).releaseJunction junction, []) := by
  rw [releaseJunction, release] at hj ⊢
  rw [release] at hb
  simp only [finish, hb, hzero, hown, gt_iff_lt, Nat.lt_irrefl, if_false, hj]

theorem finish_of_junction_pos (hb : (e.release branch).branches[branch]? = some b)
    (hzero : b.outstanding = 0) (hown : b.owner = .optional junction)
    (hj : ((e.release branch).releaseJunction junction).junctions[junction]? = some jn)
    (hpos : 0 < jn.remaining) :
    finish (h + 1) branch e = ((e.release branch).releaseJunction junction, []) := by
  rw [releaseJunction, release] at hj ⊢
  rw [release] at hb
  simp only [finish, hb, hzero, hown, gt_iff_lt, Nat.lt_irrefl, if_false, hj, hpos, if_true]

theorem finish_of_junction (hb : (e.release branch).branches[branch]? = some b)
    (hzero : b.outstanding = 0) (hown : b.owner = .optional junction)
    (hj : ((e.release branch).releaseJunction junction).junctions[junction]? = some jn)
    (hlast : jn.remaining = 0) :
    finish (h + 1) branch e =
      let passed := ((e.release branch).releaseJunction junction).passOn jn
      let ended := finish h jn.parent passed.1
      (ended.1, passed.2 ++ ended.2) := by
  rw [releaseJunction, release] at hj ⊢
  rw [release] at hb
  simp only [finish, hb, hzero, hown, gt_iff_lt, Nat.lt_irrefl, if_false, hj, hlast]
  rfl

end

theorem Rooted.release {e : Execution} (hr : e.Rooted) (branch : Nat) : (e.release branch).Rooted :=
  hr.changeBranch branch fun _ => rfl

theorem getElem?_releaseJunction (e : Execution) (junction j : Nat) :
    (e.releaseJunction junction).junctions[j]? =
      if junction = j then e.junctions[j]?.map fun jn => { jn with remaining := jn.remaining - 1 }
      else e.junctions[j]? := by
  simp only [Execution.releaseJunction, List.getElem?_modify]
  split <;> simp

theorem Rooted.releaseJunction {e : Execution} (hr : e.Rooted) (junction : Nat) :
    (e.releaseJunction junction).Rooted := by
  refine hr.mono (fun i b hb => ⟨b, hb, rfl⟩) fun j jn hjn => ?_
  rw [getElem?_releaseJunction, hjn]
  split
  · exact ⟨_, rfl, rfl⟩
  · exact ⟨jn, rfl, rfl⟩

/-! ## Handing solutions over -/

theorem Rooted.deliver {e : Execution} (hr : e.Rooted) (branch : Nat) (r : Bindings) :
    (e.deliver branch r).1.Rooted := by
  unfold Execution.deliver
  split
  · exact hr.mono (fun i b hb => ⟨b, hb, rfl⟩) fun j jn hj => ⟨jn, hj, rfl⟩
  · exact hr.changeBranch branch fun _ => rfl
  · exact hr

theorem Rooted.deliverAll {e : Execution} (hr : e.Rooted) (branch : Nat) (rows : List Bindings) :
    (deliverAll branch rows e).1.Rooted := by
  induction rows generalizing e with
  | nil => exact hr
  | cons r rows ih => exact ih (hr.deliver branch r)

section
variable {e : Execution} {branch : Nat} {b : Branch} (hb : e.branches[branch]? = some b)
include hb

theorem deliver_leaves (hr : e.Rooted) (r : Bindings) :
    e.Leaves branch (b.take [r]) e.stack (e.deliver branch r).1 := by
  have hrooted := hr.deliver branch r
  unfold deliver at hrooted ⊢
  rw [hb, Option.map_some] at hrooted ⊢
  cases hown : b.owner with
  | root =>
    have htake : b.take [r] = b := by
      rw [Branch.take, if_pos hown]
    rw [hown] at hrooted
    exact ⟨⟨rfl, fun _ _ _ h => h, fun _ _ h => h⟩, rfl, by rw [htake]; exact hb, hrooted⟩
  | optional junction =>
    have htake : b.take [r] = { b with results := b.results ++ [r] } := by
      rw [Branch.take, if_neg (by simp [hown])]
    rw [htake]
    exact leaves_changeBranch hr hb (f := fun x => { x with results := x.results ++ [r] })
      fun _ => rfl

theorem deliver_rows (r : Bindings) : (e.deliver branch r).2 = b.handsOut [r] := by
  unfold deliver
  rw [hb, Option.map_some]
  cases hown : b.owner <;> simp [Branch.handsOut, hown]

end

theorem deliverAll_leaves {e : Execution} {branch : Nat} {b : Branch}
    (hb : e.branches[branch]? = some b) (hr : e.Rooted) (rows : List Bindings) :
    e.Leaves branch (b.take rows) e.stack (deliverAll branch rows e).1 ∧
      (deliverAll branch rows e).2 = b.handsOut rows := by
  induction rows generalizing e b with
  | nil =>
    rw [b.take_nil, b.handsOut_nil]
    exact ⟨⟨.refl e branch, rfl, hb, hr⟩, rfl⟩
  | cons r rows ih =>
    have hfirst := deliver_leaves hb hr r
    obtain ⟨hleaves, hrows⟩ := ih hfirst.branch hfirst.rooted
    rw [Branch.take_take] at hleaves
    rw [hfirst.stack] at hleaves
    refine ⟨hleaves.after hfirst.frame, ?_⟩
    rw [show r :: rows = [r] ++ rows from rfl, b.handsOut_append, ← deliver_rows hb r,
      ← b.handsOut_take [r], ← hrows]
    rfl

theorem finish_height {h h' branch : Nat} {e : Execution} (hr : e.Rooted) (hh : branch < h)
    (hh' : branch < h') : finish h branch e = finish h' branch e := by
  induction h generalizing h' branch e with
  | zero => omega
  | succ h ih =>
    obtain ⟨h', rfl⟩ : ∃ k, h' = k + 1 := ⟨h' - 1, by omega⟩
    cases hb : (e.release branch).branches[branch]? with
    | none => rw [finish_of_none hb, finish_of_none hb]
    | some b =>
      by_cases hzero : b.outstanding = 0
      · cases hown : b.owner with
        | root => rw [finish_of_root hb hzero hown, finish_of_root hb hzero hown]
        | optional junction =>
          have hr' := (hr.release branch).releaseJunction junction
          cases hj : ((e.release branch).releaseJunction junction).junctions[junction]? with
          | none => rw [finish_of_missing hb hzero hown hj, finish_of_missing hb hzero hown hj]
          | some jn =>
            by_cases hlast : jn.remaining = 0
            · obtain ⟨jn', hjn', hlt⟩ := hr' branch b junction hb hown
              rw [hj] at hjn'
              obtain rfl := Option.some.inj hjn'
              have hparent : jn.parent < h ∧ jn.parent < h' := by omega
              rw [finish_of_junction hb hzero hown hj hlast, finish_of_junction hb hzero hown hj hlast]
              simp only [passOn, ih (hr'.deliverAll jn.parent _) hparent.1 hparent.2]
            · have hpos : 0 < jn.remaining := Nat.pos_of_ne_zero hlast
              rw [finish_of_junction_pos hb hzero hown hj hpos,
                finish_of_junction_pos hb hzero hown hj hpos]
      · have hpos : 0 < b.outstanding := Nat.pos_of_ne_zero hzero
        rw [finish_of_pos hb hpos, finish_of_pos hb hpos]

theorem release_branch {e : Execution} {branch : Nat} {b : Branch}
    (hb : e.branches[branch]? = some b) :
    (e.release branch).branches[branch]? = some { b with outstanding := b.outstanding - 1 } := by
  rw [release, getElem?_changeBranch, if_pos rfl, hb, Option.map_some]

/-- A branch that waits for more only counts down. -/
theorem finishTask_leaves {e : Execution} {branch : Nat} {b : Branch}
    (hb : e.branches[branch]? = some b) (hr : e.Rooted) (hwaits : 2 ≤ b.outstanding) :
    e.Leaves branch { b with outstanding := b.outstanding - 1 } e.stack (e.finishTask branch).1 ∧
      (e.finishTask branch).2 = [] := by
  have hpos : 0 < b.outstanding - 1 := by omega
  have hfinish : e.finishTask branch = (e.release branch, []) :=
    finish_of_pos (release_branch hb) hpos
  rw [hfinish]
  exact ⟨leaves_changeBranch hr hb (f := fun b => { b with outstanding := b.outstanding - 1 })
    fun _ => rfl, rfl⟩

/-! ## Tasks put on the stack -/

theorem spawnAll_cons (e : Execution) (t : Task) (ts : List Task) :
    e.spawnAll (t :: ts) = (e.spawnAll ts).spawn t := rfl

theorem spawnAll_stack (e : Execution) (ts : List Task) : (e.spawnAll ts).stack = ts ++ e.stack := by
  induction ts with
  | nil => rfl
  | cons t ts ih =>
    rw [spawnAll_cons, List.cons_append, ← ih]
    rfl

theorem spawnAll_query (e : Execution) (ts : List Task) : (e.spawnAll ts).query = e.query := by
  induction ts with
  | nil => rfl
  | cons t ts ih => exact ih

theorem spawnAll_junctions (e : Execution) (ts : List Task) :
    (e.spawnAll ts).junctions = e.junctions := by
  induction ts with
  | nil => rfl
  | cons t ts ih => exact ih

/-- Each branch counts the tasks that are its own. -/
theorem spawnAll_branches (e : Execution) (ts : List Task) (i : Nat) :
    (e.spawnAll ts).branches[i]? = e.branches[i]?.map fun b =>
      { b with outstanding := b.outstanding + ts.countP fun t => t.branch == i } := by
  induction ts with
  | nil => simp [spawnAll]
  | cons t ts ih =>
    rw [spawnAll_cons, spawn, getElem?_changeBranch, ih, Option.map_map, List.countP_cons]
    by_cases hi : t.branch = i
    · simp [hi, Function.comp_def, Nat.add_assoc]
    · simp [hi]

theorem Rooted.spawnAll {e : Execution} (hr : e.Rooted) (ts : List Task) : (e.spawnAll ts).Rooted := by
  refine hr.mono (fun i b hb => ?_) fun j jn hj => ⟨jn, by rw [spawnAll_junctions, hj], rfl⟩
  rw [spawnAll_branches, Option.map_eq_some_iff] at hb
  obtain ⟨a, ha, rfl⟩ := hb
  exact ⟨a, ha, rfl⟩

theorem spawnAll_leaves {e : Execution} {branch : Nat} {b : Branch}
    (hb : e.branches[branch]? = some b) (hr : e.Rooted) (ts : List Task)
    (hts : ∀ t ∈ ts, t.branch = branch) :
    e.Leaves branch { b with outstanding := b.outstanding + ts.length } (ts ++ e.stack)
      (e.spawnAll ts) where
  frame := by
    refine ⟨spawnAll_query e ts, fun i a hne hi => ?_, fun j jn hj => by rw [spawnAll_junctions, hj]⟩
    have hnone : (ts.countP fun t => t.branch == i) = 0 := by
      refine List.countP_eq_zero.mpr fun t ht => ?_
      rw [hts t ht, beq_iff_eq]
      exact Ne.symm hne
    rw [spawnAll_branches, hnone, hi]
    rfl
  stack := spawnAll_stack e ts
  branch := by
    have hall : (ts.countP fun t => t.branch == branch) = ts.length :=
      List.countP_eq_length.mpr fun t ht => beq_iff_eq.mpr (hts t ht)
    rw [spawnAll_branches, hall, hb]
    rfl
  rooted := hr.spawnAll ts

/-! ## Opening a junction -/

abbrev unstarted (junction : Nat) (p : Pattern) : Branch :=
  { pattern := p, owner := .optional junction }

theorem openBranches (e : Execution) (junction : Nat) (ps : List Pattern) :
    ps.foldl (fun e p => e.openBranch p (.optional junction)) e =
      { e with branches := e.branches ++ ps.map (unstarted junction) } := by
  induction ps generalizing e with
  | nil => simp
  | cons p ps ih =>
    rw [List.foldl_cons, ih]
    simp [openBranch]

def numbered (n : Nat) (ps : List Pattern) : List (Nat × Pattern) :=
  (List.range' n ps.length).zip ps

theorem mem_numbered {n : Nat} {ps : List Pattern} {o : Nat × Pattern} :
    o ∈ numbered n ps ↔ ∃ k, o.1 = n + k ∧ ps[k]? = some o.2 := by
  simp only [List.mem_iff_getElem?, numbered, List.getElem?_zip_eq_some]
  constructor
  · rintro ⟨k, hfst, hsnd⟩
    obtain ⟨hk, hfst⟩ := List.getElem?_eq_some_iff.mp hfst
    rw [List.getElem_range', Nat.one_mul] at hfst
    exact ⟨k, hfst.symm, hsnd⟩
  · rintro ⟨k, hfst, hsnd⟩
    obtain ⟨hk, -⟩ := List.getElem?_eq_some_iff.mp hsnd
    refine ⟨k, ?_, hsnd⟩
    rw [List.getElem?_range' hk, hfst, Nat.one_mul]

theorem map_fst_numbered (n : Nat) (ps : List Pattern) :
    (numbered n ps).map Prod.fst = List.range' n ps.length := by
  rw [numbered, List.map_fst_zip]
  simp

theorem map_snd_numbered (n : Nat) (ps : List Pattern) : (numbered n ps).map Prod.snd = ps := by
  rw [numbered, List.map_snd_zip]
  simp

theorem openJunction_eq (e : Execution) (parent : Nat) (ps : List Pattern) (b : Bindings) :
    e.openJunction parent ps b =
      (({ e with
          branches := e.branches ++ ps.map (unstarted e.junctions.length)
          junctions := e.junctions ++
            [⟨parent, b, List.range' e.branches.length ps.length, ps.length⟩] } :
        Execution).changeBranch parent fun x => { x with outstanding := x.outstanding + 1 }).spawnAll
        ((numbered e.branches.length ps).map fun o => firstTask o.1 o.2 b) := by
  simp only [openJunction, openBranches, List.length_range']
  rfl

section
variable {e : Execution} {parent : Nat} {b : Branch} (hb : e.branches[parent]? = some b)
  (ps : List Pattern) (trunk : Bindings)

theorem openJunction_stack : (e.openJunction parent ps trunk).stack =
    ((numbered e.branches.length ps).map fun o => firstTask o.1 o.2 trunk) ++ e.stack := by
  rw [openJunction_eq, spawnAll_stack]
  rfl

theorem openJunction_junctions : (e.openJunction parent ps trunk).junctions = e.junctions ++
    [⟨parent, trunk, List.range' e.branches.length ps.length, ps.length⟩] := by
  rw [openJunction_eq, spawnAll_junctions]
  rfl

theorem openJunction_branches (i : Nat) : (e.openJunction parent ps trunk).branches[i]? =
    (if parent = i then
      (e.branches ++ ps.map (unstarted e.junctions.length))[i]?.map
        fun x => { x with outstanding := x.outstanding + 1 }
      else (e.branches ++ ps.map (unstarted e.junctions.length))[i]?).map
      fun x => { x with
        outstanding := x.outstanding + ((numbered e.branches.length ps).map Prod.fst).count i } := by
  rw [openJunction_eq, spawnAll_branches, getElem?_changeBranch, List.countP_map, List.count,
    List.countP_map]
  rfl

theorem count_numbered_old {i : Nat} (hi : i < e.branches.length) :
    ((numbered e.branches.length ps).map Prod.fst).count i = 0 := by
  rw [map_fst_numbered]
  refine List.count_eq_zero.mpr fun hmem => ?_
  have hle := (List.mem_range'_1.mp hmem).1
  omega

include hb in
theorem openJunction_parent : (e.openJunction parent ps trunk).branches[parent]? =
    some { b with outstanding := b.outstanding + 1 } := by
  have hlt := (List.getElem?_eq_some_iff.mp hb).1
  rw [openJunction_branches, count_numbered_old ps hlt, if_pos rfl, List.getElem?_append_left hlt, hb]
  rfl

theorem openJunction_frame : e.Frame parent (e.openJunction parent ps trunk) where
  query := by rw [openJunction_eq, spawnAll_query]; rfl
  branches := by
    intro i a hne hi
    have hlt := (List.getElem?_eq_some_iff.mp hi).1
    rw [openJunction_branches, count_numbered_old ps hlt, if_neg (Ne.symm hne),
      List.getElem?_append_left hlt, hi]
    rfl
  junctions := by
    intro j jn hj
    have hlt := (List.getElem?_eq_some_iff.mp hj).1
    rw [openJunction_junctions, List.getElem?_append_left hlt, hj]

include hb in
theorem openJunction_optional {o : Nat × Pattern} (ho : o ∈ numbered e.branches.length ps) :
    (e.openJunction parent ps trunk).branches[o.1]? =
      some { pattern := o.2, owner := .optional e.junctions.length, outstanding := 1 } := by
  have hlt := (List.getElem?_eq_some_iff.mp hb).1
  have hcount : ((numbered e.branches.length ps).map Prod.fst).count o.1 = 1 := by
    have hmem := List.mem_map_of_mem (f := Prod.fst) ho
    rw [map_fst_numbered] at hmem ⊢
    rw [List.Nodup.count List.nodup_range', if_pos hmem]
  obtain ⟨k, hk, hget⟩ := mem_numbered.mp ho
  rw [openJunction_branches, hcount, if_neg (by omega), hk, List.getElem?_append_right (by omega),
    Nat.add_sub_cancel_left, List.getElem?_map, hget]
  rfl

include hb in
theorem Rooted.openJunction (hr : e.Rooted) : (e.openJunction parent ps trunk).Rooted := by
  have hparent := (List.getElem?_eq_some_iff.mp hb).1
  have hframe : e.Frame parent (e.openJunction parent ps trunk) := openJunction_frame ps trunk
  intro i a j hi hown
  by_cases hlt : i < e.branches.length
  · -- an old branch belongs to an old junction
    obtain ⟨x, hx⟩ : ∃ x, e.branches[i]? = some x := ⟨_, List.getElem?_eq_getElem hlt⟩
    have howner : x.owner = a.owner := by
      by_cases hip : i = parent
      · subst hip
        rw [openJunction_parent hx ps trunk] at hi
        rw [← Option.some.inj hi]
      · rw [hframe.branches i x hip hx] at hi
        rw [Option.some.inj hi]
    obtain ⟨jn, hjn, hjlt⟩ := hr i x j hx (howner.trans hown)
    exact ⟨jn, hframe.junctions j jn hjn, hjlt⟩
  · rw [openJunction_branches, if_neg (by omega), List.getElem?_append_right (by omega),
      List.getElem?_map, Option.map_map, Option.map_eq_some_iff] at hi
    obtain ⟨q, -, rfl⟩ := hi
    cases hown
    have hnew : parent < i := Nat.lt_of_lt_of_le hparent (Nat.le_of_not_lt hlt)
    exact ⟨_, by rw [openJunction_junctions, List.getElem?_concat_length], hnew⟩

end

/-! ## The patterns of branches -/

def patterns (e : Execution) : List Pattern := e.branches.map Branch.pattern

theorem patterns_changeBranch (e : Execution) (i : Nat) {f : Branch → Branch}
    (hf : ∀ b, (f b).pattern = b.pattern) : (e.changeBranch i f).patterns = e.patterns := by
  refine List.ext_getElem? fun k => ?_
  simp only [patterns, List.getElem?_map, getElem?_changeBranch]
  split
  · rw [Option.map_map]
    exact congrArg (fun g => e.branches[k]?.map g) (funext hf)
  · rfl

theorem patterns_deliver (e : Execution) (i : Nat) (b : Bindings) :
    (e.deliver i b).1.patterns = e.patterns := by
  unfold deliver
  split
  · rfl
  · exact patterns_changeBranch e i fun _ => rfl
  · rfl

theorem patterns_deliverAll (i : Nat) (bs : List Bindings) (e : Execution) :
    (deliverAll i bs e).1.patterns = e.patterns := by
  induction bs generalizing e with
  | nil => rfl
  | cons b bs ih => exact (ih _).trans (patterns_deliver e i b)

theorem patterns_finish (height i : Nat) (e : Execution) :
    (finish height i e).1.patterns = e.patterns := by
  induction height generalizing i e with
  | zero => rfl
  | succ height ih =>
    have hrelease : (e.release i).patterns = e.patterns := patterns_changeBranch e i fun _ => rfl
    rw [← hrelease, finish]
    dsimp only
    split
    · rfl
    split
    · rfl
    split
    · rfl
    split
    · rfl
    split
    · rfl
    exact (ih _ _).trans (patterns_deliverAll ..)

theorem patterns_spawnAll (e : Execution) (ts : List Task) :
    (e.spawnAll ts).patterns = e.patterns := by
  induction ts with
  | nil => rfl
  | cons t ts ih =>
    rw [spawnAll_cons, ← ih]
    exact patterns_changeBranch (e.spawnAll ts) t.branch fun _ => rfl

theorem patterns_openJunction (e : Execution) (parent : Nat) (ps : List Pattern) (b : Bindings) :
    (e.openJunction parent ps b).patterns = e.patterns ++ ps := by
  rw [openJunction_eq, patterns_spawnAll, patterns_changeBranch]
  · simp [patterns, Function.comp_def]
  · exact fun _ => rfl

end Execution

end QuadGraph
