import QuadGraph.Proofs.Ledger

/-!
# What an execution will come to

While tasks wait, in whatever order they are taken up again, it is settled already which rows each
branch comes to: those that it has gathered, those that evaluation gives for its tasks, and those that
the junctions it waits for will deliver (`Prospect`). Working on a task changes none of it
(`process_prospect`), and when nothing is left to do the rows are those handed out
(`Prospect.finished`).
-/

namespace QuadGraph

def Branch.gathered (b : Branch) (rows : List Bindings) : List Bindings :=
  if b.owner = .root then rows else b.results

namespace Execution

/-! ## Rows to come -/

def ahead (g : Graph) (p : Pattern) (i : Nat) (ts : List Task) : List Bindings :=
  ts.flatMap fun t => if t.branch = i then p.eval g t.remaining t.bindings else []

/-- The rows that a junction will deliver to a branch, unless it has handed over already. -/
def promised (final : Nat → List Bindings) (i : Nat) (jn : Junction) : List Bindings :=
  if 0 < jn.remaining ∧ jn.parent = i then crossings Bindings.merge jn.trunk (jn.branches.map final)
  else []

/-- Every branch comes to its final rows: it has gathered some, some are on their way to it, and its
tasks and the junctions that it waits for lead to the others. -/
def Prospect (g : Graph) (final : Nat → List Bindings) (e : Execution) (due : Nat → List Bindings)
    (ts : List Task) (rows : List Bindings) : Prop :=
  ∀ (i : Nat) (b : Branch), e.branches[i]? = some b → (final i).Perm
    (b.gathered rows ++ (due i ++ (ahead g b.pattern i ts ++ e.junctions.flatMap (promised final i))))

def nothing : Nat → List Bindings := fun _ => []

def sent (i : Nat) (xs : List Bindings) (k : Nat) : List Bindings := if k = i then xs else []

theorem sent_self (i : Nat) (xs : List Bindings) : sent i xs i = xs := if_pos rfl

theorem sent_of_ne {i k : Nat} (h : k ≠ i) (xs : List Bindings) : sent i xs k = [] := if_neg h

section
variable {g : Graph} {p : Pattern} {final : Nat → List Bindings} {i : Nat}

theorem ahead_append (ts us : List Task) :
    ahead g p i (ts ++ us) = ahead g p i ts ++ ahead g p i us := List.flatMap_append

theorem ahead_of_ne {ts : List Task} (h : ∀ t ∈ ts, t.branch ≠ i) : ahead g p i ts = [] :=
  List.flatMap_eq_nil_iff.mpr fun t ht => if_neg (h t ht)

theorem ahead_of_eq {t : Task} (h : t.branch = i) :
    ahead g p i [t] = p.eval g t.remaining t.bindings := by
  rw [ahead, List.flatMap_singleton, if_pos h]

theorem promised_of_done {jn : Junction} (h : jn.remaining = 0) : promised final i jn = [] :=
  if_neg fun hopen => Nat.ne_of_gt hopen.1 h

theorem promised_of_eq_zero {e : Execution} (h : e.junctionsOf i = 0) :
    e.junctions.flatMap (promised final i) = [] := by
  refine List.flatMap_eq_nil_iff.mpr fun jn hjn => if_neg fun hopen => ?_
  refine List.countP_eq_zero.mp h jn hjn ?_
  simp [hopen.1, hopen.2]

end

namespace Prospect

variable {g : Graph} {final : Nat → List Bindings} {e e' : Execution} {due : Nat → List Bindings}
  {ts ts' : List Task} {rows : List Bindings}

/-- Counters are no part of the prospect. -/
theorem congr (h : Prospect g final e due ts rows)
    (hbranches : ∀ (i : Nat) (b' : Branch), e'.branches[i]? = some b' → ∃ b : Branch,
      e.branches[i]? = some b ∧ b'.pattern = b.pattern ∧ b'.owner = b.owner ∧ b'.results = b.results)
    (hjunctions : e'.junctions = e.junctions) : Prospect g final e' due ts rows := by
  intro i b' hb'
  obtain ⟨b, hb, hpattern, howner, hresults⟩ := hbranches i b' hb'
  have hperm := h i b hb
  rw [Branch.gathered] at hperm ⊢
  rw [hpattern, howner, hresults, hjunctions]
  exact hperm

theorem perm (h : Prospect g final e due ts rows) (hperm : ts.Perm ts') :
    Prospect g final e due ts' rows := by
  intro i b hb
  refine (h i b hb).trans (.append_left _ (.append_left _ (.append_right _ ?_)))
  exact hperm.flatMap_right _

theorem changeBranch (h : Prospect g final e due ts rows) (k : Nat) {f : Branch → Branch}
    (hf : ∀ b, (f b).pattern = b.pattern ∧ (f b).owner = b.owner ∧ (f b).results = b.results) :
    Prospect g final (e.changeBranch k f) due ts rows := by
  refine h.congr (fun i b' hb' => ?_) rfl
  rw [getElem?_changeBranch] at hb'
  split at hb'
  · obtain ⟨b, hb, rfl⟩ := Option.map_eq_some_iff.mp hb'
    exact ⟨b, hb, hf b⟩
  · exact ⟨b', hb', rfl, rfl, rfl⟩

theorem spawnAll (h : Prospect g final e due ts rows) (us : List Task) :
    Prospect g final (e.spawnAll us) due ts rows := by
  refine h.congr (fun i b' hb' => ?_) (spawnAll_junctions e us)
  rw [spawnAll_branches] at hb'
  obtain ⟨b, hb, rfl⟩ := Option.map_eq_some_iff.mp hb'
  exact ⟨b, hb, rfl, rfl, rfl⟩

/-- A task may be replaced by others of its branch that lead to the same rows. -/
theorem replace {t : Task} {us : List Task} {b : Branch} (h : Prospect g final e due (t :: ts) rows)
    (hb : e.branches[t.branch]? = some b) (hbranch : ∀ u ∈ us, u.branch = t.branch)
    (hrows : ahead g b.pattern t.branch us = b.pattern.eval g t.remaining t.bindings) :
    Prospect g final e due (us ++ ts) rows := by
  intro i a ha
  have hperm := h i a ha
  rw [← List.singleton_append, ahead_append] at hperm
  rw [ahead_append]
  by_cases hi : t.branch = i
  · subst hi
    rw [hb] at ha
    obtain rfl := Option.some.inj ha
    rw [ahead_of_eq rfl] at hperm
    rw [hrows]
    exact hperm
  · have hnone : ahead g a.pattern i [t] = [] := ahead_of_ne (by simpa using hi)
    have hnone' : ahead g a.pattern i us = [] := by
      apply ahead_of_ne
      intro u hu
      rw [hbranch u hu]
      exact hi
    rw [hnone] at hperm
    rw [hnone']
    exact hperm

/-- The last task for some rows is taken up: they are on their way to its branch. -/
theorem take {t : Task} {b : Branch} {xs : List Bindings} (h : Prospect g final e nothing (t :: ts) rows)
    (hb : e.branches[t.branch]? = some b) (hrows : b.pattern.eval g t.remaining t.bindings = xs) :
    Prospect g final e (sent t.branch xs) ts rows := by
  intro i a ha
  have hperm := h i a ha
  rw [← List.singleton_append, ahead_append, nothing, List.nil_append, List.append_assoc] at hperm
  by_cases hi : t.branch = i
  · subst hi
    rw [hb] at ha
    obtain rfl := Option.some.inj ha
    rw [ahead_of_eq rfl, hrows] at hperm
    rw [sent_self]
    exact hperm
  · have hnone : ahead g a.pattern i [t] = [] := ahead_of_ne (by simpa using hi)
    rw [hnone] at hperm
    rw [sent_of_ne (Ne.symm hi)]
    exact hperm

/-- A branch that waits for nothing has gathered its final rows. -/
theorem finished {owed : List Nat} (h : Prospect g final e due e.tasks rows) (haccount : e.Accounted owed)
    {i : Nat} {b : Branch} (hb : e.branches[i]? = some b) (hfinished : e.unfinished i = false)
    (hdue : due i = []) : (final i).Perm (b.gathered rows) := by
  have hzero : b.outstanding = 0 := by
    by_contra hne
    have hopen : e.unfinished i = true := unfinished_iff.mpr ⟨b, hb, Nat.pos_of_ne_zero hne⟩
    rw [hfinished] at hopen
    cases hopen
  have hcount := haccount.outstanding i b hb
  have htasks : ∀ t ∈ e.tasks, t.branch ≠ i := by
    intro t ht heq
    have hmem : i ∈ e.charged owed :=
      List.mem_append_right _ (List.mem_map.mpr ⟨t, ht, heq⟩)
    have hpos := List.count_pos_iff.mpr hmem
    omega
  have hperm := h i b hb
  rw [hdue, ahead_of_ne htasks, promised_of_eq_zero (by omega)] at hperm
  simpa using hperm

end Prospect

/-! ## Handing over -/

theorem rowsOf_append (ds ds' : List Delivery) : rowsOf (ds ++ ds') = rowsOf ds ++ rowsOf ds' :=
  List.filterMap_append

theorem gathered_take (b : Branch) (rows xs : List Bindings) :
    (b.take xs).gathered (rows ++ rowsOf (b.handsOut xs)) = b.gathered rows ++ xs := by
  by_cases hroot : b.owner = .root
  · simp [Branch.gathered, Branch.take, Branch.handsOut, hroot, rowsOf, Function.comp_def,
      Delivery.row?]
  · simp [Branch.gathered, Branch.take, hroot]

theorem deliver_branches (e : Execution) (i k : Nat) (x : Bindings) :
    (e.deliver i x).1.branches[k]? =
      if i = k then e.branches[k]?.map fun b => b.take [x] else e.branches[k]? := by
  by_cases hk : i = k
  · subst hk
    rw [if_pos rfl]
    cases hb : e.branches[i]? with
    | none =>
      rw [deliver, hb]
      exact hb
    | some b =>
      rw [deliver, hb]
      cases hown : b.owner with
      | root =>
        simp only [Option.map_some, hown]
        rw [hb, Branch.take, if_pos hown]
      | optional j =>
        simp only [Option.map_some, hown]
        rw [getElem?_changeBranch, if_pos rfl, hb, Branch.take, if_neg (by simp [hown])]
        rfl
  · rw [if_neg hk, deliver]
    split
    · rfl
    · rw [getElem?_changeBranch, if_neg hk]
    · rfl

theorem deliverAll_branches (i k : Nat) (xs : List Bindings) (e : Execution) :
    (deliverAll i xs e).1.branches[k]? =
      if i = k then e.branches[k]?.map fun b => b.take xs else e.branches[k]? := by
  induction xs generalizing e with
  | nil =>
    simp only [Branch.take_nil, Option.map_id', ite_self]
    rfl
  | cons x xs ih =>
    refine (ih (e.deliver i x).1).trans ?_
    rw [deliver_branches]
    by_cases hk : i = k
    · rw [if_pos hk, if_pos hk, if_pos hk, Option.map_map]
      exact congrArg (fun f => e.branches[k]?.map f) (funext fun b => b.take_take [x] xs)
    · rw [if_neg hk, if_neg hk, if_neg hk]

/-- What is on its way to a branch is handed to its owner. -/
theorem deliverAll_prospect {g : Graph} {final : Nat → List Bindings} {e : Execution} {i : Nat}
    {xs rows : List Bindings} {ts : List Task} {b : Branch} (htree : e.Treelike)
    (hb : e.branches[i]? = some b)
    (h : Prospect g final e (sent i xs) ts rows) :
    Prospect g final (deliverAll i xs e).1 nothing ts (rows ++ rowsOf (deliverAll i xs e).2) := by
  obtain ⟨-, hrows⟩ := deliverAll_leaves hb htree.rooted xs
  obtain ⟨branches, delivered, hfields⟩ := deliverAll_fields i xs e
  have hjunctions : (deliverAll i xs e).1.junctions = e.junctions := by rw [hfields]
  intro k a' ha'
  rw [hrows, hjunctions]
  rw [deliverAll_branches] at ha'
  by_cases hk : i = k
  · subst hk
    rw [if_pos rfl, hb] at ha'
    obtain rfl := Option.some.inj ha'
    have hperm := h i b hb
    rw [sent_self, ← List.append_assoc] at hperm
    rw [gathered_take]
    exact hperm
  · rw [if_neg hk] at ha'
    have hperm := h k a' ha'
    have hsame : a'.gathered (rows ++ rowsOf (b.handsOut xs)) = a'.gathered rows := by
      by_cases hroot : a'.owner = .root
      · -- there is only one root, so this branch hands nothing out
        have hother : b.owner ≠ .root := by
          intro hown
          rw [(htree.root i b hb).mp hown, (htree.root k a' ha').mp hroot] at hk
          exact hk rfl
        rw [Branch.handsOut, if_neg hother]
        exact congrArg a'.gathered (List.append_nil rows)
      · rw [Branch.gathered, Branch.gathered, if_neg hroot, if_neg hroot]
    rw [sent_of_ne (Ne.symm hk)] at hperm
    rw [hsame]
    exact hperm

theorem flatMap_modify_perm {α β : Type} (c : α → List β) (f : α → α) {l : List α} {j : Nat} {a : α}
    (h : l[j]? = some a) : (c a ++ (l.modify j f).flatMap c).Perm (c (f a) ++ l.flatMap c) := by
  induction l generalizing j with
  | nil => cases h
  | cons x xs ih =>
    cases j with
    | zero =>
      obtain rfl := Option.some.inj h
      rw [List.modify_zero_cons, List.flatMap_cons, List.flatMap_cons]
      exact List.perm_append_comm_assoc ..
    | succ j =>
      rw [List.modify_succ_cons, List.flatMap_cons, List.flatMap_cons]
      refine (List.perm_append_comm_assoc ..).trans ?_
      refine (List.Perm.append_left _ (ih h)).trans ?_
      exact List.perm_append_comm_assoc ..

section
variable {g : Graph} {final : Nat → List Bindings} {e : Execution} {rows : List Bindings}
  {ts : List Task}

/-- What a junction has promised is on its way once it has no branch to wait for. -/
theorem Prospect.releaseJunction {j : Nat} {jn : Junction} (h : Prospect g final e nothing ts rows)
    (hj : e.junctions[j]? = some jn) (hlast : jn.remaining = 1) :
    Prospect g final (e.releaseJunction j)
      (sent jn.parent (crossings Bindings.merge jn.trunk (jn.branches.map final))) ts rows := by
  intro i b hb
  refine (h i b hb).trans (.append_left _ ?_)
  have hmodify := flatMap_modify_perm (promised final i)
    (fun jn => { jn with remaining := jn.remaining - 1 }) hj
  have hdone : promised final i { jn with remaining := jn.remaining - 1 } = [] := by
    apply promised_of_done
    rw [hlast]
  rw [hdone, List.nil_append] at hmodify
  have hpromised : promised final i jn =
      sent jn.parent (crossings Bindings.merge jn.trunk (jn.branches.map final)) i := by
    simp [promised, sent, hlast, eq_comm]
  rw [hpromised] at hmodify
  refine List.Perm.trans ?_ (List.perm_append_comm_assoc ..)
  exact hmodify.symm.append_left _

theorem Prospect.releaseJunction_of_more {j : Nat} {jn : Junction}
    (h : Prospect g final e nothing ts rows) (hj : e.junctions[j]? = some jn)
    (hmore : 1 < jn.remaining) : Prospect g final (e.releaseJunction j) nothing ts rows := by
  intro i b hb
  refine (h i b hb).trans (.append_left _ (.append_left _ (.append_left _ ?_)))
  have hmodify := flatMap_modify_perm (promised final i)
    (fun jn => { jn with remaining := jn.remaining - 1 }) hj
  have hpos : 0 < jn.remaining ∧ 0 < jn.remaining - 1 := by omega
  have hsame : promised final i { jn with remaining := jn.remaining - 1 } = promised final i jn := by
    simp [promised, hpos]
  rw [hsame] at hmodify
  exact ((List.perm_append_left_iff _).mp hmodify).symm

/-- When a junction is done its branches are, so they have gathered the rows that were promised. -/
theorem Prospect.collected {owed : List Nat} (jn : Junction) {j : Nat}
    (h : Prospect g final e
      (sent jn.parent (crossings Bindings.merge jn.trunk (jn.branches.map final))) e.tasks rows)
    (haccount : e.Accounted owed) (hj : e.junctions[j]? = some jn) (hdone : jn.remaining = 0) :
    Prospect g final e (sent jn.parent (combine jn.trunk (e.collected jn))) e.tasks rows := by
  have hfinal : ∀ k ∈ jn.branches,
      (final k).Perm ((e.branches[k]?.map Branch.results).getD []) := by
    intro k hk
    obtain ⟨b, hb, hown⟩ := (haccount.members j jn hj k).mp hk
    obtain ⟨jn', hj', hlt⟩ := haccount.rooted k b j hb hown
    rw [hj] at hj'
    obtain rfl := Option.some.inj hj'
    have hfinished : e.unfinished k = false := by
      have hnone := haccount.remaining j jn hj
      rw [hdone, eq_comm, List.countP_eq_zero] at hnone
      exact Bool.eq_false_iff.mpr (hnone k hk)
    have hperm := h.finished haccount hb hfinished (sent_of_ne (Nat.ne_of_gt hlt) _)
    rw [Branch.gathered, if_neg (by simp [hown])] at hperm
    rw [hb]
    exact hperm
  intro i b hb
  refine (h i b hb).trans (.append_left _ (.append_right _ ?_))
  by_cases hi : i = jn.parent
  · rw [hi, sent_self, sent_self, combine_eq_crossings]
    exact crossings_perm hfinal jn.trunk
  · rw [sent_of_ne hi, sent_of_ne hi]

theorem finish_prospect {height i : Nat} {owed : List Nat} (haccount : e.Accounted (i :: owed))
    (hheight : i < height) (h : Prospect g final e nothing e.tasks rows) :
    Prospect g final (finish height i e).1 nothing e.tasks (rows ++ rowsOf (finish height i e).2) := by
  induction height generalizing i e rows with
  | zero => omega
  | succ height ih =>
    have hcharged : i ∈ e.charged (i :: owed) := by simp [charged]
    obtain ⟨b, hb⟩ : ∃ b, e.branches[i]? = some b :=
      ⟨_, List.getElem?_eq_getElem (haccount.charged_lt i hcharged)⟩
    have hpos := haccount.outstanding_pos hb
    have hrelease := release_branch hb
    have hreleased : Prospect g final (e.release i) nothing e.tasks rows :=
      h.changeBranch i fun _ => ⟨rfl, rfl, rfl⟩
    by_cases hmore : 1 < b.outstanding
    · rw [finish_of_pos hrelease (by simp only; omega)]
      exact (List.append_nil rows).symm ▸ hreleased
    · have hlast : b.outstanding = 1 := by omega
      have hzero : b.outstanding - 1 = 0 := by omega
      cases hown : b.owner with
      | root =>
        rw [finish_of_root hrelease hzero hown]
        exact (List.append_nil rows).symm ▸ hreleased
      | optional j =>
        obtain ⟨jn, hj, hlt⟩ := haccount.rooted i b j hb hown
        obtain ⟨hremaining, -⟩ := haccount.remaining_release hb hlast hown hj
        have hjaccount := haccount.release_junction hb hlast hown hj
        have hjunction : ((e.release i).releaseJunction j).junctions[j]? =
            some { jn with remaining := jn.remaining - 1 } := by
          rw [getElem?_releaseJunction, if_pos rfl]
          change (e.junctions[j]?).map _ = _
          rw [hj]
          rfl
        by_cases hone : jn.remaining = 1
        · rw [if_pos hone] at hjaccount
          have hdone : jn.remaining - 1 = 0 := by omega
          have hsent := hreleased.releaseJunction hj hone
          have hdue := Prospect.collected { jn with remaining := jn.remaining - 1 } hsent hjaccount
            hjunction hdone
          obtain ⟨a, ha⟩ : ∃ a, ((e.release i).releaseJunction j).branches[jn.parent]? = some a :=
            ⟨_, List.getElem?_eq_getElem (hjaccount.charged_lt jn.parent (by simp [charged]))⟩
          have hpassed := deliverAll_prospect hjaccount.toTreelike ha hdue
          obtain ⟨branches, delivered, hfields⟩ := deliverAll_fields jn.parent
            (combine jn.trunk (((e.release i).releaseJunction j).collected jn))
            ((e.release i).releaseJunction j)
          have htasks : (((e.release i).releaseJunction j).passOn jn).1.tasks = e.tasks := by
            rw [passOn, hfields]
            rfl
          have hparent : (((e.release i).releaseJunction j).passOn jn).1.Accounted
              (jn.parent :: owed) := hjaccount.deliverAll jn.parent _
          have hended := ih hparent (by omega) (htasks.symm ▸ hpassed)
          rw [htasks, List.append_assoc, ← rowsOf_append] at hended
          rw [finish_of_junction hrelease hzero hown hjunction hdone]
          exact hended
        · rw [finish_of_junction_pos hrelease hzero hown hjunction (by simp only; omega)]
          exact (List.append_nil rows).symm ▸ hreleased.releaseJunction_of_more hj (by omega)

end

/-! ## Opening a junction -/

theorem flatMap_ite_of_mem {α β : Type} {key : α → Nat} {f : α → List β} {l : List α} {a : α}
    (hkeys : (l.map key).Nodup) (ha : a ∈ l) :
    (l.flatMap fun x => if key x = key a then f x else []) = f a := by
  obtain ⟨l₁, l₂, rfl⟩ := List.append_of_mem ha
  rw [List.map_append, List.map_cons, List.nodup_middle, List.nodup_cons, ← List.map_append,
    List.mem_map, not_exists] at hkeys
  have hnone : ∀ l' : List α, (∀ x ∈ l', x ∈ l₁ ++ l₂) →
      (l'.flatMap fun x => if key x = key a then f x else []) = [] := fun l' hl' =>
    List.flatMap_eq_nil_iff.mpr fun x hx => if_neg fun heq => hkeys.1 x ⟨hl' x hx, heq⟩
  rw [List.flatMap_append, List.flatMap_cons, if_pos rfl,
    hnone l₁ fun x hx => List.mem_append_left _ hx, hnone l₂ fun x hx => List.mem_append_right _ hx,
    List.nil_append, List.append_nil]

/-- The final rows when a branch was opened for each pattern: those of the pattern for the new ones. -/
def opened (g : Graph) (final : Nat → List Bindings) (n : Nat) (ps : List Pattern) (trunk : Bindings)
    (i : Nat) : List Bindings :=
  if i < n then final i else (ps[i - n]?.map fun p => p.rows g trunk).getD []

section
variable {g : Graph} {final : Nat → List Bindings} {n : Nat} {ps : List Pattern} {trunk : Bindings}

theorem opened_old {i : Nat} (hi : i < n) : opened g final n ps trunk i = final i := if_pos hi

theorem opened_numbered {o : Nat × Pattern} (ho : o ∈ numbered n ps) :
    opened g final n ps trunk o.1 = o.2.rows g trunk := by
  obtain ⟨k, hk, hget⟩ := mem_numbered.mp ho
  rw [opened, if_neg (by omega), hk, Nat.add_sub_cancel_left, hget]
  rfl

theorem map_opened_new : (List.range' n ps.length).map (opened g final n ps trunk) =
    ps.map fun p => p.rows g trunk := by
  rw [← map_fst_numbered, List.map_map, ← map_rows_numbered]
  exact List.map_congr_left fun o ho => opened_numbered ho

theorem promised_opened {e : Execution} {owed : List Nat} (h : e.Accounted owed) (i : Nat) :
    e.junctions.flatMap (promised (opened g final e.branches.length ps trunk) i) =
      e.junctions.flatMap (promised final i) := by
  refine List.flatMap_congr fun jn hjn => ?_
  obtain ⟨j, hj⟩ := List.mem_iff_getElem?.mp hjn
  have hmap : jn.branches.map (opened g final e.branches.length ps trunk) = jn.branches.map final := by
    refine List.map_congr_left fun k hk => opened_old ?_
    obtain ⟨b, hb, -⟩ := (h.members j jn hj k).mp hk
    exact (List.getElem?_eq_some_iff.mp hb).1
  rw [promised, promised, hmap]

theorem ahead_firstTasks {o : Nat × Pattern} (ho : o ∈ numbered n ps) :
    ahead g o.2 o.1 ((numbered n ps).map fun o => firstTask o.1 o.2 trunk) = o.2.rows g trunk := by
  have hkeys : ((numbered n ps).map Prod.fst).Nodup := by
    rw [map_fst_numbered]
    exact List.nodup_range'
  rw [ahead, List.flatMap_map]
  exact flatMap_ite_of_mem (f := fun x => o.2.eval g (List.range x.2.size) trunk) hkeys ho

variable {e : Execution} {owed : List Nat} {rows : List Bindings} {t : Task} {b : Branch}

/-- The rows that a task would lead to are promised by the junction that is opened instead. -/
theorem Prospect.openJunction (h : Prospect g final e nothing (t :: e.tasks) rows)
    (haccount : e.Accounted (t.branch :: owed)) (hb : e.branches[t.branch]? = some b) (hps : ps ≠ [])
    (hrows : b.pattern.eval g t.remaining t.bindings =
      crossings Bindings.merge t.bindings (ps.map fun p => p.rows g t.bindings)) :
    Prospect g (opened g final e.branches.length ps t.bindings)
      (e.openJunction t.branch ps t.bindings) nothing
      (e.openJunction t.branch ps t.bindings).tasks rows := by
  have hlt := (List.getElem?_eq_some_iff.mp hb).1
  obtain ⟨branches, hfields⟩ := openJunction_fields e t.branch ps t.bindings
  have htasks : (e.openJunction t.branch ps t.bindings).tasks =
      ((numbered e.branches.length ps).map fun o => firstTask o.1 o.2 t.bindings) ++ e.tasks := by
    rw [hfields]
    exact List.append_assoc ..
  have hnew : ∀ i, promised (opened g final e.branches.length ps t.bindings) i
      ⟨t.branch, t.bindings, List.range' e.branches.length ps.length, ps.length⟩ =
      if t.branch = i then b.pattern.eval g t.remaining t.bindings else [] := by
    intro i
    rw [promised, map_opened_new, ← hrows]
    simp [List.length_pos_iff.mpr hps]
  -- a branch that was there: what the task would lead to comes from the junction
  have hold : ∀ (i : Nat) (a : Branch), e.branches[i]? = some a →
      (opened g final e.branches.length ps t.bindings i).Perm (a.gathered rows ++ (nothing i ++
        (ahead g a.pattern i (e.openJunction t.branch ps t.bindings).tasks ++
          (e.openJunction t.branch ps t.bindings).junctions.flatMap
            (promised (opened g final e.branches.length ps t.bindings) i)))) := by
    intro i a ha
    have hi := (List.getElem?_eq_some_iff.mp ha).1
    have hfirst : ∀ u ∈ (numbered e.branches.length ps).map fun o => firstTask o.1 o.2 t.bindings,
        u.branch ≠ i := by
      intro u hu
      obtain ⟨o, ho, rfl⟩ := List.mem_map.mp hu
      obtain ⟨k, hk, -⟩ := mem_numbered.mp ho
      change o.1 ≠ i
      omega
    have htask : ahead g a.pattern i [t] =
        if t.branch = i then b.pattern.eval g t.remaining t.bindings else [] := by
      by_cases hti : t.branch = i
      · subst hti
        rw [hb] at ha
        obtain rfl := Option.some.inj ha
        rw [ahead_of_eq rfl, if_pos rfl]
      · rw [ahead_of_ne (by simpa using hti), if_neg hti]
    have hperm := h i a ha
    rw [← List.singleton_append, ahead_append, htask, List.append_assoc] at hperm
    rw [opened_old hi, htasks, ahead_append, ahead_of_ne hfirst, List.nil_append,
      openJunction_junctions, List.flatMap_append, promised_opened haccount, List.flatMap_singleton,
      hnew]
    refine hperm.trans (.append_left _ (.append_left _ ?_))
    exact List.perm_append_comm.trans (.of_eq (List.append_assoc ..))
  intro i b' hb'
  rcases openJunction_cases ps t.bindings hb hb' with ⟨hmem, -⟩ | ⟨rfl, rfl⟩ | ⟨-, ha⟩
  · rw [← map_fst_numbered] at hmem
    obtain ⟨o, ho, rfl⟩ := List.mem_map.mp hmem
    rw [openJunction_optional hb ps t.bindings ho] at hb'
    obtain rfl := Option.some.inj hb'
    obtain ⟨k, hk, -⟩ := mem_numbered.mp ho
    have hcharged : ∀ u ∈ e.tasks, u.branch ≠ o.1 := by
      intro u hu heq
      have hsmall := haccount.charged_lt u.branch (List.mem_append_right _ (List.mem_map_of_mem hu))
      omega
    rw [opened_numbered ho, htasks, ahead_append, ahead_firstTasks ho, ahead_of_ne hcharged,
      openJunction_junctions, List.flatMap_append, promised_opened haccount,
      promised_of_eq_zero (haccount.junctionsOf_new (by omega)), List.flatMap_singleton, hnew,
      if_neg (by omega)]
    simp [Branch.gathered, nothing]
  · exact hold t.branch b hb
  · exact hold i b' ha

end

/-! ## Working on a task -/

section
variable {g : Graph} {final : Nat → List Bindings} {e : Execution} {t : Task} {owed : List Nat}
  {rows : List Bindings} (haccount : e.Accounted (t.branch :: owed))
  (h : Prospect g final e nothing (t :: e.tasks) rows)
include haccount h

theorem matched_prospect {b : Branch} (hb : e.branches[t.branch]? = some b)
    (hplan : b.pattern.prepared g t.remaining t.bindings = []) :
    ∃ final', final' 0 = final 0 ∧
      Prospect g final' (e.matched t.branch b.pattern t.bindings).1 nothing
        (e.matched t.branch b.pattern t.bindings).1.tasks
        (rows ++ rowsOf (e.matched t.branch b.pattern t.bindings).2) := by
  have hrows := Pattern.eval_of_nil g hplan
  by_cases hps : b.pattern.optionals = []
  · rw [hps, List.map_nil, crossings] at hrows
    have htaken := deliverAll_prospect haccount.toTreelike hb (h.take hb hrows)
    have hdeliver : deliverAll t.branch [t.bindings] e =
        ((e.deliver t.branch t.bindings).1, (e.deliver t.branch t.bindings).2) := by
      simp [deliverAll]
    obtain ⟨branches, delivered, hfields⟩ := deliver_fields e t.branch t.bindings
    have htasks : (e.deliver t.branch t.bindings).1.tasks = e.tasks := by
      rw [hfields]
      rfl
    rw [hdeliver, ← htasks] at htaken
    rw [matched_of_nil hps]
    exact ⟨final, rfl, htaken⟩
  · have hlt := (List.getElem?_eq_some_iff.mp hb).1
    have hopened := h.openJunction haccount hb hps hrows
    have hnone : rowsOf ([] : List Delivery) = [] := rfl
    rw [matched_of_ne_nil hps, hnone, List.append_nil]
    exact ⟨opened g final e.branches.length b.pattern.optionals t.bindings,
      opened_old (Nat.zero_lt_of_lt hlt), hopened⟩

theorem children_prospect {b : Branch} (hb : e.branches[t.branch]? = some b) {chosen : Prepared}
    {others : List Prepared} (hplan : b.pattern.prepared g t.remaining t.bindings = chosen :: others) :
    let e' := e.spawnAll (children g b.pattern t chosen (others.map Prepared.index))
    e'.Accounted (t.branch :: owed) ∧ Prospect g final e' nothing e'.tasks rows := by
  have hchildren : ∀ u ∈ children g b.pattern t chosen (others.map Prepared.index),
      u.branch = t.branch := fun u hu => children_branch hu
  have hrows : ahead g b.pattern t.branch
      (children g b.pattern t chosen (others.map Prepared.index)) =
      b.pattern.eval g t.remaining t.bindings := by
    rw [Pattern.eval_of_cons g hplan, children_eq, ahead, List.flatMap_map]
    exact List.flatMap_congr fun x _ => if_pos rfl
  have hcharged : t.branch ∈ e.charged (t.branch :: owed) := by simp [charged]
  have hspawned := haccount.spawnAll (children g b.pattern t chosen (others.map Prepared.index))
    fun u hu => by rw [hchildren u hu]; exact haccount.unfinished_of_charged hcharged
  obtain ⟨branches, hfields⟩ := spawnAll_eq e
    (children g b.pattern t chosen (others.map Prepared.index))
  have htasks : (e.spawnAll (children g b.pattern t chosen (others.map Prepared.index))).tasks =
      children g b.pattern t chosen (others.map Prepared.index) ++ e.tasks := by
    rw [hfields]
    exact List.append_assoc ..
  refine ⟨hspawned, ?_⟩
  rw [htasks]
  exact (h.replace hb hchildren hrows).spawnAll _

/-- Working on a task changes nothing about what the branches that are there come to. -/
theorem process_prospect : ∃ final', final' 0 = final 0 ∧ Prospect g final' (process g e t).1 nothing
    (process g e t).1.tasks (rows ++ rowsOf (process g e t).2) := by
  have hcharged : t.branch ∈ e.charged (t.branch :: owed) := by simp [charged]
  obtain ⟨b, hb⟩ : ∃ b, e.branches[t.branch]? = some b :=
    ⟨_, List.getElem?_eq_getElem (haccount.charged_lt t.branch hcharged)⟩
  cases hplan : b.pattern.prepared g t.remaining t.bindings with
  | nil =>
    obtain ⟨hmatched, -⟩ := matched_accounted haccount b.pattern t.bindings
    obtain ⟨final', hroot, hprospect⟩ := matched_prospect haccount h hb hplan
    have hended := finish_prospect hmatched (Nat.lt_succ_self _) hprospect
    rw [process_of_nil hb rfl hplan]
    simp only [finishTask_tasks, rowsOf_append, ← List.append_assoc]
    exact ⟨final', hroot, hended⟩
  | cons chosen others =>
    obtain ⟨hspawned, hprospect⟩ := children_prospect haccount h hb hplan
    have hended := finish_prospect hspawned (Nat.lt_succ_self _) hprospect
    rw [process_of_cons hb rfl hplan, ← children_eq, finishTask_tasks]
    exact ⟨final, rfl, hended⟩

end

theorem prospect_new (g : Graph) (q : Query) :
    Prospect g (fun _ => q.pattern.rows g q.initial) (new q) nothing (new q).tasks [] := by
  have hbranches : (new q).branches = [{ pattern := q.pattern, owner := .root, outstanding := 1 }] := rfl
  have htasks : (new q).tasks = [firstTask 0 q.pattern q.initial] := rfl
  have hjunctions : (new q).junctions = [] := rfl
  intro i b hb
  rw [hbranches, List.getElem?_singleton] at hb
  split at hb
  case isTrue hi =>
    subst hi
    obtain rfl := Option.some.inj hb
    have hahead : ahead g q.pattern 0 [firstTask 0 q.pattern q.initial] = q.pattern.rows g q.initial :=
      ahead_of_eq rfl
    rw [htasks, hahead, hjunctions, List.flatMap_nil, List.append_nil]
    exact .refl _
  case isFalse => cases hb

end Execution

end QuadGraph
