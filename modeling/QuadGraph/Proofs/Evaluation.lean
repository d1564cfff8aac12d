import QuadGraph.Query.Execution

/-!
# Evaluation by recursion

What an execution does with tasks, branches and junctions is meant to come to this: match the
statements one after the other, each time the one that is planned first, and extend what is found
by every combination of the solutions of the optional patterns.
-/

namespace QuadGraph

/-! ## Combinations -/

section
variable {α : Type} (merge : α → α → α)

/-- Every choice of one solution from each of the lists, merged over what is there from the first
list on. A list without solutions is passed over. -/
def crossings (a : α) : List (List α) → List α
  | [] => [a]
  | [] :: rss => crossings a rss
  | (r :: rs) :: rss => (r :: rs).flatMap fun x => crossings (merge a x) rss

theorem crossings_nil_cons (a : α) (rss : List (List α)) :
    crossings merge a ([] :: rss) = crossings merge a rss := by
  rw [crossings]

theorem crossings_cons {rs : List α} (h : rs ≠ []) (a : α) (rss : List (List α)) :
    crossings merge a (rs :: rss) = rs.flatMap fun x => crossings merge (merge a x) rss := by
  cases rs with
  | nil => exact absurd rfl h
  | cons r rs => rw [crossings]

end

/-- The junction of an execution makes the same combinations, list by list. -/
theorem foldl_product (trunks : List Bindings) (rss : List (List Bindings)) :
    rss.foldl Execution.product trunks = trunks.flatMap fun b => crossings Bindings.merge b rss := by
  induction rss generalizing trunks with
  | nil => simp [crossings]
  | cons rs rss ih =>
    rw [List.foldl_cons, ih]
    cases rs with
    | nil => simp [Execution.product, crossings]
    | cons r rs =>
      simp only [Execution.product, List.isEmpty_cons, Bool.false_eq_true, if_false,
        List.flatMap_assoc, List.flatMap_map, crossings]

theorem combine_eq_crossings (b : Bindings) (rss : List (List Bindings)) :
    Execution.combine b rss = crossings Bindings.merge b rss := by
  rw [Execution.combine, foldl_product]
  simp

/-! ## Evaluation -/

namespace Pattern

variable (g : Graph)

def prepared (p : Pattern) (remaining : List Nat) (b : Bindings) : List Prepared :=
  Prepared.order (remaining.filterMap fun i => p.statements[i]?.map (Prepared.ofStatement g b i))

def extensions (p : Pattern) (chosen : Prepared) (b : Bindings) : List Bindings :=
  match p.statements[chosen.index]? with
  | none => []
  | some st => chosen.candidates.filterMap fun x => g.unifyStatement p st x.statement b

theorem length_prepared (p : Pattern) (remaining : List Nat) (b : Bindings) :
    (p.prepared g remaining b).length ≤ remaining.length := by
  rw [prepared, Prepared.order, List.length_mergeSort]
  exact List.length_filterMap_le _ _

/-- The solutions of a pattern of which the statements with the given places are still to be
matched. -/
def eval (p : Pattern) (remaining : List Nat) (b : Bindings) : List Bindings :=
  match _hplan : p.prepared g remaining b with
  | [] => crossings Bindings.merge b (p.optionals.attach.map fun o => o.1.eval (List.range o.1.size) b)
  | chosen :: others =>
    (p.extensions g chosen b).flatMap fun b' => p.eval (others.map Prepared.index) b'
termination_by (sizeOf p, remaining.length)
decreasing_by
  · have hmem := List.sizeOf_lt_of_mem o.2
    refine Prod.Lex.left _ _ ?_
    cases p
    simp only [mk.sizeOf_spec] at hmem ⊢
    omega
  · refine Prod.Lex.right _ ?_
    have hle := p.length_prepared g remaining b
    rw [_hplan, List.length_cons] at hle
    rw [List.length_map]
    exact hle

theorem eval_of_nil {p : Pattern} {remaining : List Nat} {b : Bindings}
    (h : p.prepared g remaining b = []) :
    p.eval g remaining b =
      crossings Bindings.merge b (p.optionals.map fun o => o.eval g (List.range o.size) b) := by
  rw [eval]
  split
  case h_1 => rw [List.attach_map_val (f := fun o : Pattern => o.eval g (List.range o.size) b)]
  case h_2 heq => rw [h] at heq; cases heq

theorem eval_of_cons {p : Pattern} {remaining : List Nat} {b : Bindings} {chosen : Prepared}
    {others : List Prepared} (h : p.prepared g remaining b = chosen :: others) :
    p.eval g remaining b =
      (p.extensions g chosen b).flatMap fun b' => p.eval g (others.map Prepared.index) b' := by
  rw [eval]
  split
  case h_1 heq => rw [h] at heq; cases heq
  case h_2 heq =>
    rw [h] at heq
    obtain ⟨rfl, rfl⟩ := List.cons.inj heq
    rfl

def rows (p : Pattern) (b : Bindings) : List Bindings := p.eval g (List.range p.size) b

end Pattern

end QuadGraph
