import Mathlib.Data.List.Induction
import Mathlib.Logic.Relation
import QuadGraph.Proofs.Merging

/-!
# Walks to the end of a chain

A look-up walks from redirection to redirection until a term stands for itself. It comes to an end
just when finitely many hops lead to such a term, and this is the term it gives (`ends_iff_halts`).
Merges of arbitrary terms can close a circle: a merge does if the first term, or a term listed under
it, is on the walk of the second, and the second is none of these (`Loops`). As long as every walk
ends, this is the only way that one stops doing so (`Ending.union_iff`), so all walks end after all
of a sequence of merges just when none of them closes a circle (`ends_iff`).
-/

namespace QuadGraph

namespace Equivalence

open Relation

variable {e : Equivalence} {t s r big small : Term} {key : String}

/-! ## Hops -/

def Hops (e : Equivalence) (t s : Term) : Prop := e.next? t = some s

theorem Hops.unique {s' : Term} (h : e.Hops t s) (h' : e.Hops t s') : s = s' :=
  Option.some.inj (h.symm.trans h')

theorem Hops.walk_eq (h : e.Hops t s) : e.walk t = e.walk s := by
  rw [Equivalence.walk_eq, show e.next? t = some s from h]

theorem walk_eq_of_hops (h : ReflTransGen e.Hops t s) : e.walk t = e.walk s := by
  induction h with
  | refl => rfl
  | tail _ hop ih => rw [ih, hop.walk_eq]

theorem walk_eq_of_end (hops : ReflTransGen e.Hops t r) (hend : e.next? r = none) :
    e.walk t = r := by
  rw [walk_eq_of_hops hops, walk_eq, hend]

def Halts (e : Equivalence) (t : Term) : Prop :=
  ∃ r, ReflTransGen e.Hops t r ∧ e.next? r = none

theorem halts_of_next? (h : e.next? t = none) : e.Halts t := ⟨t, .refl, h⟩

theorem Halts.of_hops (hops : ReflTransGen e.Hops t s) (h : e.Halts s) : e.Halts t := by
  obtain ⟨r, hrest, hend⟩ := h
  exact ⟨r, hops.trans hrest, hend⟩

theorem back_of_hops (h : TransGen e.Hops t t) (hops : ReflTransGen e.Hops t r) :
    TransGen e.Hops r t := by
  induction hops with
  | refl => exact h
  | tail _ hop ih =>
    obtain ⟨s, hop', hrest⟩ := TransGen.head'_iff.mp ih
    obtain rfl := hop.unique hop'
    exact TransGen.trans_right hrest h

/-- No walk leads out of a circle. -/
theorem not_halts_of_circle (h : TransGen e.Hops t t) : ¬ e.Halts t := by
  rintro ⟨r, hops, hend⟩
  obtain ⟨s, hop, -⟩ := TransGen.head'_iff.mp (back_of_hops h hops)
  rw [Hops, hend] at hop
  cases hop

/-! ## Where all walks end -/

/-- The look-up of a key comes, after finitely many hops, to a term that stands for itself, and
gives this one. -/
def Ends (e : Equivalence) (key : String) : Prop :=
  ∀ t, e.redirections[key]? = some t →
    ∃ r, ReflTransGen e.Hops t r ∧ e.next? r = none ∧ e.find? key = some r

def Ending (e : Equivalence) : Prop := ∀ t, e.Halts t

theorem ends_iff_halts : e.Ends key ↔ ∀ t, e.redirections[key]? = some t → e.Halts t := by
  refine forall₂_congr fun t ht => ?_
  constructor
  · rintro ⟨r, hops, hend, -⟩
    exact ⟨r, hops, hend⟩
  · rintro ⟨r, hops, hend⟩
    refine ⟨r, hops, hend, ?_⟩
    rw [find?_eq, ht, Option.map_some, walk_eq_of_end hops hend]

theorem ending_iff : e.Ending ↔ ∀ key, e.Ends key := by
  simp only [ends_iff_halts]
  constructor
  · exact fun h key t _ => h t
  · intro h t
    cases hnext : e.next? t with
    | none => exact halts_of_next? hnext
    | some s =>
      obtain ⟨hs, -⟩ := Option.filter_eq_some_iff.mp hnext
      exact (h t.key s hs).of_hops (.single hnext)

theorem ending_empty : Ending {} := fun _ => halts_of_next? (by simp [next?])

/-! ## Merges -/

def gives (e : Equivalence) (big : Term) : List String := big.key :: (e.aliases big.key).map Term.key

theorem mem_gives : key ∈ e.gives big ↔ key = big.key ∨ key ∈ (e.aliases big.key).map Term.key :=
  List.mem_cons

theorem next?_union (big small t : Term) :
    (e.union big small).next? t =
      if t.key ∈ e.gives big then if small.key = t.key then none else some small
      else e.next? t := by
  unfold next?
  rw [getElem?_union]
  by_cases ht : t.key ∈ e.gives big
  · rw [if_pos ht, if_pos (mem_gives.mp ht)]
    by_cases hs : small.key = t.key <;> simp [hs]
  · rw [if_neg ht, if_neg (mt mem_gives.mpr ht)]

/-- The walk of the second term comes to one that the merge sends back to it. -/
def Loops (e : Equivalence) (big small : Term) : Prop :=
  small.key ∉ e.gives big ∧ ∃ s, ReflTransGen e.Hops small s ∧ s.key ∈ e.gives big

theorem not_loops_of_next? (h : e.next? small = none) (big : Term) : ¬ e.Loops big small := by
  rintro ⟨hsmall, s, hops, hs⟩
  rcases ReflTransGen.cases_head hops with rfl | ⟨u, hop, -⟩
  · exact hsmall hs
  · rw [Hops, h] at hop
    cases hop

/-- Up to the first term that it redirects, a merge leaves the hops as they are. -/
theorem hops_union (big small : Term) (hops : ReflTransGen e.Hops t r) :
    ReflTransGen (e.union big small).Hops t r ∨
      ∃ s, ReflTransGen e.Hops t s ∧ ReflTransGen (e.union big small).Hops t s ∧
        s.key ∈ e.gives big := by
  induction hops with
  | refl => exact .inl .refl
  | @tail s r hops hop ih =>
    rcases ih with hsame | hmet
    · by_cases hs : s.key ∈ e.gives big
      · exact .inr ⟨s, hops, hsame, hs⟩
      · refine .inl (hsame.tail ?_)
        rw [Hops, next?_union, if_neg hs]
        exact hop
    · exact .inr hmet

theorem Loops.not_halts (h : e.Loops big small) : ¬ (e.union big small).Halts small := by
  obtain ⟨hsmall, s, hops, hs⟩ := h
  obtain ⟨s, hops', hs⟩ : ∃ s, ReflTransGen (e.union big small).Hops small s ∧
      s.key ∈ e.gives big := by
    rcases hops_union big small hops with hsame | ⟨u, -, hu, hmem⟩
    · exact ⟨s, hsame, hs⟩
    · exact ⟨u, hu, hmem⟩
  refine not_halts_of_circle (TransGen.tail' hops' ?_)
  rw [Hops, next?_union, if_pos hs, if_neg]
  intro heq
  exact hsmall (heq ▸ hs)

section
variable (h : e.Ending) (hloops : ¬ e.Loops big small)
include h hloops

theorem Ending.halts_second : (e.union big small).Halts small := by
  by_cases hsmall : small.key ∈ e.gives big
  · -- the second term is then redirected to itself
    exact halts_of_next? (by rw [next?_union, if_pos hsmall, if_pos rfl])
  · have hfree : ∀ s, ReflTransGen e.Hops small s → s.key ∉ e.gives big :=
      fun s hops hs => hloops ⟨hsmall, s, hops, hs⟩
    obtain ⟨r, hops, hend⟩ := h small
    refine ⟨r, ?_, ?_⟩
    · rcases hops_union big small hops with hsame | ⟨s, hs, -, hmem⟩
      · exact hsame
      · exact absurd hmem (hfree s hs)
    · rw [next?_union, if_neg (hfree r hops), hend]

theorem Ending.halts_given (ht : t.key ∈ e.gives big) : (e.union big small).Halts t := by
  have hnext := next?_union (e := e) big small t
  rw [if_pos ht] at hnext
  split at hnext
  case isTrue => exact halts_of_next? hnext
  case isFalse => exact (h.halts_second hloops).of_hops (.single hnext)

/-- A merge that closes no circle leaves no walk without an end. -/
theorem Ending.union : (e.union big small).Ending := by
  intro t
  obtain ⟨r, hops, hend⟩ := h t
  rcases hops_union big small hops with hsame | ⟨s, -, hops', hs⟩
  · refine Halts.of_hops hsame ?_
    by_cases hmem : r.key ∈ e.gives big
    · exact h.halts_given hloops hmem
    · exact halts_of_next? (by rw [next?_union, if_neg hmem, hend])
  · exact (h.halts_given hloops hs).of_hops hops'

end

theorem Ending.union_iff (h : e.Ending) : (e.union big small).Ending ↔ ¬ e.Loops big small :=
  ⟨fun hends hloops => hloops.not_halts (hends small), h.union⟩

/-! ## Sequences of merges -/

def unions (calls : List (Term × Term)) : Equivalence :=
  calls.foldl (fun e call => e.union call.1 call.2) {}

theorem unions_concat (calls : List (Term × Term)) (big small : Term) :
    unions (calls ++ [(big, small)]) = (unions calls).union big small := by
  rw [unions, List.foldl_append]
  rfl

/-- All look-ups come to an end at all times just when no merge closes a circle. None does as long
as the second term stands for itself, whatever the first one is. -/
theorem ends_iff (calls : List (Term × Term)) :
    ((∀ past, past <+: calls → ∀ key, (unions past).Ends key) ↔
      ∀ past big small, past ++ [(big, small)] <+: calls → ¬ (unions past).Loops big small) ∧
    ((∀ past big small, past ++ [(big, small)] <+: calls → (unions past).next? small = none) →
      ∀ past, past <+: calls → ∀ key, (unions past).Ends key) := by
  have hiff : (∀ past, past <+: calls → ∀ key, (unions past).Ends key) ↔
      ∀ past big small, past ++ [(big, small)] <+: calls → ¬ (unions past).Loops big small := by
    simp only [← ending_iff]
    constructor
    · intro hends past big small hpast
      have hbefore := hends past ((List.prefix_append _ _).trans hpast)
      have hafter := hends _ hpast
      rw [unions_concat] at hafter
      exact hbefore.union_iff.mp hafter
    · intro hloops past hpast
      induction past using List.reverseRecOn with
      | nil => exact ending_empty
      | append_singleton past call ih =>
        obtain ⟨big, small⟩ := call
        rw [unions_concat]
        exact (ih ((List.prefix_append _ _).trans hpast)).union (hloops past big small hpast)
  refine ⟨hiff, fun hself => hiff.mpr fun past big small hpast => ?_⟩
  exact not_loops_of_next? (hself past big small hpast) big

theorem ends_after_merged_again :
    ∀ key, (unions [(.named "b", .named "a"), (.named "b", .named "c")]).Ends key := by
  refine (ends_iff _).2 (fun past big small hpast => ?_) _ (List.prefix_refl _)
  match past with
  | [] =>
    obtain ⟨-, rfl⟩ : _ ∧ Term.named "a" = small := by simpa [eq_comm] using hpast
    rfl
  | [call] =>
    obtain ⟨rfl, -, rfl⟩ : (Term.named "b", Term.named "a") = call ∧ _ ∧ Term.named "c" = small := by
      simpa [eq_comm] using hpast
    rfl
  | _ :: _ :: _ => simpa using hpast.length_le

/-- A term is merged into another, a third one into that term, and the other into the third. -/
theorem ends_not_always : ¬ ∀ calls key, (unions calls).Ends key := by
  intro hends
  have hloops : (unions [(.named "b", .named "a"), (.named "c", .named "b")]).Loops
      (.named "a") (.named "c") :=
    ⟨by decide +kernel, .named "b", .single (by rfl), by decide +kernel⟩
  have hending := ending_iff.mpr
    (hends [(.named "b", .named "a"), (.named "c", .named "b"), (.named "a", .named "c")])
  exact hloops.not_halts (hending (.named "c"))

end Equivalence

end QuadGraph
