import QuadGraph.Term.Order
import Std.Data.ExtTreeMap

/-!
# Merged terms

An equivalence keeps, for each term that was merged away, the term that now
stands for it, and for each of those the terms that were merged into it. A
term is known by its key. When a term that stands for others is itself merged
away, all of them are pointed at the new one, so a look-up takes one step.
Merges are never undone. A merge of terms that do not stand for themselves can
leave longer chains, and even circles, from which a look-up never comes back.
-/

namespace QuadGraph

structure Equivalence where
  /-- The term that stands for the one with this key. -/
  redirections : Std.ExtTreeMap String Term := ∅
  /-- The terms merged into the one with this key, each before those it brought along. -/
  members : Std.ExtTreeMap String (List Term) := ∅

namespace Equivalence

def isEmpty (e : Equivalence) : Bool := e.redirections.isEmpty

def mergedCount (e : Equivalence) : Nat := e.redirections.size

/-- Where a term is redirected to, unless to itself. -/
def next? (e : Equivalence) (t : Term) : Option Term :=
  e.redirections[t.key]?.filter fun s => s.key != t.key

/-- The term at the end of the chain of redirections from a term. In a circle the loop has no
end. -/
def walk (e : Equivalence) (t : Term) : Term := Id.run do
  let mut r := t
  while let some s := e.next? r do
    r := s
  return r

theorem walk_eq (e : Equivalence) (t : Term) :
    e.walk t = match e.next? t with
      | some s => e.walk s
      | none => t := by
  have hloop : ∀ t, e.walk t = Id.run (repeatM _ t) := fun _ => rfl
  rw [hloop, repeatM_eq_of_monadTail, repeatM.body]
  cases hnext : e.next? t with
  | none => simp [hnext]
  | some s => simp [hnext, hloop]

/-- The term that stands for the one with this key, if that one was merged away. Merges of
terms that stand for themselves leave chains of one redirection; only other merges call for
a walk. -/
def find? (e : Equivalence) (key : String) : Option Term :=
  e.redirections[key]?.map fun t =>
    match e.next? t with
    | some s => e.walk s
    | none => t

theorem find?_eq (e : Equivalence) (key : String) :
    e.find? key = e.redirections[key]?.map e.walk := by
  unfold find?
  congr 1
  funext t
  rw [walk_eq]

/-- The term that stands for a term; the term itself if it was never merged away. -/
def find (e : Equivalence) (t : Term) : Term := (e.find? t.key).getD t

def aliases (e : Equivalence) (key : String) : List Term := e.members.getD key []

/-- Merges a term away into another. Both should stand for themselves; whatever was
merged into the first goes along with it. -/
def union (e : Equivalence) (big small : Term) : Equivalence :=
  let moved := e.aliases big.key
  let redirections := moved.foldl (fun r t => r.insert t.key small) e.redirections
  let members := e.members.erase big.key
  { redirections := redirections.insert big.key small
    members := members.insert small.key (members.getD small.key [] ++ big :: moved) }

end Equivalence

end QuadGraph
