import Std.Data.ExtTreeMap

/-!
# Registries

A registry lists under each key what was registered under it, in that order.
-/

namespace QuadGraph

structure Registry (α : Type) where
  table : Std.ExtTreeMap String (List α) := ∅

namespace Registry

variable {α : Type}

def empty : Registry α := {}

def get (r : Registry α) (key : String) : List α := r.table.getD key []

def contains (r : Registry α) (key : String) : Bool := r.table.contains key

/-- Adds at the end of what is under the key. -/
def register (r : Registry α) (key : String) (a : α) : Registry α :=
  ⟨r.table.insert key (r.get key ++ [a])⟩

/-- Moves all that is under one key to the end of what is under another. -/
def migrate (r : Registry α) (source target : String) : Registry α :=
  match r.table[source]? with
  | none => r
  | some moved =>
    let rest : Registry α := ⟨r.table.erase source⟩
    ⟨rest.table.insert target (rest.get target ++ moved)⟩

def size (r : Registry α) : Nat := r.table.toList.foldl (fun n entry => n + entry.2.length) 0

def isEmpty (r : Registry α) : Bool := r.table.isEmpty

def counts (r : Registry α) : List (String × Nat) :=
  r.table.toList.map fun entry => (entry.1, entry.2.length)

end Registry

end QuadGraph
