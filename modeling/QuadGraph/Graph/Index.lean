import QuadGraph.Term.Order
import Std.Data.ExtTreeMap

/-!
# Entries and indexes

An entry is a statement as it was added once: the same statement added twice
makes two entries, told apart by their numbers. An index lists entries under
keys.
-/

namespace QuadGraph

structure Entry where
  id : Nat
  statement : Statement
deriving Inhabited

/-- No bucket of an index is empty: a key is dropped with its last entry. -/
abbrev Index := Std.ExtTreeMap String (List Entry)

namespace Index

def bucket (i : Index) (key : String) : List Entry := i.getD key []

def add (i : Index) (key : String) (e : Entry) : Index :=
  i.insert key (bucket i key ++ [e])

def drop (i : Index) (key : String) (e : Entry) : Index :=
  match i[key]? with
  | none => i
  | some entries =>
    match entries.eraseP fun x => x.id == e.id with
    | [] => i.erase key
    | rest => i.insert key rest

/-- Puts the entries under one key after those under another. -/
def move (i : Index) (source target : String) : Index :=
  match i[source]? with
  | none => i
  | some moved =>
    let rest : Index := i.erase source
    rest.insert target (bucket rest target ++ moved)

end Index

def Quad.mapAt {α β : Type} (f : Position → α → β) (q : Quad α) : Quad β :=
  ⟨f .subject q.subject, f .predicate q.predicate, f .object q.object, f .context q.context⟩

end QuadGraph
