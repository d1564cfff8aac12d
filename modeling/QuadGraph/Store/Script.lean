import QuadGraph.Action

/-!
# Scripted actions

An action that is given as a list of commands. Wherever a command needs a term
it may take a component of the statement that the action is run for.
-/

namespace QuadGraph

inductive ScriptTerm where
  | term (t : Term)
  | component (p : Position)
deriving Inhabited

def ScriptTerm.value (st : Statement) : ScriptTerm → Term
  | .term t => t
  | .component p => st.get p

inductive Command where
  | add (quad : Quad ScriptTerm)
  | equate (a b : ScriptTerm)
  | remove (mask : Quad (Option ScriptTerm))
deriving Inhabited

/-- Whether the statement is suppressed: always or never, or when two terms are the same. -/
inductive Verdict where
  | fixed (suppress : Bool)
  | ifSame (a b : ScriptTerm)
deriving Inhabited

def Verdict.decide (st : Statement) : Verdict → Bool
  | .fixed suppress => suppress
  | .ifSame a b => (a.value st).same (b.value st)

structure Script where
  label : String
  commands : List Command
  verdict : Verdict
deriving Inhabited

namespace Script

/-- The commands in order, and then the rest. -/
def perform (st : Statement) : List Command → Program → Program
  | [], rest => rest
  | .add quad :: cs, rest => .add (quad.map (ScriptTerm.value st)) fun _ => perform st cs rest
  | .equate a b :: cs, rest => .equate (a.value st) (b.value st) (perform st cs rest)
  | .remove mask :: cs, rest =>
    .removeMany (mask.map fun t => t.map (ScriptTerm.value st)) none fun _ => perform st cs rest

/-- Notes the call, performs the commands and gives the verdict. -/
def toAction (s : Script) : Action := fun st =>
  .note s.label st (perform st s.commands (.done (s.verdict.decide st)))

end Script

end QuadGraph
