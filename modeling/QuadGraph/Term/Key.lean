import QuadGraph.Term.Basic

/-!
# Keys of terms

The key of a term is a text that tells it from every other term. Each part
that a key holds is escaped: a quoted part where a quote would end it, a bare
part (an IRI, a label, a tag, a name) where any delimiter of the surrounding
key would. A formula lists the keys of its quads in sorted order, so it does
not matter in which order they were added.
-/

namespace QuadGraph

def bareChar : Char → List Char
  | '\\' => ['\\', '\\']
  | ' ' => ['\\', 's']
  | '\n' => ['\\', 'n']
  | '\r' => ['\\', 'r']
  | '\t' => ['\\', 't']
  | c => if c ∈ ['"', '<', '>', '(', ')', '{', '}'] then ['\\', c] else [c]

def quotedChar : Char → List Char
  | '\\' => ['\\', '\\']
  | '"' => ['\\', '"']
  | '\n' => ['\\', 'n']
  | '\r' => ['\\', 'r']
  | '\t' => ['\\', 't']
  | c => [c]

def bareText (s : String) : List Char := s.toList.flatMap bareChar

def quotedText (s : String) : List Char := s.toList.flatMap quotedChar

def bracketed (s : String) : List Char := '<' :: (bareText s ++ ['>'])

def Annotation.keyChars : Annotation → List Char
  | .plain => []
  | .typed datatype => '^' :: '^' :: bracketed datatype
  | .tagged language => '@' :: bareText language

def Literal.keyChars (l : Literal) : List Char :=
  '"' :: (quotedText l.value ++ '"' :: l.annotation.keyChars)

/-- Whether a text is not after another in the order by code point. -/
def charsLe : List Char → List Char → Bool
  | [], _ => true
  | _ :: _, [] => false
  | a :: as, b :: bs => decide (a < b) || (a == b && charsLe as bs)

namespace Term

mutual

def keyChars : Term → List Char
  | .named iri => bracketed iri
  | .blank label => '_' :: ':' :: bareText label
  | .literal l => l.keyChars
  | .collection items => '(' :: (itemsChars items ++ [' ', ')'])
  | .var name => '?' :: bareText name
  | .formula quads =>
    '{' :: ((quadsChars quads).mergeSort charsLe).flatMap (' ' :: ·) ++ [' ', '}']

def itemsChars : List Term → List Char
  | [] => []
  | t :: ts => ' ' :: (t.keyChars ++ itemsChars ts)

def quadChars : Quad Term → List Char
  | ⟨s, p, o, c⟩ =>
    s.keyChars ++ ' ' :: (p.keyChars ++ ' ' :: (o.keyChars ++ ' ' :: (c.keyChars ++ [' ', '.'])))

def quadsChars : List (Quad Term) → List (List Char)
  | [] => []
  | q :: qs => quadChars q :: quadsChars qs

end

def key (t : Term) : String := String.ofList t.keyChars

def summary (t : Term) : String := "Term(" ++ t.key ++ ")"

end Term

/-- A blank node as it is written for a reader: its label without any escapes. -/
def blankText (label : String) : String := "_:" ++ label

/-- The four keys of a statement on one line, with a closing point. -/
def Quad.key (st : Statement) : String := String.ofList (Term.quadChars st)

end QuadGraph
