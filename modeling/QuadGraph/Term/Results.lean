import QuadGraph.Json
import QuadGraph.Term.Key

/-!
# Terms in query results

The form that a term has in a row of results: an object that names its kind
and gives its value. A formula has no form of its own there and is given by its key.
-/

namespace QuadGraph

def Annotation.members : Annotation → List (String × Json)
  | .plain => []
  | .typed datatype => [("datatype", .string datatype)]
  | .tagged language => [("xml:lang", .string language)]

namespace Term

def resultObject (kind : String) (value : Json) (more : List (String × Json)) : Json :=
  .object (("type", .string kind) :: ("value", value) :: more)

mutual

def toJson : Term → Json
  | .named iri => resultObject "uri" (.string iri) []
  | .blank label => resultObject "bnode" (.string label) []
  | .literal l => resultObject "literal" (.string l.value) l.annotation.members
  | .collection items => resultObject "collection" (.array (itemsJson items)) []
  | .var name => resultObject "variable" (.string name) []
  | .formula quads => resultObject "formula" (.string (formula quads).key) []

def itemsJson : List Term → List Json
  | [] => []
  | t :: ts => t.toJson :: itemsJson ts

end

end Term

end QuadGraph
