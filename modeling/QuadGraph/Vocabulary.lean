/-!
# The IRIs that the graph reacts to

Names of the RDF, XML Schema and OWL vocabularies that have a meaning of their
own here, and the one IRI that is reserved: the context of statements that
are added without one.
-/

namespace QuadGraph

namespace Rdf

/-- The predicate that types its subject. -/
def type := "http://www.w3.org/1999/02/22-rdf-syntax-ns#type"

/-- The datatype of a literal that carries a language tag. -/
def langString := "http://www.w3.org/1999/02/22-rdf-syntax-ns#langString"

def first := "http://www.w3.org/1999/02/22-rdf-syntax-ns#first"

def rest := "http://www.w3.org/1999/02/22-rdf-syntax-ns#rest"

def nil := "http://www.w3.org/1999/02/22-rdf-syntax-ns#nil"

end Rdf

namespace Xsd

/-- The datatype of a plain literal. -/
def string := "http://www.w3.org/2001/XMLSchema#string"

def boolean := "http://www.w3.org/2001/XMLSchema#boolean"

def integer := "http://www.w3.org/2001/XMLSchema#integer"

def int := "http://www.w3.org/2001/XMLSchema#int"

def decimal := "http://www.w3.org/2001/XMLSchema#decimal"

def float := "http://www.w3.org/2001/XMLSchema#float"

def double := "http://www.w3.org/2001/XMLSchema#double"

def dateTime := "http://www.w3.org/2001/XMLSchema#dateTime"

/-- The datatypes whose literals are numbers. -/
def numeric : List String := [integer, int, decimal, float, double]

def isNumeric (iri : String) : Bool := numeric.contains iri

end Xsd

namespace Owl

def sameAs := "http://www.w3.org/2002/07/owl#sameAs"

def functionalProperty := "http://www.w3.org/2002/07/owl#FunctionalProperty"

def inverseFunctionalProperty := "http://www.w3.org/2002/07/owl#InverseFunctionalProperty"

end Owl

/-- The context of a statement that is added without one. -/
def defaultGraphIri := "urn:x-quadstore:default-graph"

/-- Every IRI above under its customary short name. -/
def shortNames : List (String × String) :=
  [("rdf:type", Rdf.type), ("rdf:langString", Rdf.langString), ("rdf:first", Rdf.first),
   ("rdf:rest", Rdf.rest), ("rdf:nil", Rdf.nil), ("xsd:string", Xsd.string),
   ("xsd:boolean", Xsd.boolean), ("xsd:integer", Xsd.integer), ("xsd:int", Xsd.int),
   ("xsd:decimal", Xsd.decimal), ("xsd:float", Xsd.float), ("xsd:double", Xsd.double),
   ("xsd:dateTime", Xsd.dateTime), ("owl:sameAs", Owl.sameAs),
   ("owl:FunctionalProperty", Owl.functionalProperty),
   ("owl:InverseFunctionalProperty", Owl.inverseFunctionalProperty),
   ("store:default", defaultGraphIri)]

end QuadGraph
