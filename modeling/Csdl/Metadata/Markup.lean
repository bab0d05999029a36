import Csdl.Error
import Csdl.Xml.Node

/-!
The markup of metadata documents: the namespaces of their elements, and the attributes that an
element has to have.
-/

namespace Csdl.Markup

/-- The namespace of the elements that describe a model. -/
def edm : String := "http://docs.oasis-open.org/odata/ns/edm"

/-- The namespace of the elements around a model. -/
def edmx : String := "http://docs.oasis-open.org/odata/ns/edmx"

/-- The child elements of a label that describe a model. -/
def children (node : Xml.Node) (label : String) : List Xml.Node :=
  node.childrenNamed edm label

/-- The value of an attribute that an element has to have. -/
def required (node : Xml.Node) (label : String) : Except Error String :=
  match node.attribute? label with
  | some value => .ok value
  | none => .error (.format (.missingAttribute node.label label))

/-- The value of an attribute that each of some elements has to have. -/
def requiredOfAll (nodes : List Xml.Node) (label : String) : Except Error (List String) :=
  nodes.mapM (required · label)

end Csdl.Markup
