/-!
Documents as trees of nodes, and the ways to look at a node. Names are expanded: a label and the
namespace it belongs to, if it belongs to one.
-/

namespace Csdl.Xml

/-- A name with its namespace. -/
structure Name where
  namespaceName : Option String
  label : String
  deriving DecidableEq, Repr

/-- An attribute of an element. -/
structure Attribute where
  name : Name
  value : String
  deriving DecidableEq, Repr

/-- A node of a document. -/
inductive Node where
  | element (name : Name) (attributes : List Attribute) (children : List Node)
  | text (content : String)
  | comment (content : String)
  | instruction (target content : String)
  deriving Repr

namespace Node

/-- Whether a node is an element. -/
def isElement : Node → Bool
  | element .. => true
  | _ => false

/-- The name of an element. Other nodes have an empty one. -/
def name : Node → Name
  | element name _ _ => name
  | _ => ⟨none, ""⟩

/-- The name of a node without its namespace. -/
def label (node : Node) : String :=
  node.name.label

/-- The attributes of a node. -/
def attributes : Node → List Attribute
  | element _ attributes _ => attributes
  | _ => []

/-- The children of a node. -/
def children : Node → List Node
  | element _ _ children => children
  | _ => []

/-- The children of a node that are elements. -/
def childElements (node : Node) : List Node :=
  node.children.filter isElement

/-- The value of an attribute that is in no namespace. -/
def attribute? (node : Node) (label : String) : Option String :=
  (node.attributes.find? (·.name = ⟨none, label⟩)).map (·.value)

/-- The value of the first attribute with a label, whatever its namespace. -/
def anyAttribute? (node : Node) (label : String) : Option String :=
  (node.attributes.find? (·.name.label = label)).map (·.value)

/-- The child elements with a label in a namespace. -/
def childrenNamed (node : Node) (namespaceName label : String) : List Node :=
  node.childElements.filter (·.name = ⟨some namespaceName, label⟩)

/-- The child elements with a label, whatever their namespace. -/
def childrenLabelled (node : Node) (label : String) : List Node :=
  node.childElements.filter (·.label = label)

/-- The text of the first child, if that is a text. -/
def leadingText? (node : Node) : Option String :=
  match node.children with
  | text content :: _ => some content
  | _ => none

mutual

/-- The texts in a node, in document order. -/
def texts : Node → List String
  | element _ _ children => textsIn children
  | text content => [content]
  | comment _ => []
  | instruction _ _ => []

/-- The texts in a list of nodes, in document order. -/
def textsIn : List Node → List String
  | [] => []
  | node :: nodes => texts node ++ textsIn nodes

end

/-- All text in a node, at any depth. -/
def innerText (node : Node) : String :=
  String.join node.texts

end Node

/-- A document: its root element between the comments and instructions around it. -/
structure Document where
  before : List Node
  root : Node
  after : List Node
  deriving Repr

/-- The document as a node above its root. -/
def Document.asNode (document : Document) : Node :=
  .element ⟨none, ""⟩ [] (document.before ++ document.root :: document.after)

end Csdl.Xml
