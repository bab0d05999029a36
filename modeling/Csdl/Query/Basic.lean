import Csdl.Text.Blank
import Csdl.Xml.Node

/-!
Path queries over the elements of a document. A query names a chain of child elements, each with
conditions, and may end in an attribute. Labels count and namespaces do not. Whether a query
selects elements or values is seen from the query alone.
-/

namespace Csdl

namespace Query

/-- What a condition looks at. -/
inductive Operand where
  | ofAttribute (label : String)
  | ofChild (label : String)
  deriving DecidableEq, Repr

/-- A condition: what it looks at equals a literal. -/
structure Predicate where
  operand : Operand
  literal : String
  deriving DecidableEq, Repr

/-- A step to child elements. -/
structure Step where
  label : String
  predicates : List Predicate
  deriving DecidableEq, Repr

end Query

/-- A chain of steps, and the attribute that is read at its end, if one is. -/
structure Query where
  steps : List Query.Step
  value : Option String
  deriving DecidableEq, Repr

namespace Query

/-- A node with its place: the indexes of child elements that lead to it. -/
structure Cursor where
  path : List Nat
  node : Xml.Node
  deriving Repr

/-- The child elements of a node with their places. -/
def Cursor.children (cursor : Cursor) : List Cursor :=
  cursor.node.childElements.zipIdx.map fun (node, index) => ⟨cursor.path ++ [index], node⟩

/-- What a query selects. -/
inductive Selection where
  | elements (found : List Cursor)
  | values (found : List String)
  deriving Repr

/-- Whether a node meets a condition. An attribute is compared as it is, the text of a child
without the blanks around it. -/
def Predicate.holds (predicate : Predicate) (node : Xml.Node) : Bool :=
  match predicate.operand with
  | .ofAttribute label => node.anyAttribute? label = some predicate.literal
  | .ofChild label =>
    node.childElements.any fun child =>
      child.label = label && Text.trim child.innerText = predicate.literal

/-- Whether a node is one that a step leads to. -/
def Step.admits (step : Step) (node : Xml.Node) : Bool :=
  node.label = step.label && step.predicates.all (·.holds node)

/-- The nodes that a step leads to from a list of nodes. -/
def Step.follow (step : Step) (current : List Cursor) : List Cursor :=
  (current.flatMap Cursor.children).filter fun cursor => step.admits cursor.node

/-- The elements at the end of a query's steps. -/
def reach (query : Query) (start : Cursor) : List Cursor :=
  query.steps.foldl (fun current step => step.follow current) [start]

/-- What a query selects from a node on. -/
def evaluate (query : Query) (start : Cursor) : Selection :=
  match query.value with
  | none => .elements (query.reach start)
  | some label => .values ((query.reach start).filterMap (·.node.anyAttribute? label))

/-- What a selection says as texts without the blanks around them. -/
def Selection.strings : Selection → List String
  | elements found => found.map fun cursor => Text.trim cursor.node.innerText
  | values found => found.map Text.trim

end Query

end Csdl
