import Csdl.Xml.Node
import Mathlib.Logic.Relation

/-! Comments and instructions in documents. They may stand anywhere, also between two parts of a
text. A document without them has the same elements with the same attributes and the same texts
inside. -/
namespace Csdl.Xml

namespace Node

/-- Whether a node is a comment or an instruction. -/
def isRemark : Node → Bool
  | comment _ => true
  | instruction _ _ => true
  | _ => false

/-- A remark is put among nodes, inside one of them, or into a text. -/
inductive Inserts : List Node → List Node → Prop where
  | here {remark : Node} (h : remark.isRemark = true) (nodes : List Node) :
      Inserts nodes (remark :: nodes)
  | split {remark : Node} (h : remark.isRemark = true) (before behind : String)
      (nodes : List Node) :
      Inserts (text (before ++ behind) :: nodes) (text before :: remark :: text behind :: nodes)
  | inside (name : Name) (attributes : List Attribute) {children children' : List Node}
      (h : Inserts children children') (nodes : List Node) :
      Inserts (element name attributes children :: nodes)
        (element name attributes children' :: nodes)
  | later (node : Node) {nodes nodes' : List Node} (h : Inserts nodes nodes') :
      Inserts (node :: nodes) (node :: nodes')

/-- Puts a node in front of others, unless it is a remark. A text is joined with the next one. -/
def joinPlain : Node → List Node → List Node
  | comment _, nodes => nodes
  | instruction _ _, nodes => nodes
  | text before, text behind :: nodes => text (before ++ behind) :: nodes
  | node, nodes => node :: nodes

mutual

/-- A node without the remarks in it. -/
def plain : Node → Node
  | element name attributes children => element name attributes (plainAll children)
  | text content => text content
  | comment content => comment content
  | instruction target content => instruction target content

/-- Nodes without remarks among them and in them. -/
def plainAll : List Node → List Node
  | [] => []
  | node :: nodes => joinPlain (plain node) (plainAll nodes)

end

theorem plain_of_isRemark {node : Node} (h : node.isRemark = true) : node.plain = node := by
  cases node <;> simp_all [isRemark, plain]

theorem joinPlain_of_isRemark {node : Node} (h : node.isRemark = true) (nodes : List Node) :
    joinPlain node nodes = nodes := by
  cases node <;> simp_all [isRemark, joinPlain]

/-- The parts of a text are joined in any order. -/
theorem joinPlain_text (before behind : String) (nodes : List Node) :
    joinPlain (text before) (joinPlain (text behind) nodes) =
      joinPlain (text (before ++ behind)) nodes := by
  rcases nodes with _ | ⟨_ | _ | _ | _, nodes⟩ <;> simp [joinPlain, String.append_assoc]

/-- Remarks do not show in what is left without them. -/
theorem Inserts.plainAll_eq {nodes nodes' : List Node} (h : Inserts nodes nodes') :
    plainAll nodes' = plainAll nodes := by
  induction h with
  | here h nodes => rw [plainAll, plain_of_isRemark h, joinPlain_of_isRemark h]
  | split h before behind nodes =>
      simp only [plainAll, plain, plain_of_isRemark h, joinPlain_of_isRemark h, joinPlain_text]
  | inside name attributes _ nodes ih => rw [plainAll, plainAll, plain, plain, ih]
  | later node _ ih => rw [plainAll, plainAll, ih]

section Views

variable (node : Node)

@[simp]
theorem name_plain : node.plain.name = node.name := by
  cases node <;> rfl

@[simp]
theorem label_plain : node.plain.label = node.label :=
  congrArg Name.label node.name_plain

@[simp]
theorem attributes_plain : node.plain.attributes = node.attributes := by
  cases node <;> rfl

@[simp]
theorem attribute?_plain (label : String) : node.plain.attribute? label = node.attribute? label := by
  rw [attribute?, attributes_plain, attribute?]

@[simp]
theorem anyAttribute?_plain (label : String) :
    node.plain.anyAttribute? label = node.anyAttribute? label := by
  rw [anyAttribute?, attributes_plain, anyAttribute?]

@[simp]
theorem isElement_plain : node.plain.isElement = node.isElement := by
  cases node <;> rfl

end Views

/-- Elements stay as they are when texts come together. -/
theorem filter_joinPlain (node : Node) (nodes : List Node) :
    (joinPlain node nodes).filter isElement = [node].filter isElement ++ nodes.filter isElement := by
  rcases node with _ | _ | _ | _
  · rfl
  · rcases nodes with _ | ⟨_ | _ | _ | _, nodes⟩ <;> rfl
  · rfl
  · rfl

/-- The elements among nodes without remarks are the elements without remarks. -/
theorem filter_plainAll (nodes : List Node) :
    (plainAll nodes).filter isElement = (nodes.filter isElement).map plain := by
  induction nodes with
  | nil => rfl
  | cons node nodes ih =>
      rw [plainAll, filter_joinPlain, ih]
      cases hElement : node.isElement <;> simp [hElement]

/-- The child elements without remarks are the child elements, each without remarks. -/
@[simp]
theorem childElements_plain (node : Node) :
    node.plain.childElements = node.childElements.map plain := by
  cases node with
  | element name attributes children => exact filter_plainAll children
  | _ => rfl

/-- The children of a name are found in a node without remarks as they are in the node. -/
@[simp]
theorem childrenNamed_plain (node : Node) (namespaceName label : String) :
    node.plain.childrenNamed namespaceName label =
      (node.childrenNamed namespaceName label).map plain := by
  simp only [childrenNamed, childElements_plain, List.filter_map, Function.comp_def, name_plain]

/-- The children of a label are found in a node without remarks as they are in the node. -/
@[simp]
theorem childrenLabelled_plain (node : Node) (label : String) :
    node.plain.childrenLabelled label = (node.childrenLabelled label).map plain := by
  simp only [childrenLabelled, childElements_plain, List.filter_map, Function.comp_def,
    label_plain]

/-- Texts that come together when a remark between them is left out read the same as before. -/
theorem join_textsIn_joinPlain (node : Node) (nodes : List Node) :
    String.join (textsIn (joinPlain node nodes)) =
      String.join node.texts ++ String.join (textsIn nodes) := by
  rcases node with _ | _ | _ | _
  · simp [joinPlain, textsIn]
  · rcases nodes with _ | ⟨_ | _ | _ | _, nodes⟩ <;>
      simp [joinPlain, textsIn, texts, String.append_assoc]
  · simp [joinPlain, texts]
  · simp [joinPlain, texts]

mutual

/-- A node without remarks has the same text in it. -/
theorem join_texts_plain : ∀ node : Node, String.join node.plain.texts = String.join node.texts
  | element _ _ children => join_textsIn_plainAll children
  | text _ => rfl
  | comment _ => rfl
  | instruction _ _ => rfl

/-- Nodes without remarks have the same text in them. -/
theorem join_textsIn_plainAll :
    ∀ nodes : List Node, String.join (textsIn (plainAll nodes)) = String.join (textsIn nodes)
  | [] => rfl
  | node :: nodes => by
      rw [plainAll, join_textsIn_joinPlain, join_texts_plain node, join_textsIn_plainAll nodes,
        textsIn, String.join_append]

end

/-- The text in a node stays as it is, although it may come in other parts. -/
@[simp]
theorem innerText_plain (node : Node) : node.plain.innerText = node.innerText :=
  join_texts_plain node

end Node

namespace Document

/-- A remark is put into a document: before its root, inside it, or behind it. -/
inductive Inserts : Document → Document → Prop where
  | before {nodes nodes' : List Node} (h : Node.Inserts nodes nodes') (root : Node)
      (after : List Node) : Inserts ⟨nodes, root, after⟩ ⟨nodes', root, after⟩
  | inside (before : List Node) (name : Name) (attributes : List Attribute)
      {children children' : List Node} (h : Node.Inserts children children') (after : List Node) :
      Inserts ⟨before, .element name attributes children, after⟩
        ⟨before, .element name attributes children', after⟩
  | after (before : List Node) (root : Node) {nodes nodes' : List Node}
      (h : Node.Inserts nodes nodes') : Inserts ⟨before, root, nodes⟩ ⟨before, root, nodes'⟩

/-- Documents that differ in remarks: one is made of the other by putting remarks in and taking
remarks out. -/
def SameButRemarks : Document → Document → Prop :=
  Relation.EqvGen Inserts

/-- Without remarks the roots are the same. -/
theorem SameButRemarks.plain_eq {document document' : Document}
    (h : document.SameButRemarks document') : document'.root.plain = document.root.plain := by
  induction h with
  | rel document document' hInserts =>
      cases hInserts with
      | before _ root after => rfl
      | inside before name attributes hChildren after =>
          rw [Node.plain, Node.plain, hChildren.plainAll_eq]
      | after before root _ => rfl
  | refl document => rfl
  | symm document document' _ ih => exact ih.symm
  | trans document middle document' _ _ ih ih' => exact ih'.trans ih

end Document

end Csdl.Xml
