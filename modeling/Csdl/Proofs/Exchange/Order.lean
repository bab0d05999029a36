import Csdl.Proofs.Exchange.Dependence
import Csdl.Proofs.Exchange.Trace
import Csdl.Proofs.Renaming.Order

/-! Documents in whose containers members have been moved past each other. They declare the same
types in the same order, and the members of each schema are the same in another order. -/
namespace Csdl

/-- Two children of a schema: the same one, or containers in which children have been moved past
each other. -/
inductive Schema.ChildMoved (Pass : Xml.Node → Xml.Node → Prop) : Xml.Node → Xml.Node → Prop where
  | same (node : Xml.Node) : ChildMoved Pass node node
  | moved (attributes : List Xml.Attribute) {children children' : List Xml.Node}
      (reorders : Reorders Pass children children') :
      ChildMoved Pass (.element ⟨some Markup.edm, "EntityContainer"⟩ attributes children)
        (.element ⟨some Markup.edm, "EntityContainer"⟩ attributes children')

/-- Children of a container that may be moved past each other, in the container of a schema: if both
are members, none of the two may depend on the other one. -/
def Schema.ChildrenMayPass (aliases : AliasTable) (known : List (String × String))
    (schema child child' : Xml.Node) : Prop :=
  ∀ space ∈ schema.attribute? "Namespace", ∀ kind ∈ memberKind? child,
    ∀ kind' ∈ memberKind? child',
      MemberNode.MayPass aliases known ⟨space, kind, child⟩ ⟨space, kind', child'⟩

instance (aliases : AliasTable) (known : List (String × String))
    (schema child child' : Xml.Node) :
    Decidable (Schema.ChildrenMayPass aliases known schema child child') :=
  inferInstanceAs (Decidable (∀ space ∈ schema.attribute? "Namespace",
    ∀ kind ∈ memberKind? child, ∀ kind' ∈ memberKind? child', _))

/-- Two elements of schemas that are the same but for the order of members in containers. -/
def Schema.Moved (aliases : AliasTable) (known : List (String × String))
    (node node' : Xml.Node) : Prop :=
  Xml.Node.Matches (ChildMoved (ChildrenMayPass aliases known node)) node node'

/-- Two documents that are the same but for the order of members in containers. -/
def Xml.Document.Moved (aliases : AliasTable) (known : List (String × String))
    (document document' : Document) : Prop :=
  Node.Matches (Node.Matches (Schema.Moved aliases known)) document.root document'.root

/-- Two documents that differ in the order of the members within their containers alone, where no
member has been moved past another one that it depends on. -/
def Xml.Document.Exchanged (document document' : Document) : Prop :=
  document.Moved (Schema.aliases (Metadata.namedSchemas document.root))
    (Schema.declaredKeys (Metadata.namedSchemas document.root)) document'

/-- Two schemas that declare the same types in the same order, and the same members in an order that
has been changed where it may be. -/
structure Schema.SameTypes (aliases : AliasTable) (known : List (String × String))
    (schema schema' : Schema) : Prop where
  namespace_eq : schema'.namespaceName = schema.namespaceName
  attributes_eq : schema'.node.attributes = schema.node.attributes
  children_eq : ∀ label, label ≠ "EntityContainer" →
    Markup.children schema'.node label = Markup.children schema.node label
  members_reordered :
    Reorders (MemberNode.MayPass aliases known) schema.members schema'.members

namespace Schema

variable {aliases : AliasTable} {known : List (String × String)}

namespace ChildMoved

variable {Pass : Xml.Node → Xml.Node → Prop} {node node' : Xml.Node}

theorem name_eq (h : ChildMoved Pass node node') : node'.name = node.name := by
  cases h <;> rfl

theorem isElement_eq (h : ChildMoved Pass node node') : node'.isElement = node.isElement := by
  cases h <;> rfl

/-- A child that is moved may be moved back, if moves are allowed both ways. -/
theorem symm (hSymm : ∀ x y, Pass x y → Pass y x) (h : ChildMoved Pass node node') :
    ChildMoved Pass node' node := by
  cases h with
  | same => exact .same _
  | moved attributes reorders => exact .moved attributes (reorders.symm hSymm)

end ChildMoved

/-- Members of a schema that may be moved one way may be moved back. -/
theorem Moved.symm {node node' : Xml.Node} (h : Moved aliases known node node') :
    Moved aliases known node' node := by
  have hPass : ChildrenMayPass aliases known node' = ChildrenMayPass aliases known node := by
    funext child child'
    rw [ChildrenMayPass, ChildrenMayPass, Xml.Node.attribute?_eq h.attributes_eq]
  rw [Moved, hPass]
  exact Xml.Node.Matches.symm (fun _ _ => ChildMoved.symm fun x y pass space hSpace kind hKind kind'
    hKind' => (pass space hSpace kind' hKind' kind hKind).symm) h

/-- Related elements of a list that are the same where they are asked for. -/
theorem filter_eq_of_forall₂ {α : Type} {R : α → α → Prop} {p : α → Bool} {xs ys : List α}
    (hR : ∀ x y, R x y → y = x ∨ (p x = false ∧ p y = false)) (h : List.Forall₂ R xs ys) :
    ys.filter p = xs.filter p := by
  induction h with
  | nil => rfl
  | cons hHead _ ih =>
      rw [List.filter_cons, List.filter_cons, ih]
      rcases hR _ _ hHead with rfl | ⟨hHere, hThere⟩
      · rfl
      · rw [hHere, hThere, if_neg Bool.false_ne_true, if_neg Bool.false_ne_true]

/-- Only containers change. -/
theorem Moved.children_eq {node node' : Xml.Node} (h : Moved aliases known node node')
    {label : String} (hLabel : label ≠ "EntityContainer") :
    Markup.children node' label = Markup.children node label := by
  refine filter_eq_of_forall₂ (fun child child' hChild => ?_)
    (h.childElements fun _ _ => ChildMoved.isElement_eq)
  cases hChild with
  | same => exact .inl rfl
  | moved attributes reorders =>
      have hOther : decide ((⟨some Markup.edm, "EntityContainer"⟩ : Xml.Name) =
          ⟨some Markup.edm, label⟩) = false := by
        rw [decide_eq_false_iff_not]
        rintro ⟨⟩
        exact hLabel rfl
      exact .inr ⟨hOther, hOther⟩

/-- The schemas that elements are have the same types. -/
theorem Moved.exists_ofNode {node node' : Xml.Node} {schema : Schema}
    (h : Moved aliases known node node') (hSchema : ofNode node = .ok schema) :
    ∃ schema', ofNode node' = .ok schema' ∧ SameTypes aliases known schema schema' := by
  obtain ⟨rfl, hSchema', hSpace⟩ := ofNode_eq_ok_of_attributes_eq h.attributes_eq hSchema
  refine ⟨_, hSchema', rfl, h.attributes_eq, fun _ => h.children_eq, ?_⟩
  have hContainers := h.childrenNamed (fun _ _ => ChildMoved.name_eq)
    (fun _ _ => ChildMoved.isElement_eq) Markup.edm "EntityContainer"
  refine Reorders.flatMap (fun container container' hMoved => ?_) hContainers
  cases hMoved with
  | same => exact .refl _
  | moved attributes reorders =>
      refine (reorders.filter _).filterMap fun child child' pass member member' hHere hThere => ?_
      obtain ⟨kind, hKind, rfl⟩ := Option.map_eq_some_iff.1 hHere
      obtain ⟨kind', hKind', rfl⟩ := Option.map_eq_some_iff.1 hThere
      exact pass _ hSpace kind hKind kind' hKind'

theorem SameTypes.structureNodes_eq {schema schema' : Schema}
    (h : SameTypes aliases known schema schema') :
    schema'.structureNodes = schema.structureNodes :=
  List.flatMap_congr fun kind _ => congrArg (List.map fun node => (kind, node))
    (h.children_eq kind.label (by cases kind <;> decide))

section Lists

variable {schemas schemas' : List Schema}
  (h : List.Forall₂ (SameTypes aliases known) schemas schemas')

include h

theorem aliases_eq_of_sameTypes : Schema.aliases schemas' = Schema.aliases schemas :=
  aliases_eq (fun _ _ => SameTypes.namespace_eq) (fun _ _ => SameTypes.attributes_eq) h

/-- Schemas whose members are moved declare the same enumerations in the same order. -/
theorem declaredEnumerations_eq : declaredEnumerations schemas' = declaredEnumerations schemas := by
  induction h with
  | nil => rfl
  | cons hHead _ ih =>
      rw [declaredEnumerations, List.flatMap_cons, hHead.namespace_eq,
        hHead.children_eq "EnumType" (by decide)]
      exact congrArg _ ih

/-- Schemas whose members are moved declare the same structures in the same order. -/
theorem declaredStructures_eq : declaredStructures schemas' = declaredStructures schemas := by
  induction h with
  | nil => rfl
  | cons hHead _ ih =>
      rw [declaredStructures, List.flatMap_cons, hHead.namespace_eq, hHead.structureNodes_eq]
      exact congrArg _ ih

theorem declaredKeys_eq_of_sameTypes : declaredKeys schemas' = declaredKeys schemas := by
  rw [declaredKeys, declaredKeys, enumerationKeys, enumerationKeys, structureKeys, structureKeys,
    declaredEnumerations_eq h, declaredStructures_eq h]

/-- The members of all schemas are in another order that only moves what may be moved. -/
theorem members_reordered :
    Reorders (MemberNode.MayPass aliases known) (schemas.flatMap members)
      (schemas'.flatMap members) :=
  Reorders.flatMap (fun _ _ => SameTypes.members_reordered) h

end Lists

end Schema

namespace Xml.Document

variable {aliases : AliasTable} {known : List (String × String)} {document document' : Document}

/-- What is moved in a document may be moved back. -/
theorem Moved.symm (h : document.Moved aliases known document') :
    document'.Moved aliases known document := by
  have hServices : ∀ n n', Node.Matches (Schema.Moved aliases known) n n' →
      Node.Matches (Schema.Moved aliases known) n' n :=
    fun _ _ => Node.Matches.symm fun _ _ => Schema.Moved.symm
  exact Node.Matches.symm hServices h

/-- Schemas are read of a moved document as they are read of the document, with the same types. -/
theorem Moved.exists_schemas (h : document.Moved aliases known document') {schemas : List Schema}
    (hSchemas : Metadata.schemas document.root = .ok schemas) :
    ∃ schemas', Metadata.schemas document'.root = .ok schemas' ∧
      List.Forall₂ (Schema.SameTypes aliases known) schemas schemas' :=
  Metadata.exists_schemas (fun _ _ => (·.name_eq)) (fun _ _ => (·.isElement_eq))
    (fun _ _ _ => Schema.Moved.exists_ofNode) h hSchemas

end Xml.Document

end Csdl
