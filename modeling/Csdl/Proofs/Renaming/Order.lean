import Csdl.Proofs.Metadata.Announcement
import Csdl.Proofs.Metadata.Content

/-! Documents whose schemas declare the same types in another order. They have the same schemas, one
by one, and the same names are declared in them. -/
namespace Csdl

open Query (bind_eq_ok)

/-- Two nodes of one name with the same attributes, whose children are related one by one. -/
structure Xml.Node.Matches (R : Node → Node → Prop) (node node' : Node) : Prop where
  name_eq : node'.name = node.name
  isElement_eq : node'.isElement = node.isElement
  attributes_eq : node'.attributes = node.attributes
  children_related : List.Forall₂ R node.children node'.children

/-- Two elements of schemas with the same children in another order. Only containers have the same
order in both. -/
structure Schema.Reordered (node node' : Xml.Node) : Prop where
  name_eq : node'.name = node.name
  isElement_eq : node'.isElement = node.isElement
  attributes_eq : node'.attributes = node.attributes
  children_perm : node'.children.Perm node.children
  containers_eq : Markup.children node' "EntityContainer" = Markup.children node "EntityContainer"

/-- Two documents that differ in the order of declarations within their schemas alone. -/
def Xml.Document.Reordered (document document' : Document) : Prop :=
  Node.Matches (Node.Matches Schema.Reordered) document.root document'.root

theorem Schema.Reordered.symm {node node' : Xml.Node} (h : Reordered node node') :
    Reordered node' node :=
  ⟨h.name_eq.symm, h.isElement_eq.symm, h.attributes_eq.symm, h.children_perm.symm,
    h.containers_eq.symm⟩

theorem Xml.Node.Matches.symm {R : Node → Node → Prop} (hSymm : ∀ n n', R n n' → R n' n)
    {node node' : Node} (h : Matches R node node') : Matches R node' node :=
  ⟨h.name_eq.symm, h.isElement_eq.symm, h.attributes_eq.symm,
    (h.children_related.imp hSymm).flip⟩

/-- A rearrangement of a document can be taken back. -/
theorem Xml.Document.Reordered.symm {document document' : Document}
    (h : document.Reordered document') : document'.Reordered document := by
  have hServices : ∀ n n', Node.Matches Schema.Reordered n n' →
      Node.Matches Schema.Reordered n' n :=
    fun _ _ => Node.Matches.symm fun _ _ => Schema.Reordered.symm
  exact Node.Matches.symm hServices h

theorem Xml.Node.attribute?_eq {node node' : Node} (h : node'.attributes = node.attributes)
    (label : String) : node'.attribute? label = node.attribute? label := by
  rw [attribute?, attribute?, h]

/-- Related children are elements at the same places. -/
theorem Xml.Node.Matches.childElements {R : Node → Node → Prop}
    (hElement : ∀ n n', R n n' → n'.isElement = n.isElement)
    {node node' : Node} (h : Matches R node node') :
    List.Forall₂ R node.childElements node'.childElements := by
  refine List.rel_filter (fun n n' hRelated => ?_) h.children_related
  dsimp only
  rw [hElement n n' hRelated]

/-- Related children of one name are at the same places. -/
theorem Xml.Node.Matches.childrenNamed {R : Node → Node → Prop}
    (hName : ∀ n n', R n n' → n'.name = n.name)
    (hElement : ∀ n n', R n n' → n'.isElement = n.isElement)
    {node node' : Node} (h : Matches R node node') (namespaceName label : String) :
    List.Forall₂ R (node.childrenNamed namespaceName label)
      (node'.childrenNamed namespaceName label) := by
  refine List.rel_filter (fun n n' hRelated => ?_) (h.childElements hElement)
  dsimp only
  rw [hName n n' hRelated]

namespace Schema

theorem Reordered.children_perm_of_label {node node' : Xml.Node} (h : Reordered node node')
    (label : String) : (Markup.children node' label).Perm (Markup.children node label) :=
  (h.children_perm.filter _).filter _

/-- Two schemas of one namespace that declare the same types. -/
structure Alike (schema schema' : Schema) : Prop where
  namespace_eq : schema'.namespaceName = schema.namespaceName
  reordered : Reordered schema.node schema'.node

/-- Aliases depend on the attributes of schemas alone. -/
theorem aliases_eq {R : Schema → Schema → Prop}
    (hNamespace : ∀ schema schema', R schema schema' →
      schema'.namespaceName = schema.namespaceName)
    (hAttributes : ∀ schema schema', R schema schema' →
      schema'.node.attributes = schema.node.attributes)
    {schemas schemas' : List Schema} (h : List.Forall₂ R schemas schemas') :
    aliases schemas' = aliases schemas := by
  rw [aliases, aliases]
  generalize ({} : AliasTable) = table
  induction h generalizing table with
  | nil => rfl
  | cons hHead _ ih =>
      rw [List.foldl_cons, List.foldl_cons, ih, addAlias, addAlias, hNamespace _ _ hHead,
        Xml.Node.attribute?_eq (hAttributes _ _ hHead)]

theorem flatMap_perm {β : Type} {f f' : Schema → List β}
    (hPerm : ∀ {schema schema'}, Alike schema schema' → (f' schema').Perm (f schema))
    {schemas schemas' : List Schema} (h : List.Forall₂ Alike schemas schemas') :
    (schemas'.flatMap f').Perm (schemas.flatMap f) := by
  induction h with
  | nil => exact .refl _
  | cons hHead _ ih => exact (hPerm hHead).append ih

/-- Rearranged schemas declare the same enumerations in some order. -/
theorem declaredEnumerations_perm {schemas schemas' : List Schema}
    (h : List.Forall₂ Alike schemas schemas') :
    (declaredEnumerations schemas').Perm (declaredEnumerations schemas) := by
  refine flatMap_perm (fun hAlike => ?_) h
  rw [hAlike.namespace_eq]
  exact (hAlike.reordered.children_perm_of_label "EnumType").map _

/-- Rearranged schemas declare the same structures in some order. -/
theorem declaredStructures_perm {schemas schemas' : List Schema}
    (h : List.Forall₂ Alike schemas schemas') :
    (declaredStructures schemas').Perm (declaredStructures schemas) := by
  refine flatMap_perm (fun hAlike => ?_) h
  rw [hAlike.namespace_eq]
  refine List.Perm.map _ (List.Perm.flatMap_left _ fun kind _ => ?_)
  exact (hAlike.reordered.children_perm_of_label kind.label).map _

/-- Rearranged schemas have the same members in the same order. -/
theorem members_eq {schemas schemas' : List Schema} (h : List.Forall₂ Alike schemas schemas') :
    schemas'.flatMap members = schemas.flatMap members := by
  induction h with
  | nil => rfl
  | cons hHead _ ih =>
      rw [List.flatMap_cons, List.flatMap_cons, ih, members, members,
        hHead.reordered.containers_eq, hHead.namespace_eq]

/-- Elements of the same attributes are schemas of one namespace. -/
theorem ofNode_eq_ok_of_attributes_eq {node node' : Xml.Node} {schema : Schema}
    (h : node'.attributes = node.attributes) (hSchema : ofNode node = .ok schema) :
    schema.node = node ∧ ofNode node' = .ok ⟨schema.namespaceName, node'⟩ ∧
      node.attribute? "Namespace" = some schema.namespaceName := by
  obtain ⟨namespaceName, hNamespace, hEq⟩ := bind_eq_ok.1 hSchema
  cases hEq
  rw [Markup.required_eq_ok] at hNamespace
  refine ⟨rfl, bind_eq_ok.2 ⟨namespaceName, ?_, rfl⟩, hNamespace⟩
  rw [Markup.required_eq_ok, Xml.Node.attribute?_eq h, hNamespace]

/-- Schemas are read of related elements one by one, to related schemas. -/
theorem exists_mapM_ofNode {R : Xml.Node → Xml.Node → Prop} {S : Schema → Schema → Prop}
    (hStep : ∀ node node' schema, R node node' → ofNode node = .ok schema →
      ∃ schema', ofNode node' = .ok schema' ∧ S schema schema')
    {nodes nodes' : List Xml.Node} {schemas : List Schema} (h : List.Forall₂ R nodes nodes')
    (hSchemas : nodes.mapM ofNode = .ok schemas) :
    ∃ schemas', nodes'.mapM ofNode = .ok schemas' ∧ List.Forall₂ S schemas schemas' := by
  have hSteps := mapM_eq_ok.1 hSchemas
  clear hSchemas
  induction h generalizing schemas with
  | nil =>
      cases hSteps
      exact ⟨[], rfl, .nil⟩
  | cons hHead _ ih =>
      cases hSteps with
      | cons hFirst hRest =>
          obtain ⟨first', hFirst', hSame⟩ := hStep _ _ _ hHead hFirst
          obtain ⟨rest', hRest', hAll⟩ := ih hRest
          exact ⟨first' :: rest', mapM_eq_ok.2 (.cons hFirst' (mapM_eq_ok.1 hRest')),
            .cons hSame hAll⟩

end Schema

/-- Where the schemas of two documents are related one by one, so is what is read from them. -/
theorem Metadata.exists_schemas {R : Xml.Node → Xml.Node → Prop} {S : Schema → Schema → Prop}
    (hName : ∀ n n', R n n' → n'.name = n.name)
    (hElement : ∀ n n', R n n' → n'.isElement = n.isElement)
    (hStep : ∀ node node' schema, R node node' → Schema.ofNode node = .ok schema →
      ∃ schema', Schema.ofNode node' = .ok schema' ∧ S schema schema')
    {root root' : Xml.Node} {schemas : List Schema}
    (h : Xml.Node.Matches (Xml.Node.Matches R) root root')
    (hSchemas : Metadata.schemas root = .ok schemas) :
    ∃ schemas', Metadata.schemas root' = .ok schemas' ∧ List.Forall₂ S schemas schemas' := by
  have hServices := h.childrenNamed (fun _ _ => (·.name_eq)) (fun _ _ => (·.isElement_eq))
    Markup.edmx "DataServices"
  unfold Metadata.schemas at hSchemas ⊢
  generalize root.childrenNamed Markup.edmx "DataServices" = services at hServices hSchemas
  generalize root'.childrenNamed Markup.edmx "DataServices" = services' at hServices ⊢
  cases hServices with
  | nil => cases hSchemas
  | cons hHead hTail =>
      refine Schema.exists_mapM_ofNode hStep ?_ hSchemas
      apply List.rel_flatMap (.cons hHead hTail)
      intro _ _ hMatches
      exact hMatches.childrenNamed hName hElement _ _

/-- The schemas of a reordered document are alike, one by one. -/
theorem Metadata.schemas_reordered {root root' : Xml.Node} {schemas : List Schema}
    (h : Xml.Node.Matches (Xml.Node.Matches Schema.Reordered) root root')
    (hSchemas : Metadata.schemas root = .ok schemas) :
    ∃ schemas', Metadata.schemas root' = .ok schemas' ∧
      List.Forall₂ Schema.Alike schemas schemas' := by
  refine exists_schemas (fun _ _ => (·.name_eq)) (fun _ _ => (·.isElement_eq)) ?_ h hSchemas
  intro node node' schema hReordered hSchema
  obtain ⟨hNode, hSchema', _⟩ :=
    Schema.ofNode_eq_ok_of_attributes_eq hReordered.attributes_eq hSchema
  exact ⟨_, hSchema', rfl, hNode ▸ hReordered⟩

end Csdl
