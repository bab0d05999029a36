import Csdl.Proofs.Commutation
import Csdl.Proofs.Metadata.Integrity
import Csdl.Proofs.Query.Remarks

/-! Remarks do not matter in metadata. Each stage gives for a document without remarks what it gives
for the document itself, so documents that differ in remarks define the same, or fail alike. -/
namespace Csdl

open Xml.Node (attribute?_plain label_plain name_plain childElements_plain childrenNamed_plain)

namespace Markup

theorem children_plain (node : Xml.Node) (label : String) :
    children node.plain label = (children node label).map Xml.Node.plain :=
  node.childrenNamed_plain edm label

theorem required_plain (node : Xml.Node) (label : String) :
    required node.plain label = required node label := by
  simp only [required, attribute?_plain, label_plain]

theorem requiredOfAll_plain (nodes : List Xml.Node) (label : String) :
    requiredOfAll (nodes.map Xml.Node.plain) label = requiredOfAll nodes label := by
  simp only [requiredOfAll, List.mapM_map, Function.comp_def, required_plain]

end Markup

/-- A schema without remarks. -/
def Schema.plain (schema : Schema) : Schema :=
  { schema with node := schema.node.plain }

/-- A declaration without remarks. -/
def Declaration.plain (declaration : Declaration) : Declaration :=
  { declaration with node := declaration.node.plain }

/-- What has been announced, without remarks. -/
def plainDeclared (declared : Registry × List Declaration) : Registry × List Declaration :=
  (declared.1, declared.2.map Declaration.plain)

/-- A content whose declaration is without remarks. -/
def Content.plain (content : Content) : Content :=
  { content with declaration := content.declaration.plain }

/-- A member without remarks. -/
def MemberNode.plain (member : MemberNode) : MemberNode :=
  { member with node := member.node.plain }

namespace Schema

variable (schema : Schema)

theorem children_plain (label : String) : Markup.children schema.plain.node label =
    (Markup.children schema.node label).map Xml.Node.plain :=
  Markup.children_plain schema.node label

theorem ofNode_plain (node : Xml.Node) : ofNode node.plain = Schema.plain <$> ofNode node := by
  simp only [ofNode, Markup.required_plain, map_bind, map_pure]
  rfl

/-- Remarks do not show in the aliases. -/
theorem aliases_plain (schemas : List Schema) : aliases (schemas.map plain) = aliases schemas := by
  have hAdd : ∀ (table : AliasTable) (schema : Schema),
      addAlias table schema.plain = addAlias table schema := by
    intro table schema
    have hAlias : schema.plain.node.attribute? "Alias" = schema.node.attribute? "Alias" :=
      schema.node.attribute?_plain "Alias"
    simp only [addAlias, hAlias]
    rfl
  simp only [aliases, List.foldl_map, hAdd]

/-- Remarks do not show where an enumeration is registered. -/
theorem registerEnumeration_plain (registry : Registry) (node : Xml.Node) :
    schema.plain.registerEnumeration registry node.plain =
      schema.registerEnumeration registry node := by
  simp only [registerEnumeration, Markup.required_plain, Markup.children_plain,
    Markup.requiredOfAll_plain]
  rfl

theorem registerEnumerations_plain (registry : Registry) :
    registerEnumerations registry schema.plain = registerEnumerations registry schema := by
  simp only [registerEnumerations, children_plain, List.foldlM_map, registerEnumeration_plain]

theorem structureNodes_plain : schema.plain.structureNodes =
    schema.structureNodes.map fun declared => (declared.1, declared.2.plain) := by
  simp only [structureNodes, children_plain, List.map_flatMap, List.map_map, Function.comp_def]

/-- Remarks do not show where a structure is announced, but for the element that waits to be
read. -/
theorem announce_plain (settings : Settings) (state : Registry × List Declaration)
    (declared : StructureKind × Xml.Node) :
    schema.plain.announce settings (plainDeclared state) (declared.1, declared.2.plain) =
      plainDeclared <$> schema.announce settings state declared := by
  simp only [announce, Markup.required_plain, map_bind, map_pure, plainDeclared, List.map_append]
  rfl

/-- The structures of a schema are announced alike. -/
theorem announceAll_plain (settings : Settings) (state : Registry × List Declaration) :
    announceAll settings (plainDeclared state) schema.plain =
      plainDeclared <$> announceAll settings state schema := by
  rw [announceAll, structureNodes_plain]
  exact foldlM_map_comm (fun state declared _ => announce_plain schema settings state declared) state

theorem memberKind?_plain (node : Xml.Node) : memberKind? node.plain = memberKind? node := by
  simp only [memberKind?, name_plain, label_plain]

/-- The members of a schema are the same. -/
theorem members_plain : schema.plain.members = schema.members.map MemberNode.plain := by
  have hContainer : ∀ container : Xml.Node,
      (container.plain.childElements.filterMap fun node =>
        (memberKind? node).map fun kind => MemberNode.mk schema.namespaceName kind node) =
      (container.childElements.filterMap fun node =>
        (memberKind? node).map fun kind => MemberNode.mk schema.namespaceName kind node).map
          MemberNode.plain := by
    intro container
    rw [childElements_plain, List.filterMap_map, List.map_filterMap]
    refine List.filterMap_congr fun node _ => ?_
    rw [Function.comp_apply, memberKind?_plain, Option.map_map]
    rfl
  rw [members, children_plain, List.flatMap_map, members, List.map_flatMap]
  exact congrArg (List.flatMap · _) (funext hContainer)

end Schema

namespace Content

variable (scope : Scope)

theorem readField_plain (node : Xml.Node) : readField scope node.plain = readField scope node := by
  simp only [readField, Markup.required_plain, attribute?_plain]

/-- Remarks do not show in the base of a structure. -/
theorem readBase_plain (declaration : Declaration) :
    readBase scope declaration.plain = readBase scope declaration := by
  have hBase : declaration.plain.node.attribute? "BaseType" =
      declaration.node.attribute? "BaseType" := declaration.node.attribute?_plain "BaseType"
  simp only [readBase, hBase]
  rfl

theorem readConstraint_plain (node : Xml.Node) : readConstraint node.plain = readConstraint node := by
  simp only [readConstraint, Markup.required_plain]

/-- Remarks do not show in a relation, since only elements are asked for in it. -/
theorem readRelation_plain (declaration : Declaration) (node : Xml.Node) :
    readRelation scope declaration.plain node.plain = readRelation scope declaration node := by
  simp only [readRelation, readField_plain, Markup.children_plain, List.mapM_map,
    Function.comp_def, readConstraint_plain, attribute?_plain]
  rfl

/-- The element of a declaration says the same. -/
theorem read_plain (declaration : Declaration) :
    read scope declaration.plain = Content.plain <$> read scope declaration := by
  have hNode : declaration.plain.node = declaration.node.plain := rfl
  simp only [read, hNode, readBase_plain, Markup.children_plain, List.mapM_map, Function.comp_def,
    readField_plain, readRelation_plain, List.flatMap_map, ← List.map_flatMap,
    Markup.requiredOfAll_plain, map_bind, map_pure]
  rfl

theorem fillAll_plain (stubs : Registry) (contents : List Content) :
    fillAll stubs (contents.map Content.plain) = fillAll stubs contents := by
  simp only [fillAll, List.foldlM_map, List.any_map]
  rfl

theorem notedNavigations_plain (contents : List Content) :
    notedNavigations (contents.map Content.plain) = notedNavigations contents := by
  rw [notedNavigations, List.flatMap_map]
  rfl

end Content

namespace Derivation

variable (settings : Settings) (aliases : AliasTable) (navigations : List Navigation)

/-- A member is derived alike. -/
theorem step_plain (state : Derivation) (member : MemberNode) :
    step settings aliases navigations state member.plain =
      step settings aliases navigations state member := by
  have hNode : member.plain.node = member.node.plain := rfl
  have hCapabilities : capabilities state.cache member.plain = capabilities state.cache member :=
    congrArg (fun read => read.run.run state.cache)
      (Capabilities.read_plain ⟨[], member.node⟩ member.kind)
  simp only [step, hNode, Markup.required_plain, hCapabilities]
  rfl

end Derivation

namespace Metadata

variable (settings : Settings)

/-- Schemas are read of a document without its remarks as they are read of the document. -/
theorem schemas_plain (root : Xml.Node) :
    schemas root.plain = List.map Schema.plain <$> schemas root := by
  have hOfNode : ∀ nodes : List Xml.Node, (nodes.map Xml.Node.plain).mapM Schema.ofNode =
      List.map Schema.plain <$> nodes.mapM Schema.ofNode := fun nodes =>
    mapM_map_comm fun node _ => Schema.ofNode_plain node
  simp only [schemas, childrenNamed_plain]
  cases root.childrenNamed Markup.edmx "DataServices" with
  | nil => rfl
  | cons service services =>
      simp only [List.map_cons, ← hOfNode, List.flatMap_cons, List.map_append, List.map_flatMap,
        List.flatMap_map, Markup.children_plain]

/-- The types of a document are declared alike. -/
theorem declare_plain (schemas : List Schema) :
    declare settings (schemas.map Schema.plain) = plainDeclared <$> declare settings schemas := by
  have hFold : ∀ state, (schemas.map Schema.plain).foldlM (Schema.announceAll settings)
      (plainDeclared state) = plainDeclared <$> schemas.foldlM (Schema.announceAll settings) state :=
    fun state => foldlM_map_comm
      (fun state schema _ => Schema.announceAll_plain schema settings state) state
  have hAnnounced : ∀ registry : Registry,
      (schemas.map Schema.plain).foldlM (Schema.announceAll settings) (registry, []) =
        plainDeclared <$> schemas.foldlM (Schema.announceAll settings) (registry, []) :=
    fun registry => hFold (registry, [])
  have hEnumerations : (schemas.map Schema.plain).foldlM Schema.registerEnumerations {} =
      schemas.foldlM Schema.registerEnumerations {} := by
    simp only [List.foldlM_map, Schema.registerEnumerations_plain]
  simp only [declare, hEnumerations, hAnnounced, Schema.aliases_plain, List.length_map,
    bind_map_left, map_bind, map_pure]
  rfl

/-- The structures of a document are completed alike. -/
theorem complete_plain (aliases : AliasTable) (stubs : Registry)
    (declarations : List Declaration) :
    complete aliases stubs (declarations.map Declaration.plain) =
      complete aliases stubs declarations := by
  have hContents : (declarations.map Declaration.plain).mapM (Content.read ⟨aliases, stubs⟩) =
      List.map Content.plain <$> declarations.mapM (Content.read ⟨aliases, stubs⟩) :=
    mapM_map_comm fun declaration _ => Content.read_plain ⟨aliases, stubs⟩ declaration
  simp only [complete, hContents, bind_map_left, Content.fillAll_plain, Content.navigations,
    Content.links, Content.notedNavigations_plain]

/-- The members of a document are derived alike. -/
theorem derive_plain (schemas : List Schema) (registry : Registry)
    (navigations : List Navigation) :
    derive settings (schemas.map Schema.plain) registry navigations =
      derive settings schemas registry navigations := by
  have hMembers : (schemas.map Schema.plain).flatMap Schema.members =
      (schemas.flatMap Schema.members).map MemberNode.plain := by
    rw [List.flatMap_map, List.map_flatMap]
    exact congrArg (List.flatMap · schemas) (funext Schema.members_plain)
  simp only [derive, hMembers, List.foldlM_map, Derivation.step_plain, Schema.aliases_plain]

/-- What a document defines is seen from its root without remarks. -/
theorem walk_plain {location : Location} {document document' : Xml.Document}
    (h : document'.root = document.root.plain) :
    walk settings location document' = walk settings location document := by
  have hSchemas : Logged.ofExcept (schemas document.root.plain) =
      List.map Schema.plain <$> Logged.ofExcept (schemas document.root) := by
    rw [schemas_plain]
    cases schemas document.root <;> rfl
  simp only [walk, h, label_plain, attribute?_plain, hSchemas, bind_map_left, declare_plain,
    Schema.aliases_plain, plainDeclared, complete_plain, derive_plain]

/-- Documents that differ in remarks define the same or fail alike, whatever the service and the
settings, and reading them tells the same events. -/
theorem walk_of_sameButRemarks {location : Location} {document document' : Xml.Document}
    (h : document.SameButRemarks document') :
    walk settings location document' = walk settings location document := by
  have hPlain : ∀ document : Xml.Document,
      walk settings location ⟨[], document.root.plain, []⟩ = walk settings location document :=
    fun document => walk_plain settings rfl
  rw [← hPlain document', ← hPlain document, h.plain_eq]

/-- A set of records with a path to what may not be inserted. -/
def sampleRestricted (before path : List Xml.Node) : Xml.Document :=
  { sampleDocument [sampleRecord,
      sampleElement "EntityContainer" [("Name", "Service")] [
        sampleElement "EntitySet" [("Name", "Records"), ("EntityType", "Shop.Record")] [
          sampleElement "Annotation" [("Term", "Org.OData.Capabilities.V1.InsertRestrictions")] [
            sampleElement "Record" [] [
              sampleElement "PropertyValue" [("Property", "NonInsertableProperties")] [
                sampleElement "Collection" [] [sampleElement "PropertyPath" [] path]]]]]]] with
    before }

/-- A comment cuts the path in two, and there is an instruction in front of the document. -/
theorem sampleRestricted_sameButRemarks :
    (sampleRestricted [] [.text "number"]).SameButRemarks
      (sampleRestricted [.instruction "style" "plain"]
        [.text "num", .comment "cut here", .text "ber"]) := by
  have hPath : Xml.Node.Inserts [.text "number"] [.text "num", .comment "cut here", .text "ber"] :=
    .split rfl "num" "ber" []
  refine .trans _ (sampleRestricted [] [.text "num", .comment "cut here", .text "ber"]) _
    (.rel _ _ ?_) (.rel _ _ (.before (.here rfl []) _ _))
  -- the path from the root to the text, one element at a time
  refine .inside [] _ _ (.inside _ _ (.inside _ _ (.later _ (.inside _ _ (.inside _ _ ?_ _) _)) _) _) _
  exact .inside _ _ (.inside _ _ (.inside _ _ (.inside _ _ (.inside _ _ hPath _) _) _) _) _

/-- The restricted properties of the sample, read off the walk itself. -/
theorem restricted_of_sampleRestricted :
    (walk {} ⟨"https", "localhost", "/"⟩ (sampleRestricted [] [.text "number"])).result.toOption.map
      (fun definition => (definition.registry.structureByName? "Shop" "RecordsInsert").map
        (·.restricted)) = some (some ["number"]) := by
  rw [result_walk]
  decide +kernel

/-- What is restricted is read from both parts of the path. -/
theorem walk_of_remarked :
    (walk {} ⟨"https", "localhost", "/"⟩ (sampleRestricted [.instruction "style" "plain"]
        [.text "num", .comment "cut here", .text "ber"])).result.toOption.map
      (fun definition => (definition.registry.structureByName? "Shop" "RecordsInsert").map
        (·.restricted)) = some (some ["number"]) := by
  rw [walk_of_sameButRemarks {} sampleRestricted_sameButRemarks]
  exact restricted_of_sampleRestricted

end Metadata

end Csdl
