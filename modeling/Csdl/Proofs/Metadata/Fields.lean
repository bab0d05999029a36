import Csdl.Proofs.Metadata.Lasting
import Csdl.Proofs.Types.Wrapping

/-! The fields of declared types in the end: one for each property, and behind them one for each
navigation that makes no property a foreign key and whose target has a primary key. -/
namespace Csdl

/-- What a property says of its field, with its type among those of a registry. -/
structure Field.DeclaredBy (registry : Registry) (aliases : AliasTable) (node : Xml.Node)
    (field : Field) : Prop where
  name_eq : node.attribute? "Name" = some field.name
  type_resolved : ∃ written inner depth, node.attribute? "Type" = some written ∧
    Cardinality.Wraps inner.toList depth (Text.trimChars written.toList) ∧
    (field.cardinality = .unbounded ↔ 0 < depth) ∧ registry.refer aliases inner = .ok field.type
  nillable_iff : field.nillable = true ↔
    node.attribute? "Nullable" = none ∨ node.attribute? "Nullable" = some "true"
  required_eq : field.required = !field.nillable
  format_iff : field.format = some .dashedUuid ↔ field.type = .primitive .uuid
  wireName_eq : field.wireName = none
  collectionName_eq : field.collectionName = none
  duplicate_eq : field.duplicate = false

/-- A field without the marks that keys set. -/
def Field.unmarked (field : Field) : Field :=
  { field with primaryKey := false, foreignKey := none }

/-- What an element says of a field has nothing to do with the marks of keys. -/
theorem Field.declaredBy_unmarked {registry : Registry} {aliases : AliasTable} {node : Xml.Node}
    {field : Field} :
    field.unmarked.DeclaredBy registry aliases node ↔ field.DeclaredBy registry aliases node := by
  constructor
  · rintro ⟨hName, hType, hNillable, hRequired, hFormat, hWire, hCollection, hDuplicate⟩
    exact ⟨hName, hType, hNillable, hRequired, hFormat, hWire, hCollection, hDuplicate⟩
  · rintro ⟨hName, hType, hNillable, hRequired, hFormat, hWire, hCollection, hDuplicate⟩
    exact ⟨hName, hType, hNillable, hRequired, hFormat, hWire, hCollection, hDuplicate⟩

/-- The structure that a navigation leads to, with its primary key. -/
def Registry.targetKey? (registry : Registry) (aliases : AliasTable) (node : Xml.Node) :
    Option (Structure × Field) := do
  let reference ← Content.fieldReference? node
  let type ← (registry.refer aliases reference).toOption
  let target ← type.named?
  let keyed ← registry.structure? target
  let key ← registry.primaryKey? target
  return (keyed, key)

/-- Only the names of fields tell whether one is named. -/
theorem Field.isNamed_congr {fields fields' : List Field}
    (h : fields.map (·.name) = fields'.map (·.name)) (name : String) :
    isNamed fields name = isNamed fields' name := by
  have hAny := congrArg (List.any · (· = name)) h
  simpa [isNamed, List.any_map, Function.comp_def] using hAny

namespace Content

/-- Whether a constraint of a navigation names a property of the navigation's owner. -/
def isConstrained (owner node : Xml.Node) : Bool :=
  (Markup.children node "ReferentialConstraint").any fun constraint =>
    (Markup.children owner "Property").any fun property =>
      property.attribute? "Name" = constraint.attribute? "Property"

/-- The cardinality that a navigation is declared with. -/
def cardinality? (node : Xml.Node) : Option Cardinality := do
  let written ← node.attribute? "Type"
  let (_, cardinality) ← (Cardinality.unwrap written).toOption
  return cardinality

/-- The field that a navigation adds to its owner: the primary key of its target under a name of
its own, unless a constraint names a property or there is no such key. -/
def linkField? (registry : Registry) (aliases : AliasTable) (owner node : Xml.Node) :
    Option Field := do
  guard (!isConstrained owner node)
  let name ← node.attribute? "Name"
  let cardinality ← cardinality? node
  let (keyed, key) ← registry.targetKey? aliases node
  return { key with
    name := name ++ "@odata.id"
    required := false
    cardinality
    primaryKey := false
    wireName := none
    foreignKey := some ⟨keyed.id, key.name, name⟩ }

/-- A field that is read says what its element does, in each later registry where the reference
denotes the same. -/
theorem declaredBy_of_readField {scope : Scope} {node : Xml.Node} {field : Field}
    (h : (readField scope node).result = .ok field) {registry : Registry}
    (hLater : ∀ reference, fieldReference? node = some reference →
      scope.refer reference = .ok field.type →
      registry.refer scope.aliases reference = .ok field.type) :
    field.DeclaredBy registry scope.aliases node := by
  obtain ⟨reference, hReference, hRefer⟩ := refer_of_readField h
  obtain ⟨name, written, inner, cardinality, type, hName, hWritten, hUnwrap, hType, rfl⟩ :=
    readField_eq_ok.1 h
  rw [Markup.required_eq_ok] at hName hWritten
  obtain ⟨depth, hWraps, hUnbounded⟩ := Cardinality.unwrap_eq_ok.1 hUnwrap
  have hInner : fieldReference? node = some inner := by
    simp [fieldReference?, hWritten, hUnwrap, Except.toOption]
  refine ⟨hName, ⟨written, inner, depth, hWritten, hWraps, hUnbounded, hLater inner hInner hType⟩,
    ?_, rfl, ?_, rfl, rfl, rfl⟩
  · rw [declaredField]
    cases node.attribute? "Nullable" <;> simp
  · rw [declaredField, formatOf]
    split <;> simp_all

/-- Fields have the names of the properties they come from. -/
theorem Reads.isNamed_eq {scope : Scope} {declaration : Declaration} {properties : List Field}
    {keys : List String} {content : Content} (h : Reads scope declaration properties keys content)
    (name : String) :
    Field.isNamed content.fields name =
      (Markup.children declaration.node "Property").any (·.attribute? "Name" = some name) := by
  have hNames : content.fields.map (·.name) = properties.map (·.name) :=
    h.map_fields (fun _ _ => rfl) fun _ => rfl
  rw [Field.isNamed_congr hNames, Field.isNamed]
  refine (any_eq_of_mapM h.properties_read fun node _ field hRead => ?_).symm
  obtain ⟨_, _, _, _, _, hName, _, _, _, rfl⟩ := readField_eq_ok.1 hRead
  exact decide_eq_decide.2 (by rw [Markup.required_eq_ok.1 hName, Option.some.injEq]; rfl)

/-- A relation makes a property a foreign key exactly if one of its constraints names one. -/
theorem Reads.isReferenced_eq {scope : Scope} {declaration : Declaration}
    {properties : List Field} {keys : List String} {content : Content}
    (h : Reads scope declaration properties keys content) {node : Xml.Node} {relation : Relation}
    (hRead : (readRelation scope declaration node).result = .ok relation) :
    content.isReferenced relation = isConstrained declaration.node node := by
  obtain ⟨field, _, target, constraints, _, _, _, hConstraints, rfl⟩ := readRelation_eq_ok.1 hRead
  rw [isReferenced, isConstrained, declaredRelation, List.any_map]
  refine (any_eq_of_mapM hConstraints fun constraint _ pair hPair => ?_).symm
  obtain ⟨property, hProperty, hRest⟩ := Query.bind_eq_ok.1 hPair
  obtain ⟨referenced, _, hEq⟩ := Query.bind_eq_ok.1 hRest
  cases hEq
  simp only [Function.comp_apply, h.isNamed_eq, Markup.required_eq_ok.1 hProperty]

/-- Where references denote the same, a link makes the field that its navigation describes. -/
theorem Reads.linkField?_eq {scope : Scope} {declaration : Declaration} {properties : List Field}
    {keys : List String} {content : Content} (h : Reads scope declaration properties keys content)
    {registry : Registry} {node : Xml.Node} {relation : Relation}
    (hRead : (readRelation scope declaration node).result = .ok relation)
    (hLater : ∀ reference, fieldReference? node = some reference →
      scope.refer reference = .ok relation.navigation.field.type →
      registry.refer scope.aliases reference = .ok relation.navigation.field.type) :
    linkField? registry scope.aliases declaration.node node =
      if content.isReferenced relation then none
      else Link.field? registry relation.navigation := by
  rw [h.isReferenced_eq hRead, linkField?]
  obtain ⟨field, id, target, constraints, hField, _, _, _, rfl⟩ := readRelation_eq_ok.1 hRead
  obtain ⟨reference, hReference, hRefer⟩ := refer_of_readField hField
  have hTarget := hLater reference hReference hRefer
  obtain ⟨name, written, inner, cardinality, type, hName, hWritten, hUnwrap, _, rfl⟩ :=
    readField_eq_ok.1 hField
  rw [Markup.required_eq_ok] at hName hWritten
  have hCardinality : cardinality? node = some cardinality := by
    simp [cardinality?, hWritten, hUnwrap, Except.toOption]
  cases isConstrained declaration.node node with
  | true => rfl
  | false =>
      change registry.refer scope.aliases reference = .ok type at hTarget
      simp [Registry.targetKey?, hName, hCardinality, hReference, hTarget, Except.toOption,
        Link.field?, Link.fieldName, Navigation.target?, Navigation.name, declaredRelation,
        declaredField, Option.bind_assoc]

end Content

/-- A structure with a field for each property of its declaration, and behind these a field for each
navigation that `completed` gives one. -/
def Structure.DeclaredBy (registry completed : Registry) (aliases : AliasTable) (node : Xml.Node)
    (s : Structure) : Prop :=
  ∃ properties,
    List.Forall₂ (Field.DeclaredBy registry aliases) (Markup.children node "Property") properties ∧
    s.fields = properties ++ (Markup.children node "NavigationProperty").filterMap
      (Content.linkField? completed aliases node)

namespace Metadata

/-- The registry of some schemas once all structures have their content, and no link is made. -/
def Completes (settings : Settings) (schemas : List Schema) (completed : Registry) : Prop :=
  ∃ stubs declarations contents, (declare settings schemas).result = .ok (stubs, declarations) ∧
    declarations.mapM (fun d => (Content.read ⟨Schema.aliases schemas, stubs⟩ d).result) =
      .ok contents ∧
    Content.fillAll stubs contents = .ok completed

theorem Typing.completes {settings : Settings} (typing : Typing settings) :
    Completes settings typing.schemas typing.completed :=
  ⟨_, _, _, declare_eq_ok.2 ⟨_, _, typing.declares⟩, typing.contents_read, typing.completed_eq⟩

/-- The fields of an announced structure in the end. -/
theorem Reading.fields_eq {settings : Settings} {document : Xml.Document}
    (reading : Reading settings document) {content : Content}
    (hContent : content ∈ reading.contents) {declaration : Declaration}
    {properties : List Field} {keys : List String}
    (hReads : Content.Reads reading.scope declaration properties keys content) :
    List.Forall₂ (Field.DeclaredBy reading.final.registry (Schema.aliases reading.schemas))
        (Markup.children declaration.node "Property") content.fields ∧
      reading.linkFields declaration.id =
        (Markup.children declaration.node "NavigationProperty").filterMap
          (Content.linkField? reading.completed (Schema.aliases reading.schemas)
            declaration.node) := by
  have hUnmarked : content.fields.map Field.unmarked = properties.map Field.unmarked :=
    hReads.map_fields (fun _ _ => rfl) fun _ => rfl
  constructor
  · have hProperties : List.Forall₂
        (Field.DeclaredBy reading.final.registry (Schema.aliases reading.schemas))
        (Markup.children declaration.node "Property") (content.fields.map Field.unmarked) := by
      rw [hUnmarked, List.forall₂_map_right_iff]
      apply forall₂_of_mapM hReads.properties_read
      intro node hNode field hRead
      exact Field.declaredBy_unmarked.2 (Content.declaredBy_of_readField hRead fun _ =>
        reading.refer_child_later reading.keeps_final reading.distinct_final hContent hReads
          (List.mem_append_left _ hNode))
    rw [List.forall₂_map_right_iff] at hProperties
    exact hProperties.imp fun _ _ => Field.declaredBy_unmarked.1
  · rw [← hReads.declaration_eq, reading.linkFields_eq hContent, hReads.declaration_eq]
    refine (filterMap_eq_of_mapM hReads.relations_read fun node hNode relation hRead => ?_).symm
    exact hReads.linkField?_eq hRead fun _ =>
      reading.refer_child_later (.refl _) reading.distinct_completed hContent hReads
        (List.mem_append_right _ hNode)

/-- In what a document defines, each declared structure has a field for each property, and behind
these the fields of its links, which hold the primary keys of the registry without any link. No
link changes a primary key. -/
theorem fields_of_walk {settings : Settings} {location : Location} {document : Xml.Document}
    {definition : Definition} (h : (walk settings location document).result = .ok definition) :
    ∃ schemas completed, Metadata.schemas document.root = .ok schemas ∧
      Completes settings schemas completed ∧
      (∀ id, id.index < completed.size →
        definition.registry.primaryKey? id = completed.primaryKey? id) ∧
      ∀ schema ∈ schemas, ∀ declared ∈ schema.structureNodes, ∃ name s,
        declared.2.attribute? "Name" = some name ∧
        definition.registry.structureByName? schema.namespaceName name = some s ∧
        s.DeclaredBy definition.registry completed (Schema.aliases schemas) declared.2 := by
  obtain ⟨reading, rfl⟩ := walk_eq_ok.1 h
  refine ⟨reading.schemas, reading.completed, reading.schemas_read, reading.completes,
    fun id hId => reading.primaryKey?_final hId, fun schema hSchema declared hDeclared => ?_⟩
  have hMem : (schema.namespaceName, declared) ∈ Schema.declaredStructures reading.schemas :=
    List.mem_flatMap.2 ⟨schema, hSchema, List.mem_map_of_mem hDeclared⟩
  obtain ⟨a, ha, hRead⟩ := exists_answer_of_mapM reading.declares.announcements_read hMem
  obtain ⟨name, hName, rfl⟩ := map_eq_ok.1 hRead
  obtain ⟨content, hContent, properties, keys, hReads⟩ := reading.exists_content ha
  obtain ⟨id, hFound, _, hId⟩ := reading.declares.lookup_announcement ha
  obtain ⟨collection, hFinal⟩ := reading.structure?_final hContent ha hReads.declaration_eq
  obtain ⟨hProperties, hLinks⟩ := reading.fields_eq hContent hReads
  rw [hReads.declaration_eq, hId] at hFinal
  rw [hId] at hLinks
  obtain ⟨s, hStructure, hFields⟩ : ∃ s, reading.final.registry.structure? id = some s ∧
      s.fields = content.fields ++ reading.linkFields id := ⟨_, hFinal, rfl⟩
  have hLookup := (reading.keeps_completed.trans reading.keeps_final).lookup
    reading.distinct_final hFound
  refine ⟨name, s, Markup.required_eq_ok.1 hName, ?_, content.fields, hProperties, ?_⟩
  · exact (congrArg (·.bind reading.final.registry.structure?) hLookup).trans hStructure
  · exact hFields.trans (congrArg (content.fields ++ ·) hLinks)

/-- In the sample each structure has the fields that its element declares. -/
theorem fields_of_sample :
    ∃ definition schemas completed,
      (walk {} ⟨"https", "localhost", "/"⟩ sample).result = .ok definition ∧
      Metadata.schemas sample.root = .ok schemas ∧ Completes {} schemas completed ∧
      ∀ schema ∈ schemas, ∀ declared ∈ schema.structureNodes, ∃ name s,
        declared.2.attribute? "Name" = some name ∧
        definition.registry.structureByName? schema.namespaceName name = some s ∧
        s.DeclaredBy definition.registry completed (Schema.aliases schemas) declared.2 := by
  obtain ⟨definition, hDefinition, _⟩ := walk_sample
  obtain ⟨schemas, completed, hSchemas, hCompletes, _, hDeclared⟩ := fields_of_walk hDefinition
  exact ⟨definition, schemas, completed, hDefinition, hSchemas, hCompletes, hDeclared⟩

end Metadata

end Csdl
