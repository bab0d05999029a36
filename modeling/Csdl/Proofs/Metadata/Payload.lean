import Csdl.Proofs.Metadata.Keys
import Csdl.Proofs.Registry.Extension

/-! What is written in place of an entity. The structures that are inserted and updated for a member
of a container leave out what is restricted there, of all that the type of the member has, and add
what is written of the navigations that the type itself declares. Later members do not change
that. -/
namespace Csdl

/-- What is written of a navigation: its field, with the collection that the navigation is bound to,
and an optional text that refers to an entity there instead. -/
def Navigation.payload (bindings : List (String × String)) (navigation : Navigation) :
    List Field := [
  { navigation.field with collectionName := bindings.lookup navigation.name },
  { name := navigation.name ++ "@odata.bind"
    type := .primitive .string
    cardinality := navigation.field.cardinality
    required := false }]

/-- A structure that is written for a member, with a suffix to its name and what is restricted for
it. All that it has are the fields of the type of the member that are not restricted, and what is
written of the navigations of that type that are restricted in neither way. -/
structure MemberOutcome.Writes (definition : Definition) (outcome : MemberOutcome)
    (suffix : String) (properties navigationNames : List String) (id : TypeId) (s : Structure) :
    Prop where
  lookup_eq : definition.registry.lookup outcome.member.namespaceName
    (outcome.member.name ++ suffix) = some id
  structure?_eq : definition.registry.structure? id = some s
  base_eq : s.base = some outcome.member.entity
  restricted_eq : s.restricted = properties
  fields_eq : s.fields = (definition.navigations.filter fun navigation =>
      navigation.owner = outcome.member.entity ∧ navigation.name ∉ properties ∧
        navigation.name ∉ navigationNames).flatMap
    (Navigation.payload outcome.capabilities.bindings)
  allFields_eq : definition.registry.allFields id =
    (definition.registry.allFields outcome.member.entity).filter
      (fun field => field.name ∉ properties) ++ s.fields

/-- A member with what is written for it: there is a structure to insert if it is insertable, and
one to update if it is updatable and its entities have a key. -/
structure MemberOutcome.Written (definition : Definition) (outcome : MemberOutcome) : Prop where
  inserted : outcome.capabilities.flags.insertable = true →
    ∃ id s, outcome.Writes definition "Insert" outcome.capabilities.nonInsertableProperties
      outcome.capabilities.nonInsertableNavigations id s
  updated : outcome.capabilities.flags.updatable = true →
    (definition.registry.primaryKey? outcome.member.entity).isSome →
    ∃ id s, outcome.Writes definition "Update" outcome.capabilities.nonUpdatableProperties
      outcome.capabilities.nonUpdatableNavigations id s

/-- The chain of a type stays among what was there with it. -/
theorem Registry.Retains.lt_of_mem_baseChain {r r' : Registry} (h : r.Retains r')
    (hBases : ∀ id s base, r.structure? id = some s → s.base = some base → base.index < r.size)
    {id : TypeId} (hId : id.index < r.size) {place : TypeId}
    (hMem : place ∈ (r'.baseChain id).map (·.1)) : place.index < r.size := by
  have hStays : ∀ place base, place.index < r.size → r'.base? place = some base →
      base.index < r.size := by
    intro place base hPlace hBase
    obtain ⟨s, hStructure, hSome⟩ := Option.bind_eq_some_iff.1 hBase
    cases hOld : r.structure? place with
    | none =>
        rw [h.structure?_eq_none hPlace hOld] at hStructure
        cases hStructure
    | some old =>
        obtain ⟨name, hLater⟩ := h.structure? hOld
        obtain rfl := Option.some.inj (hLater.symm.trans hStructure)
        exact hBases place old base hOld hSome
  obtain ⟨member, hMember, rfl⟩ := List.mem_map.1 hMem
  exact closed_of_mem_chainFrom hStays hId hMember

namespace Member

/-- The own fields of a structure that is written. -/
theorem fields_payloadExtension (navigations : List Navigation) (capabilities : Capabilities)
    (member : Member) (entity : Structure) (suffix : String)
    (properties navigationNames : List String) :
    (payloadExtension navigations capabilities member entity suffix properties
      navigationNames).fields = (navigations.filter fun navigation =>
        navigation.owner = member.entity ∧ navigation.name ∉ properties ∧
          navigation.name ∉ navigationNames).flatMap
        (Navigation.payload capabilities.bindings) := by
  have hWritten : writtenFields capabilities = Navigation.payload capabilities.bindings := rfl
  have hKept : ∀ navigation ∈ navigations,
      ((!properties.contains navigation.name && !navigationNames.contains navigation.name) &&
        decide (navigation.owner = member.entity)) =
      decide (navigation.owner = member.entity ∧ navigation.name ∉ properties ∧
        navigation.name ∉ navigationNames) := by
    intro navigation _
    by_cases hOwner : navigation.owner = member.entity <;> simp [hOwner]
  rw [payloadExtension, hWritten, ownNavigations, List.filter_filter, List.filter_congr hKept]

end Member

namespace Derivation

variable {settings : Settings} {aliases : AliasTable} {navigations : List Navigation}
  {state next : Derivation} {node : MemberNode} {outcome : MemberOutcome}

/-- An extension of a member lasts, and has what its type has in the end. -/
theorem Derives.extension_later (h : Derives settings aliases navigations state node outcome next)
    (hDistinct : state.registry.Distinct) (hSound : state.registry.Sound navigations)
    {r : Registry} (hBound : outcome.bound.Retains r) (hLater : next.registry.Retains r)
    (hFinal : r.Distinct) {entity : Structure}
    (hEntity : outcome.bound.structure? outcome.member.entity = some entity)
    {extension : Structure}
    (hMem : extension ∈ outcome.extensions navigations settings.expansions entity) :
    ∃ id name, r.structure? id = some { extension with collectionName := name } ∧
      r.lookup extension.namespaceName extension.name = some id ∧
      r.allFields id = (r.allFields outcome.member.entity).filter
        (fun field => field.name ∉ extension.restricted) ++ extension.fields := by
  obtain ⟨found, hFound, hNext, _⟩ := h.exists_entity hDistinct
  obtain rfl : found = entity := Option.some.inj (hFound.symm.trans hEntity)
  obtain ⟨i, hPlace⟩ := List.getElem?_of_mem hMem
  -- the extension stands behind all that the registry held when it was made
  let id : TypeId := ⟨outcome.bound.size + i⟩
  have hHere : next.registry.structure? id = some extension := by
    rw [Registry.structure?_eq_some, hNext, Registry.get?_append_of_le (Nat.le_add_right _ _)]
    simp [hPlace]
  obtain ⟨name, hThere⟩ := hLater.structure? hHere
  have hNew : id ∉ (r.baseChain outcome.member.entity).map (·.1) := by
    intro hMem
    have hLt := hBound.lt_of_mem_baseChain (h.bound_sound hSound).base_lt_size
      (Registry.lt_size_of_get? (Registry.structure?_eq_some.1 hEntity)) hMem
    exact absurd hLt (Nat.not_lt.2 (Nat.le_add_right _ _))
  have hBase := (Member.base_and_fields_of_mem_extensions hMem).1
  have hAll := Registry.allFields_eq_append hThere hBase hNew
  exact ⟨id, name, hThere,
    hFinal.lookup_eq_some_iff.2 ⟨_, Registry.structure?_eq_some.1 hThere, rfl⟩, hAll⟩

/-- What is written for a member is there in the end. -/
theorem Derives.written (h : Derives settings aliases navigations state node outcome next)
    (hDistinct : state.registry.Distinct) (hSound : state.registry.Sound navigations)
    {definition : Definition} (hNavigations : definition.navigations = navigations)
    (hBound : outcome.bound.Retains definition.registry)
    (hLater : next.registry.Retains definition.registry)
    (hFinal : definition.registry.Distinct) : outcome.Written definition := by
  subst hNavigations
  obtain ⟨entity, hEntity, _⟩ := h.exists_entity hDistinct
  have hWrites : ∀ suffix properties navigationNames,
      Member.payloadExtension definition.navigations outcome.capabilities outcome.member entity
          suffix properties navigationNames ∈
        outcome.extensions definition.navigations settings.expansions entity →
      ∃ id s, outcome.Writes definition suffix properties navigationNames id s := by
    intro suffix properties navigationNames hMem
    obtain ⟨id, name, hStructure, hLookup, hAll⟩ :=
      h.extension_later hDistinct hSound hBound hLater hFinal hEntity hMem
    have hFields := Member.fields_payloadExtension definition.navigations outcome.capabilities
      outcome.member entity suffix properties navigationNames
    exact ⟨id, _, hLookup, hStructure, rfl, rfl, hFields, hAll⟩
  constructor
  · intro hInsertable
    apply hWrites
    simp [MemberOutcome.extensions, Member.extensions, hInsertable, Member.insertExtension]
  · intro hUpdatable hKey
    rw [hBound.primaryKey? (h.bound_sound hSound).base_lt_size
      (Registry.lt_size_of_get? (Registry.structure?_eq_some.1 hEntity))] at hKey
    apply hWrites
    simp [MemberOutcome.extensions, Member.extensions, hUpdatable, hKey, Member.updateExtension]

end Derivation

namespace Metadata

variable {settings : Settings} {location : Location} {document : Xml.Document}

/-- The navigations of an announced structure are those that it declares, in their order. -/
theorem Typing.forall₂_relations (typing : Typing settings) {content : Content}
    (hContent : content ∈ typing.contents) {declaration : Declaration} {properties : List Field}
    {keys : List String}
    (hReads : Content.Reads typing.scope declaration properties keys content) :
    List.Forall₂ (fun node navigation => ∃ relation,
        (Content.readRelation typing.scope declaration node).result = .ok relation ∧
        navigation = relation.navigation)
      (Markup.children declaration.node "NavigationProperty")
      ((Content.navigations typing.contents).filter (·.owner = content.declaration.id)) := by
  rw [Link.filter_navigations, Link.notedOf_of_mem
    (fun _ hc _ hRelation => typing.owner_eq hc hRelation) typing.nodup_ids hContent,
    List.map_map, List.forall₂_map_right_iff]
  exact forall₂_of_mapM hReads.relations_read fun node _ relation hRead => ⟨relation, hRead, rfl⟩

/-- The navigations of a structure are named by its elements, in their order. -/
theorem Typing.forall₂_navigations (typing : Typing settings) {content : Content}
    (hContent : content ∈ typing.contents) {declaration : Declaration} {properties : List Field}
    {keys : List String}
    (hReads : Content.Reads typing.scope declaration properties keys content) :
    List.Forall₂ (fun node navigation => node.attribute? "Name" = some navigation.name)
      (Markup.children declaration.node "NavigationProperty")
      ((Content.navigations typing.contents).filter (·.owner = content.declaration.id)) := by
  refine (typing.forall₂_relations hContent hReads).imp ?_
  rintro node _ ⟨relation, hRead, rfl⟩
  obtain ⟨field, _, _, _, hField, _, _, _, rfl⟩ := Content.readRelation_eq_ok.1 hRead
  obtain ⟨_, _, _, _, _, hName, _, _, _, rfl⟩ := Content.readField_eq_ok.1 hField
  exact Markup.required_eq_ok.1 hName

namespace Reading

variable (reading : Reading settings document)

/-- A declared structure is found by its name, with the navigations that its element declares. -/
theorem exists_declared {schema : Schema} (hSchema : schema ∈ reading.schemas)
    {declared : StructureKind × Xml.Node} (hDeclared : declared ∈ schema.structureNodes) :
    ∃ name id, declared.2.attribute? "Name" = some name ∧
      reading.final.registry.lookup schema.namespaceName name = some id ∧
      List.Forall₂ (fun node navigation => node.attribute? "Name" = some navigation.name)
        (Markup.children declared.2 "NavigationProperty")
        ((Content.navigations reading.contents).filter (·.owner = id)) := by
  have hMem : (schema.namespaceName, declared) ∈ Schema.declaredStructures reading.schemas :=
    List.mem_flatMap.2 ⟨schema, hSchema, List.mem_map_of_mem hDeclared⟩
  obtain ⟨a, ha, hRead⟩ := exists_answer_of_mapM reading.declares.announcements_read hMem
  obtain ⟨name, hName, rfl⟩ := map_eq_ok.1 hRead
  obtain ⟨content, hContent, properties, keys, hReads⟩ := reading.exists_content ha
  obtain ⟨id, hFound, _, hId⟩ := reading.declares.lookup_announcement ha
  have hLookup := (reading.keeps_completed.trans reading.keeps_final).lookup
    reading.distinct_final hFound
  have hOwn := reading.forall₂_navigations hContent hReads
  rw [hReads.declaration_eq, hId] at hOwn
  exact ⟨name, id, Markup.required_eq_ok.1 hName, hLookup, hOwn⟩

/-- Each member is described, and what is written for it is there in the end. -/
theorem forall₂_written (location : Location) :
    List.Forall₂ (fun node outcome =>
        outcome.Describes settings (Schema.aliases reading.schemas) (reading.definition location)
          node ∧
        outcome.Written (reading.definition location))
      (reading.schemas.flatMap Schema.members) reading.outcomes := by
  refine List.Forall₂.mp (fun node outcome hDescribes hDerived => ⟨hDescribes, ?_⟩)
    (reading.describes location)
    (reading.derives.forall₂_retains reading.distinct_linked reading.linked_sound)
  obtain ⟨before, after, hDerives, hDistinct, hSound, hBound, hLater⟩ := hDerived
  exact hDerives.written hDistinct hSound rfl hBound hLater reading.distinct_final

end Reading

/-- In what a document defines, the structures that are inserted and updated for a member have all
fields of its type but the restricted ones, and behind them what is written of the navigations of
its type that are not restricted, in the order of their declaration. -/
theorem payloads_of_walk {definition : Definition}
    (h : (walk settings location document).result = .ok definition) :
    ∃ (schemas : List Schema) (outcomes : List MemberOutcome),
      Metadata.schemas document.root = .ok schemas ∧
      (∀ schema ∈ schemas, ∀ declared ∈ schema.structureNodes, ∃ name id,
        declared.2.attribute? "Name" = some name ∧
        definition.registry.lookup schema.namespaceName name = some id ∧
        List.Forall₂ (fun node navigation => node.attribute? "Name" = some navigation.name)
          (Markup.children declared.2 "NavigationProperty")
          (definition.navigations.filter (·.owner = id))) ∧
      List.Forall₂ (fun node outcome =>
          outcome.Describes settings (Schema.aliases schemas) definition node ∧
          outcome.Written definition)
        (schemas.flatMap Schema.members) outcomes := by
  obtain ⟨reading, rfl⟩ := walk_eq_ok.1 h
  exact ⟨reading.schemas, reading.outcomes, reading.schemas_read,
    fun schema hSchema declared hDeclared => reading.exists_declared hSchema hDeclared,
    reading.forall₂_written location⟩

/-- A list of paths in an annotation about inserting. -/
def samplePaths (property kind path : String) : Xml.Node :=
  sampleElement "PropertyValue" [("Property", property)] [
    sampleElement "Collection" [] [sampleElement kind [] [.text path]]]

/-- A set of orders into which nothing is inserted with a place or with its origin. -/
def sampleStore : Xml.Document :=
  sampleDocument [sampleOrder, sampleRecord,
    sampleElement "EntityContainer" [("Name", "Service")] [
      sampleElement "EntitySet" [("Name", "Orders"), ("EntityType", "Shop.Order")] [
        sampleElement "NavigationPropertyBinding" [("Path", "parts"), ("Target", "Parts")] [],
        sampleElement "Annotation" [("Term", "Org.OData.Capabilities.V1.InsertRestrictions")] [
          sampleElement "Record" [] [
            samplePaths "NonInsertableProperties" "PropertyPath" "place",
            samplePaths "NonInsertableNavigationProperties" "NavigationPropertyPath" "from"]]]]]

/-- The fields that are written to the orders of the sample, read off the walk itself. -/
theorem names_of_store :
    (walk {} ⟨"https", "localhost", "/"⟩ sampleStore).result.toOption.map (fun definition =>
      (definition.registry.lookup "Shop" "OrdersInsert").map fun id =>
        (definition.registry.allFields id).map fun field => (field.name, field.collectionName)) =
      some (some [("number", none), ("seller", none), ("parts@odata.id", none),
        ("parts", some "Parts"), ("parts@odata.bind", none)]) := by
  rw [result_walk]
  decide +kernel

/-- An order is inserted into the store with all that it has but its place and its origin. -/
theorem payloads_of_store :
    ∃ (definition : Definition) (schemas : List Schema) (outcomes : List MemberOutcome),
      (walk {} ⟨"https", "localhost", "/"⟩ sampleStore).result = .ok definition ∧
      (definition.registry.lookup "Shop" "OrdersInsert").map (fun id =>
        (definition.registry.allFields id).map fun field => (field.name, field.collectionName)) =
          some [("number", none), ("seller", none), ("parts@odata.id", none),
            ("parts", some "Parts"), ("parts@odata.bind", none)] ∧
      Metadata.schemas sampleStore.root = .ok schemas ∧
      List.Forall₂ (fun node outcome =>
          outcome.Describes {} (Schema.aliases schemas) definition node ∧
          outcome.Written definition)
        (schemas.flatMap Schema.members) outcomes := by
  obtain ⟨definition, hDefinition, hNames⟩ := Option.map_eq_some_iff.1 names_of_store
  have hWalk := toOption_eq_some.1 hDefinition
  obtain ⟨schemas, outcomes, hSchemas, _, hWritten⟩ := payloads_of_walk hWalk
  exact ⟨definition, schemas, outcomes, hWalk, hNames, hSchemas, hWritten⟩

end Metadata

end Csdl
