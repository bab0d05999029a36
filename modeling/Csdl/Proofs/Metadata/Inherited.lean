import Csdl.Proofs.Metadata.Payload

/-! Navigations where entities are inserted. The structure that is inserted for a member has the
properties that its type inherits. Of navigations it offers those that the type itself declares, and
none that only a base declares. -/
namespace Csdl

/-- Whether fields offer a navigation of a name, with its entities and by reference. -/
def Field.offers (fields : List Field) (name : String) : Bool :=
  isNamed fields name && isNamed fields (name ++ "@odata.bind")

theorem Field.isNamed_iff {fields : List Field} {name : String} :
    isNamed fields name = true ↔ ∃ field ∈ fields, field.name = name := by
  simp [isNamed]

theorem Field.isNamed_append (fields more : List Field) (name : String) :
    isNamed (fields ++ more) name = (isNamed fields name || isNamed more name) :=
  List.any_append

/-- The navigations that a type has: its own and those that it inherits. -/
def Definition.navigationsOf (definition : Definition) (id : TypeId) : List Navigation :=
  definition.navigations.filter fun navigation =>
    navigation.owner ∈ (definition.registry.baseChain id).map (·.1)

namespace Navigation

/-- Whether a navigation of a type may be written, by the properties and the navigations that are
restricted. -/
def Allowed (properties navigationNames : List String) (owner : TypeId) (navigation : Navigation) :
    Prop :=
  navigation.owner = owner ∧ navigation.name ∉ properties ∧ navigation.name ∉ navigationNames

/-- The names of what is written of a navigation. -/
theorem isNamed_payload {bindings : List (String × String)} {navigation : Navigation}
    {name : String} : Field.isNamed (navigation.payload bindings) name = true ↔
      name = navigation.name ∨ name = navigation.name ++ "@odata.bind" := by
  rw [Field.isNamed, payload, List.any_cons, List.any_cons, List.any_nil, Bool.or_false,
    Bool.or_eq_true, decide_eq_true_eq, decide_eq_true_eq, eq_comm, Eq.comm (b := name)]
  exact Iff.rfl

end Navigation

/-- What the structure that is inserted for a member offers. Its names are those of the fields of the
member's type that are not restricted, and those of the navigations of that type itself that are
allowed. So of all navigations that the type has, the ones are offered that it declares itself,
also where a base declares them as well. -/
structure MemberOutcome.Offers (definition : Definition) (outcome : MemberOutcome) (id : TypeId) :
    Prop where
  lookup_eq : definition.registry.lookup outcome.member.namespaceName
    (outcome.member.name ++ "Insert") = some id
  isNamed_iff : ∀ name, Field.isNamed (definition.registry.allFields id) name = true ↔
    (name ∉ outcome.capabilities.nonInsertableProperties ∧
      Field.isNamed (definition.registry.allFields outcome.member.entity) name = true) ∨
    ∃ own ∈ definition.navigations,
      own.Allowed outcome.capabilities.nonInsertableProperties
        outcome.capabilities.nonInsertableNavigations outcome.member.entity ∧
      (name = own.name ∨ name = own.name ++ "@odata.bind")
  offers_own : ∀ navigation ∈ definition.navigationsOf outcome.member.entity,
    navigation.name ∉ outcome.capabilities.nonInsertableProperties →
    navigation.name ∉ outcome.capabilities.nonInsertableNavigations →
    (∃ own ∈ definition.navigations,
      own.owner = outcome.member.entity ∧ own.name = navigation.name) →
    Field.offers (definition.registry.allFields id) navigation.name = true

namespace MemberOutcome

variable {definition : Definition} {outcome : MemberOutcome}

/-- The names of the own fields of a structure that is written. -/
theorem Writes.isNamed_fields {suffix : String} {properties navigationNames : List String}
    {id : TypeId} {s : Structure}
    (h : outcome.Writes definition suffix properties navigationNames id s) {name : String} :
    Field.isNamed s.fields name = true ↔ ∃ own ∈ definition.navigations,
      own.Allowed properties navigationNames outcome.member.entity ∧
        (name = own.name ∨ name = own.name ++ "@odata.bind") := by
  rw [h.fields_eq, Field.isNamed, List.any_flatMap, List.any_eq_true]
  constructor
  · rintro ⟨own, hMem, hNamed⟩
    rw [List.mem_filter, decide_eq_true_eq] at hMem
    exact ⟨own, hMem.1, hMem.2, Navigation.isNamed_payload.1 hNamed⟩
  · rintro ⟨own, hMem, hAllowed, hName⟩
    refine ⟨own, ?_, Navigation.isNamed_payload.2 hName⟩
    rw [List.mem_filter, decide_eq_true_eq]
    exact ⟨hMem, hAllowed⟩

/-- The names of all fields of a structure that is written. -/
theorem Writes.isNamed_allFields {suffix : String} {properties navigationNames : List String}
    {id : TypeId} {s : Structure}
    (h : outcome.Writes definition suffix properties navigationNames id s) {name : String} :
    Field.isNamed (definition.registry.allFields id) name = true ↔
      (name ∉ properties ∧
        Field.isNamed (definition.registry.allFields outcome.member.entity) name = true) ∨
      ∃ own ∈ definition.navigations,
        own.Allowed properties navigationNames outcome.member.entity ∧
          (name = own.name ∨ name = own.name ++ "@odata.bind") := by
  have hInherited : Field.isNamed ((definition.registry.allFields outcome.member.entity).filter
      fun field => field.name ∉ properties) name = true ↔ name ∉ properties ∧
        Field.isNamed (definition.registry.allFields outcome.member.entity) name = true := by
    simp only [Field.isNamed_iff, List.mem_filter, decide_eq_true_eq]
    constructor
    · rintro ⟨field, ⟨hMem, hKept⟩, rfl⟩
      exact ⟨hKept, field, hMem, rfl⟩
    · rintro ⟨hKept, field, hMem, rfl⟩
      exact ⟨field, ⟨hMem, hKept⟩, rfl⟩
  rw [h.allFields_eq, Field.isNamed_append, Bool.or_eq_true, hInherited, h.isNamed_fields]

/-- An insertable member has a structure that is inserted, which offers the navigations that the
type of the member declares. -/
theorem Written.exists_offers (h : outcome.Written definition)
    (hInsertable : outcome.capabilities.flags.insertable = true) :
    ∃ id, outcome.Offers definition id := by
  obtain ⟨id, s, hWrites⟩ := h.inserted hInsertable
  refine ⟨id, hWrites.lookup_eq, fun name => hWrites.isNamed_allFields, ?_⟩
  intro navigation _ hProperty hNavigation hOwn
  obtain ⟨own, hMem, hOwner, hName⟩ := hOwn
  rw [← hName] at hProperty hNavigation ⊢
  have hAllowed : own.Allowed outcome.capabilities.nonInsertableProperties
      outcome.capabilities.nonInsertableNavigations outcome.member.entity :=
    ⟨hOwner, hProperty, hNavigation⟩
  rw [Field.offers, Bool.and_eq_true]
  constructor
  · exact hWrites.isNamed_allFields.2 (.inr ⟨own, hMem, hAllowed, .inl rfl⟩)
  · exact hWrites.isNamed_allFields.2 (.inr ⟨own, hMem, hAllowed, .inr rfl⟩)

end MemberOutcome

namespace Metadata

variable {settings : Settings} {location : Location} {document : Xml.Document}

/-- In what a document defines, the structure that is inserted for an insertable member offers the
navigations that the type of the member itself declares, unless they are restricted. What a base
declares is not offered, although its properties are. -/
theorem offers_of_walk {definition : Definition}
    (h : (walk settings location document).result = .ok definition) :
    ∃ (schemas : List Schema) (outcomes : List MemberOutcome),
      Metadata.schemas document.root = .ok schemas ∧
      (∀ schema ∈ schemas, ∀ declared ∈ schema.structureNodes, ∃ name id,
        declared.2.attribute? "Name" = some name ∧
        definition.registry.lookup schema.namespaceName name = some id ∧
        List.Forall₂ (fun node navigation => node.attribute? "Name" = some navigation.name)
          (Markup.children declared.2 "NavigationProperty")
          (definition.navigations.filter (·.owner = id))) ∧
      List.Forall₂ (fun node outcome =>
          outcome.Describes settings (Schema.aliases schemas) definition node ∧
          (outcome.capabilities.flags.insertable = true → ∃ id, outcome.Offers definition id))
        (schemas.flatMap Schema.members) outcomes := by
  obtain ⟨reading, rfl⟩ := walk_eq_ok.1 h
  refine ⟨reading.schemas, reading.outcomes, reading.schemas_read,
    fun schema hSchema declared hDeclared => reading.exists_declared hSchema hDeclared, ?_⟩
  exact (reading.forall₂_written location).imp fun node outcome hMember =>
    ⟨hMember.1, hMember.2.exists_offers⟩

/-- An order is inserted into the store with the navigation of its type that is not restricted. -/
theorem offers_of_store :
    ∃ (definition : Definition) (schemas : List Schema) (outcomes : List MemberOutcome),
      (walk {} ⟨"https", "localhost", "/"⟩ sampleStore).result = .ok definition ∧
      (definition.registry.lookup "Shop" "OrdersInsert").map (fun id =>
        (definition.registry.allFields id).map fun field => (field.name, field.collectionName)) =
          some [("number", none), ("seller", none), ("parts@odata.id", none),
            ("parts", some "Parts"), ("parts@odata.bind", none)] ∧
      Metadata.schemas sampleStore.root = .ok schemas ∧
      List.Forall₂ (fun node outcome =>
          outcome.Describes {} (Schema.aliases schemas) definition node ∧
          (outcome.capabilities.flags.insertable = true → ∃ id, outcome.Offers definition id))
        (schemas.flatMap Schema.members) outcomes := by
  obtain ⟨definition, hDefinition, hNames⟩ := Option.map_eq_some_iff.1 names_of_store
  have hWalk := toOption_eq_some.1 hDefinition
  obtain ⟨schemas, outcomes, hSchemas, _, hOffers⟩ := offers_of_walk hWalk
  exact ⟨definition, schemas, outcomes, hWalk, hNames, hSchemas, hOffers⟩

/-- A set of managers, who are persons. -/
def sampleManagerSet : Xml.Node :=
  sampleElement "EntitySet" [("Name", "Managers"), ("EntityType", "Shop.Manager")] []

/-- A set of entities that inherit a navigation. -/
def sampleManagers : Xml.Document :=
  sampleDocument [
    sampleElement "ComplexType" [("Name", "Place")] [],
    sampleElement "EntityType" [("Name", "Person")] [
      sampleElement "NavigationProperty" [("Name", "home"), ("Type", "Shop.Place")] []],
    sampleElement "EntityType" [("Name", "Manager"), ("BaseType", "Shop.Person")] [],
    sampleElement "EntityContainer" [("Name", "Service")] [sampleManagerSet]]

/-- Managers may be inserted, and nothing is restricted for them. -/
theorem capabilities_of_managers :
    let capabilities := Capabilities.capabilitiesOf ⟨[], sampleManagerSet⟩ .entitySet
    capabilities.flags.insertable = true ∧ capabilities.nonInsertableProperties = [] ∧
      capabilities.nonInsertableNavigations = [] := by
  decide +kernel

/-- Managers are not inserted with the navigation of persons. -/
theorem unoffered_of_managers :
    ∃ (definition : Definition) (capabilities : Capabilities) (manager id : TypeId),
      (walk {} ⟨"https", "localhost", "/"⟩ sampleManagers).result = .ok definition ∧
      Derivation.ownCapabilities ⟨"Shop", .entitySet, sampleManagerSet⟩ = .ok capabilities ∧
      capabilities.flags.insertable = true ∧
      definition.registry.lookup "Shop" "Manager" = some manager ∧
      definition.registry.lookup "Shop" "ManagersInsert" = some id ∧
      ¬ ∀ navigation ∈ definition.navigationsOf manager,
        navigation.name ∉ capabilities.nonInsertableProperties →
        navigation.name ∉ capabilities.nonInsertableNavigations →
        Field.offers (definition.registry.allFields id) navigation.name = true := by
  have hFound : (walk {} ⟨"https", "localhost", "/"⟩ sampleManagers).result.toOption.map
      (fun definition => (definition.registry.lookup "Shop" "Manager",
        definition.registry.lookup "Shop" "ManagersInsert",
        (definition.navigationsOf ⟨2⟩).map fun navigation => (navigation.name,
          Field.offers (definition.registry.allFields ⟨3⟩) navigation.name))) =
      some (some ⟨2⟩, some ⟨3⟩, [("home", false)]) := by
    rw [result_walk]
    decide +kernel
  obtain ⟨definition, hDefinition, hEq⟩ := Option.map_eq_some_iff.1 hFound
  simp only [Prod.mk.injEq] at hEq
  obtain ⟨hManager, hInsert, hNavigations⟩ := hEq
  obtain ⟨hInsertable, hProperties, hRestricted⟩ := capabilities_of_managers
  refine ⟨definition, _, _, _, toOption_eq_some.1 hDefinition,
    Derivation.ownCapabilities_eq _, hInsertable, hManager, hInsert, fun hAll => ?_⟩
  obtain ⟨navigation, hMem, hPair⟩ := List.mem_map.1 (hNavigations ▸ List.mem_cons_self)
  have hFalse := congrArg Prod.snd hPair
  have hTrue := hAll navigation hMem (by simp [hProperties]) (by simp [hRestricted])
  rw [hTrue] at hFalse
  cases hFalse

end Metadata

end Csdl
