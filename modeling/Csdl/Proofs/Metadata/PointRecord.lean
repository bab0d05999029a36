import Csdl.Proofs.Metadata.Naming
import Csdl.Proofs.Metadata.Payload

/-! What references to the point record lead to. All of them lead to one place, and it holds the
record itself, with at most the name of a member that is bound to it, unless a schema declares a
type of that name. -/
namespace Csdl

theorem NamedType.key_lasting (type : NamedType) : type.lasting.key = type.key := by
  cases type <;> rfl

namespace Registry

variable {r r' : Registry} {id : TypeId}

/-- The point record is found in its place, as soon as there is something. -/
theorem lookup_pointName_of_lt (h : r.pointId.index < r.size) :
    r.lookup EdmType.edmNamespace EdmType.pointName = some r.pointId := by
  rcases r.withPoint_cases with ⟨id, hFound, hId, _⟩ | ⟨_, hId, _⟩
  · rw [hFound, hId]
  · rw [hId] at h
    exact absurd h (Nat.lt_irrefl _)

/-- Of the references that denote something, those to the point record lead to its place. -/
theorem eq_pointId_iff {aliases : AliasTable} {reference : String} {type : TypeRef}
    (h : r.refer aliases reference = .ok type) :
    type = .named r.pointId ↔ aliases.denotesPoint reference = true := by
  constructor
  · rintro rfl
    rcases refer_eq_named.1 h with ⟨hDenotes, _⟩ | ⟨space, leaf, _, hEdm, hFound⟩
    · exact hDenotes
    · obtain ⟨_, hType, _⟩ := get?_of_lookup hFound
      have hPoint := lookup_pointName_of_lt (lt_size_of_get? hType)
      obtain ⟨hSpace, hLeaf⟩ := Prod.mk.inj (key_unique hFound hPoint)
      rw [hSpace, hLeaf] at hEdm
      exact absurd hEdm (by decide)
  · intro hDenotes
    exact Except.ok.inj (h.symm.trans (refer_eq_named.2 (.inl ⟨hDenotes, rfl⟩)))

/-- A registry in which the name of the point record leads to nothing else. -/
def HoldsRecord (r : Registry) : Prop :=
  ∀ id, r.lookup EdmType.edmNamespace EdmType.pointName = some id →
    ∃ s, r.structure? id = some s ∧ { s with collectionName := none } = pointRecord

/-- The record stays where it is if no other type of its name is added. -/
theorem HoldsRecord.grow (h : r.HoldsRecord) (hDistinct : r.Distinct) (hRetains : r.Retains r')
    (hNew : ∀ id type, r.size ≤ id.index → r'.get? id = some type →
      type.key ≠ (EdmType.edmNamespace, EdmType.pointName)) :
    r'.HoldsRecord := by
  intro id hFound
  obtain ⟨later, hLater, hKey⟩ := get?_of_lookup hFound
  by_cases hSize : r.size ≤ id.index
  · exact absurd hKey (hNew id later hSize hLater)
  · obtain ⟨type, hType⟩ := exists_get?_of_lt (Nat.lt_of_not_le hSize)
    obtain ⟨_, hSame, hLasting⟩ := hRetains id type hType
    obtain rfl := Option.some.inj (hLater.symm.trans hSame)
    have hKeys := congrArg NamedType.key hLasting
    rw [NamedType.key_lasting, NamedType.key_lasting, hKey] at hKeys
    obtain ⟨s, hStructure, hRecord⟩ :=
      h id (hDistinct.lookup_eq_some_iff.2 ⟨type, hType, hKeys.symm⟩)
    obtain ⟨name, hThere⟩ := hRetains.structure? hStructure
    exact ⟨_, hThere, hRecord⟩

/-- The point record is added only where its name leads to nothing. -/
theorem HoldsRecord.withPoint (h : r.HoldsRecord) : r.withPoint.HoldsRecord := by
  rcases r.withPoint_cases with ⟨_, _, _, hEq⟩ | ⟨hFresh, _, hEq⟩
  · rwa [hEq]
  · intro id hFound
    obtain ⟨type, hType, hKey⟩ := get?_of_lookup hFound
    rw [hEq, get?_push] at hType
    split at hType
    · next hId =>
        exact ⟨pointRecord, structure?_eq_some.2 (by rw [hEq, get?_push, if_pos hId]), rfl⟩
    · exact absurd hKey (lookup_eq_none_iff.1 hFresh id type hType)

theorem HoldsRecord.extendFor (h : r.HoldsRecord) (type : TypeRef) :
    (r.extendFor type).HoldsRecord := by
  unfold Registry.extendFor
  split
  · exact h.withPoint
  · exact h

/-- A collection name does not make the record another type. -/
theorem HoldsRecord.named (h : r.HoldsRecord) (hDistinct : r.Distinct) {name : String}
    (hEdit : r.edit id (Derivation.nameCollection name) = .ok r') : r'.HoldsRecord := by
  refine h.grow hDistinct (retains_of_edit hEdit) fun place type hSize hType => ?_
  have hLt := lt_size_of_get? hType
  rw [size_of_edit hEdit] at hLt
  exact absurd hSize (Nat.not_le.2 hLt)

end Registry

namespace Derivation

variable {settings : Settings} {aliases : AliasTable} {navigations : List Navigation}

/-- Deriving a member leaves the point record where it is, since no extension has its name. -/
theorem Derives.holdsRecord {state next : Derivation} {node : MemberNode} {outcome : MemberOutcome}
    (h : Derives settings aliases navigations state node outcome next)
    (hDistinct : state.registry.Distinct) (hRecord : state.registry.HoldsRecord) :
    next.registry.HoldsRecord := by
  have hBound : outcome.bound.HoldsRecord :=
    (hRecord.extendFor _).named (hDistinct.extendFor _) h.bound_eq
  obtain ⟨entity, hEntity, hNext, _⟩ := h.exists_entity hDistinct
  refine hBound.grow (h.distinct_bound hDistinct) (hNext ▸ Registry.retains_append _ _) ?_
  intro id type hSize hType hKey
  have hExtension := hType
  rw [hNext, Registry.get?_append_of_le hSize] at hExtension
  obtain ⟨s, hMem, rfl⟩ := List.mem_map.1 (List.mem_of_getElem? hExtension)
  have hName : s.name = EdmType.pointName := congrArg Prod.snd hKey
  rcases Member.eq_of_mem_extensions hMem with rfl | rfl | rfl
  · exact Member.append_ne_pointName outcome.member.name (by simp) hName
  · exact Member.append_ne_pointName outcome.member.name (by simp) hName
  · exact Member.append_ne_pointName outcome.member.name (by simp) hName

/-- The point record stays as it is while all members are derived. -/
theorem DerivesAll.holdsRecord {state last : Derivation} {nodes : List MemberNode}
    {outcomes : List MemberOutcome}
    (h : DerivesAll settings aliases navigations state nodes outcomes last)
    (hDistinct : state.registry.Distinct) (hRecord : state.registry.HoldsRecord) :
    last.registry.HoldsRecord := by
  induction h with
  | nil state => exact hRecord
  | cons first rest ih => exact ih (first.distinct hDistinct) (first.holdsRecord hDistinct hRecord)

end Derivation

/-- An element whose type stands for the point record. -/
def Content.typesPoint (aliases : AliasTable) (node : Xml.Node) : Bool :=
  (fieldReference? node).any aliases.denotesPoint

/-- The element of a structure whose base stands for the point record. -/
def Content.extendsPoint (aliases : AliasTable) (node : Xml.Node) : Bool :=
  (node.attribute? "BaseType").any aliases.denotesPoint

/-- A member of a container that is bound to the point record. -/
def MemberNode.bindsPoint (aliases : AliasTable) (node : MemberNode) : Bool :=
  (node.node.attribute? node.kind.typeAttribute).any aliases.denotesPoint

/-- Some reference of schemas stands for the point record. -/
def Schema.UsesPoint (schemas : List Schema) : Prop :=
  (∃ schema ∈ schemas, ∃ declared ∈ schema.structureNodes,
    Content.extendsPoint (aliases schemas) declared.2 = true ∨
    ∃ node ∈ Markup.children declared.2 "Property" ++
        Markup.children declared.2 "NavigationProperty",
      Content.typesPoint (aliases schemas) node = true) ∨
  ∃ node ∈ schemas.flatMap members, node.bindsPoint (aliases schemas) = true

/-- A structure that has the type at a place exactly where its element refers to the point record:
as base, in properties, and as the target of its navigations. -/
structure Structure.RefersTo (point : TypeId) (aliases : AliasTable) (node : Xml.Node)
    (navigations : List Navigation) (s : Structure) : Prop where
  base_iff : s.base = some point ↔ Content.extendsPoint aliases node = true
  properties : ∃ own links, s.fields = own ++ links ∧
    List.Forall₂ (fun child field => child.attribute? "Name" = some field.name ∧
        (field.type = .named point ↔ Content.typesPoint aliases child = true))
      (Markup.children node "Property") own
  navigations : List.Forall₂ (fun child navigation =>
      child.attribute? "Name" = some navigation.name ∧
        (navigation.field.type = .named point ↔ Content.typesPoint aliases child = true))
    (Markup.children node "NavigationProperty") navigations

namespace Content

/-- Of the types that are read, those of elements that stand for the point record lead to it. -/
theorem type_eq_point_iff {r : Registry} {aliases : AliasTable} {node : Xml.Node}
    {reference : String} {type : TypeRef} (hReference : fieldReference? node = some reference)
    (hRefer : r.refer aliases reference = .ok type) :
    type = .named r.pointId ↔ typesPoint aliases node = true := by
  rw [typesPoint, hReference, Option.any_some]
  exact Registry.eq_pointId_iff hRefer

end Content

/-- The reference of a property denotes the type of its field. -/
theorem Field.DeclaredBy.exists_reference {registry : Registry} {aliases : AliasTable}
    {node : Xml.Node} {field : Field} (h : field.DeclaredBy registry aliases node) :
    ∃ reference, Content.fieldReference? node = some reference ∧
      registry.refer aliases reference = .ok field.type := by
  obtain ⟨written, inner, depth, hWritten, hWraps, hUnbounded, hRefer⟩ := h.type_resolved
  have hUnwrap : Cardinality.unwrap written = .ok (inner, field.cardinality) :=
    Cardinality.unwrap_eq_ok.2 ⟨depth, hWraps, hUnbounded⟩
  refine ⟨inner, ?_, hRefer⟩
  simp [Content.fieldReference?, hWritten, hUnwrap, Except.toOption]

namespace Metadata

variable {settings : Settings} {location : Location} {document : Xml.Document}

namespace Typing

variable (typing : Typing settings)

/-- The name of an announced structure is declared. -/
theorem key_mem_declaredKeys {a : Announcement} (ha : a ∈ typing.announcements) :
    (a.namespaceName, a.name) ∈ Schema.declaredKeys typing.schemas := by
  obtain ⟨id, hFound, _⟩ := typing.declares.lookup_announcement ha
  obtain ⟨type, hType, hKey⟩ := Registry.get?_of_lookup hFound
  have hOutline : typing.stubs.outline[id.index]? = some type.outline := by
    rw [Registry.outline_getElem?, hType]
    rfl
  rw [← typing.declares.map_key_outline, ← hKey, ← NamedType.key_outline]
  exact List.mem_map_of_mem (List.mem_of_getElem? hOutline)

/-- Where no schema declares a type of its name, there is no other type in place of the record. -/
theorem holdsRecord_linked (hFree : (EdmType.edmNamespace, EdmType.pointName) ∉
    Schema.declaredKeys typing.schemas) : typing.linked.HoldsRecord := by
  intro id hFound
  obtain ⟨type, hType, hKey⟩ := Registry.get?_of_lookup hFound
  have hOutline : typing.linked.outline[id.index]? = some type.outline := by
    rw [Registry.outline_getElem?, hType]
    rfl
  have hMem := List.mem_of_getElem? hOutline
  rw [typing.outline_linked_eq, List.mem_append, List.mem_ite_nil_right,
    List.mem_singleton] at hMem
  rcases hMem with hStub | ⟨_, hPoint⟩
  · have hDeclared := List.mem_map_of_mem (f := NamedType.key) hStub
    rw [typing.declares.map_key_outline, NamedType.key_outline, hKey] at hDeclared
    exact absurd hDeclared hFree
  · cases type with
    | enumeration value => cases hPoint
    | structured s =>
        have hStructure := Registry.structure?_eq_some.2 hType
        refine ⟨s, hStructure, ?_⟩
        rcases typing.linked_cases hStructure with ⟨a, ha, _, _, _, _, rfl⟩ | rfl
        · exact absurd (hKey ▸ typing.key_mem_declaredKeys ha) hFree
        · rfl

end Typing

namespace Reading

variable (reading : Reading settings document)

theorem holdsRecord_final (hFree : (EdmType.edmNamespace, EdmType.pointName) ∉
    Schema.declaredKeys reading.schemas) : reading.final.registry.HoldsRecord :=
  reading.derives.holdsRecord reading.distinct_linked (reading.holdsRecord_linked hFree)

/-- A declared structure has the point record where its element refers to it. -/
theorem refersTo_point {schema : Schema} (hSchema : schema ∈ reading.schemas)
    {declared : StructureKind × Xml.Node} (hDeclared : declared ∈ schema.structureNodes) :
    ∃ name id s, declared.2.attribute? "Name" = some name ∧
      reading.final.registry.lookup schema.namespaceName name = some id ∧
      reading.final.registry.structure? id = some s ∧
      s.RefersTo reading.final.registry.pointId (Schema.aliases reading.schemas) declared.2
        ((Content.navigations reading.contents).filter (·.owner = id)) := by
  have hMem : (schema.namespaceName, declared) ∈ Schema.declaredStructures reading.schemas :=
    List.mem_flatMap.2 ⟨schema, hSchema, List.mem_map_of_mem hDeclared⟩
  obtain ⟨a, ha, hRead⟩ := exists_answer_of_mapM reading.declares.announcements_read hMem
  obtain ⟨name, hName, rfl⟩ := map_eq_ok.1 hRead
  obtain ⟨content, hContent, properties, keys, hReads⟩ := reading.exists_content ha
  obtain ⟨id, hFound, _, hId⟩ := reading.declares.lookup_announcement ha
  obtain ⟨collection, hFinal⟩ := reading.structure?_final hContent ha hReads.declaration_eq
  have hLookup := (reading.keeps_completed.trans reading.keeps_final).lookup
    reading.distinct_final hFound
  have hOwn := reading.forall₂_relations hContent hReads
  rw [hReads.declaration_eq, hId] at hFinal hOwn
  refine ⟨name, id, _, Markup.required_eq_ok.1 hName, hLookup, hFinal, ?_, ?_, ?_⟩
  · -- the base denotes in the end what it denoted among the stubs
    rw [Content.extendsPoint]
    rcases Content.readBase_eq_ok.1 hReads.base_read with
      ⟨hNone, hBase⟩ | ⟨reference, base, _, hSome, hRefer, _, hBase⟩
    · change declared.2.attribute? "BaseType" = none at hNone
      simp [hNone, hBase]
    · change declared.2.attribute? "BaseType" = some reference at hSome
      have hLater := reading.refer_later reading.keeps_final reading.distinct_final hContent hReads
        (List.mem_append_left _ (Option.mem_toList.2 hSome)) hRefer
      rw [hSome, Option.any_some, ← Registry.eq_pointId_iff hLater]
      simp [hBase]
  · refine ⟨content.fields, reading.linkFields id, rfl, ?_⟩
    refine (reading.fields_eq hContent hReads).1.imp fun child field hField => ?_
    obtain ⟨reference, hReference, hRefer⟩ := hField.exists_reference
    exact ⟨hField.name_eq, Content.type_eq_point_iff hReference hRefer⟩
  · refine ((List.forall₂_and_left _ _).2 ⟨fun _ hNode => hNode, hOwn⟩).imp ?_
    rintro child _ ⟨hNode, relation, hRelation, rfl⟩
    obtain ⟨field, _, _, _, hField, _, _, _, rfl⟩ := Content.readRelation_eq_ok.1 hRelation
    obtain ⟨reference, hReference, hRefer⟩ := Content.refer_of_readField hField
    obtain ⟨_, _, _, _, _, hChild, _, _, _, rfl⟩ := Content.readField_eq_ok.1 hField
    exact ⟨Markup.required_eq_ok.1 hChild, Content.type_eq_point_iff hReference
      (reading.refer_child_later reading.keeps_final reading.distinct_final hContent hReads
        (List.mem_append_right _ hNode) hReference hRefer)⟩

/-- Where a reference stands for the point record, something is registered in its place. -/
theorem lookup_pointName (location : Location) (hUses : Schema.UsesPoint reading.schemas) :
    reading.final.registry.lookup EdmType.edmNamespace EdmType.pointName =
      some reading.final.registry.pointId := by
  apply Registry.lookup_pointName_of_lt
  rcases hUses with ⟨schema, hSchema, declared, hDeclared, hReference⟩ | ⟨node, hNode, hBinds⟩
  · have hMem : (schema.namespaceName, declared) ∈ Schema.declaredStructures reading.schemas :=
      List.mem_flatMap.2 ⟨schema, hSchema, List.mem_map_of_mem hDeclared⟩
    obtain ⟨a, ha, hRead⟩ := exists_answer_of_mapM reading.declares.announcements_read hMem
    obtain ⟨name, _, rfl⟩ := map_eq_ok.1 hRead
    obtain ⟨content, hContent, properties, keys, hReads⟩ := reading.exists_content ha
    have hFound : ∃ reference ∈ Content.references declared.2,
        (Schema.aliases reading.schemas).denotesPoint reference = true := by
      simp only [Content.references, List.mem_append, Option.mem_toList, List.mem_filterMap]
      rcases hReference with hBase | ⟨child, hChild, hType⟩
      · obtain ⟨reference, hSome, hDenotes⟩ := (Option.any_eq_true _ _).1 hBase
        exact ⟨reference, .inl hSome, hDenotes⟩
      · obtain ⟨reference, hSome, hDenotes⟩ := (Option.any_eq_true _ _).1 hType
        exact ⟨reference, .inr ⟨child, List.mem_append.1 hChild, hSome⟩, hDenotes⟩
    obtain ⟨reference, hReference, hDenotes⟩ := hFound
    have hContentUses : content.uses reading.stubs.pointId = true :=
      hReads.uses_iff_refer.2 ⟨reference, hReference,
        Registry.refer_eq_named.2 (.inl ⟨hDenotes, rfl⟩)⟩
    rw [reading.pointId_later reading.keeps_final reading.distinct_final hContent hContentUses]
    exact Nat.lt_of_lt_of_le (reading.lt_size_completed hContent hContentUses)
      reading.keeps_final.size_le
  · obtain ⟨outcome, _, hDescribes⟩ :=
      exists_left_of_forall₂ (reading.describes location).flip hNode
    obtain ⟨reference, hReference, hDenotes⟩ := (Option.any_eq_true _ _).1 hBinds
    obtain rfl := Option.some.inj (hReference.symm.trans hDescribes.reference_eq)
    have hEntity := (Registry.eq_pointId_iff hDescribes.refer_eq).2 hDenotes
    obtain ⟨s, hStructure⟩ := Option.isSome_iff_exists.1 hDescribes.entity_structured
    rw [TypeRef.named.inj hEntity] at hStructure
    exact Registry.lt_size_of_get? (Registry.structure?_eq_some.1 hStructure)

end Reading

/-- In what a document defines, all references to the point record lead to one place, which is
registered as soon as there is one, and nothing else leads there. What is there is the record,
unless a schema declares a type of its name. -/
theorem point_of_walk {definition : Definition}
    (h : (walk settings location document).result = .ok definition) :
    ∃ (schemas : List Schema) (outcomes : List MemberOutcome),
      Metadata.schemas document.root = .ok schemas ∧
      (∀ schema ∈ schemas, ∀ declared ∈ schema.structureNodes, ∃ name id s,
        declared.2.attribute? "Name" = some name ∧
        definition.registry.lookup schema.namespaceName name = some id ∧
        definition.registry.structure? id = some s ∧
        s.RefersTo definition.registry.pointId (Schema.aliases schemas) declared.2
          (definition.navigations.filter (·.owner = id))) ∧
      List.Forall₂ (fun node outcome =>
          outcome.Describes settings (Schema.aliases schemas) definition node ∧
          (outcome.member.entity = definition.registry.pointId ↔
            node.bindsPoint (Schema.aliases schemas) = true))
        (schemas.flatMap Schema.members) outcomes ∧
      (Schema.UsesPoint schemas →
        definition.registry.lookup EdmType.edmNamespace EdmType.pointName =
          some definition.registry.pointId) ∧
      (Schema.UsesPoint schemas →
        (EdmType.edmNamespace, EdmType.pointName) ∉ Schema.declaredKeys schemas →
        ∃ s, definition.registry.structure? definition.registry.pointId = some s ∧
          { s with collectionName := none } = Registry.pointRecord) := by
  obtain ⟨reading, rfl⟩ := walk_eq_ok.1 h
  refine ⟨reading.schemas, reading.outcomes, reading.schemas_read,
    fun schema hSchema declared hDeclared => reading.refersTo_point hSchema hDeclared, ?_,
    reading.lookup_pointName location, fun hUses hFree =>
      reading.holdsRecord_final hFree _ (reading.lookup_pointName location hUses)⟩
  refine (reading.describes location).imp fun node outcome hDescribes => ⟨hDescribes, ?_⟩
  rw [MemberNode.bindsPoint, hDescribes.reference_eq, Option.any_some,
    ← Registry.eq_pointId_iff hDescribes.refer_eq]
  exact ⟨congrArg TypeRef.named, TypeRef.named.inj⟩

/-- The place of an order in the sample is the point record. -/
theorem point_of_sample :
    ∃ (definition : Definition) (schemas : List Schema),
      (walk {} ⟨"https", "localhost", "/"⟩ sample).result = .ok definition ∧
      definition.registry.structure? definition.registry.pointId = some Registry.pointRecord ∧
      Metadata.schemas sample.root = .ok schemas ∧
      ∀ schema ∈ schemas, ∀ declared ∈ schema.structureNodes, ∃ name id s,
        declared.2.attribute? "Name" = some name ∧
        definition.registry.lookup schema.namespaceName name = some id ∧
        definition.registry.structure? id = some s ∧
        s.RefersTo definition.registry.pointId (Schema.aliases schemas) declared.2
          (definition.navigations.filter (·.owner = id)) := by
  have hFound : (walk {} ⟨"https", "localhost", "/"⟩ sample).result.toOption.map
      (fun definition => definition.registry.structure? definition.registry.pointId) =
      some (some Registry.pointRecord) := by
    rw [result_walk]
    decide +kernel
  obtain ⟨definition, hDefinition, hRecord⟩ := Option.map_eq_some_iff.1 hFound
  have hWalk := toOption_eq_some.1 hDefinition
  obtain ⟨schemas, outcomes, hSchemas, hDeclared, _⟩ := point_of_walk hWalk
  exact ⟨definition, schemas, hWalk, hRecord, hSchemas, hDeclared⟩

/-- A spot extends the point record. -/
def sampleSpot : Xml.Node :=
  sampleElement "ComplexType" [("Name", "Spot"), ("BaseType", "Edm.GeographyPoint")] []

/-- A document that has a type of the name of the point record, which has a label. -/
def sampleSpots : Xml.Document :=
  sampleSchemas [
    ([("Namespace", "Edm")], [
      sampleElement "ComplexType" [("Name", "GeographyPoint")] [
        sampleElement "Property" [("Name", "label"), ("Type", "Edm.String")] []]]),
    ([("Namespace", "Shop")], [sampleSpot])]

/-- Spots have a label and none of the fields of the point record. -/
theorem point_of_spots :
    ∃ (definition : Definition) (schemas : List Schema),
      (walk {} ⟨"https", "localhost", "/"⟩ sampleSpots).result = .ok definition ∧
      Metadata.schemas sampleSpots.root = .ok schemas ∧
      ¬ ∀ schema ∈ schemas, ∀ declared ∈ schema.structureNodes, ∀ name id s base t,
        Content.extendsPoint (Schema.aliases schemas) declared.2 = true →
        declared.2.attribute? "Name" = some name →
        definition.registry.lookup schema.namespaceName name = some id →
        definition.registry.structure? id = some s → s.base = some base →
        definition.registry.structure? base = some t →
        t.fields = Registry.pointRecord.fields := by
  have hFound : (walk {} ⟨"https", "localhost", "/"⟩ sampleSpots).result.toOption.map
      (fun definition => (definition.registry.lookup "Shop" "Spot",
        (definition.registry.structure? ⟨1⟩).map (·.base),
        (definition.registry.structure? ⟨0⟩).map fun t => t.fields.map (·.name))) =
      some (some ⟨1⟩, some (some ⟨0⟩), some ["label"]) := by
    rw [result_walk]
    decide +kernel
  obtain ⟨definition, hDefinition, hEq⟩ := Option.map_eq_some_iff.1 hFound
  simp only [Prod.mk.injEq] at hEq
  obtain ⟨hSpot, hBase, hFields⟩ := hEq
  obtain ⟨s, hStructure, hBase⟩ := Option.map_eq_some_iff.1 hBase
  obtain ⟨t, hPoint, hFields⟩ := Option.map_eq_some_iff.1 hFields
  refine ⟨definition, _, toOption_eq_some.1 hDefinition, rfl, fun hAll => ?_⟩
  have hPointFields := hAll ⟨"Shop", sampleElement "Schema" [("Namespace", "Shop")] [sampleSpot]⟩
    (by simp) (.complexType, sampleSpot) (List.mem_of_getElem? (i := 0) rfl) "Spot" ⟨1⟩ s ⟨0⟩ t
    (by decide +kernel) rfl hSpot hStructure hBase hPoint
  rw [hPointFields] at hFields
  exact absurd hFields (by decide)

end Metadata

end Csdl
