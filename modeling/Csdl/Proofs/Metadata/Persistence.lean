import Csdl.Proofs.Metadata.Marking

/-! Which structures of a definition are entities: those that entity elements declare, those that
are read of members, and those that members are bound to. The summary counts them. -/
namespace Csdl

/-- The place of a structure that an element of a kind declares. -/
def Registry.HasDeclared (schemas : List Schema) (kind : StructureKind) (r : Registry)
    (id : TypeId) : Prop :=
  ∃ schema ∈ schemas, ∃ node ∈ Markup.children schema.node kind.label, ∃ name,
    node.attribute? "Name" = some name ∧ r.lookup schema.namespaceName name = some id

/-- The place of the point record, if no schema declares a type of its name. -/
def Registry.HasPointRecord (schemas : List Schema) (r : Registry) (id : TypeId) : Prop :=
  (EdmType.edmNamespace, EdmType.pointName) ∉ Schema.declaredKeys schemas ∧
    r.lookup EdmType.edmNamespace EdmType.pointName = some id

/-- A definition in which collection names mark the structures that entity elements declare, those
that are read of members, and those that members are bound to, whatever they are. -/
structure Definition.MarksEntities (schemas : List Schema) (outcomes : List MemberOutcome)
    (definition : Definition) : Prop where
  isEntity_iff : ∀ id s, definition.registry.structure? id = some s →
    (s.isEntity = true ↔ definition.registry.HasDeclared schemas .entityType id ∨
      ∃ outcome ∈ outcomes, outcome.member.entity = id ∨
        outcome.place? definition.registry "Select" = some id)
  /-- What is no entity by itself is marked only if a member is bound to it. -/
  bound_of_isEntity : ∀ id s, definition.registry.structure? id = some s → s.isEntity = true →
    definition.registry.HasDeclared schemas .complexType id ∨
      definition.registry.HasPointRecord schemas id ∨
      (∃ outcome ∈ outcomes, outcome.WritesAt definition.registry id) →
    ∃ outcome ∈ outcomes, outcome.member.entity = id
  /-- Besides entity elements and members there are the types that only members make entities. -/
  entityTypes_eq : ∃ others : List TypeId, others.Nodup ∧
    (∀ id, id ∈ others ↔ (∃ outcome ∈ outcomes, outcome.member.entity = id) ∧
      ¬ definition.registry.HasDeclared schemas .entityType id ∧
      ¬ ∃ outcome ∈ outcomes, outcome.place? definition.registry "Select" = some id) ∧
    definition.summary.entityTypes =
      (schemas.flatMap fun schema => Markup.children schema.node "EntityType").length +
        outcomes.length + others.length

namespace Metadata

/-- The structures of all schemas in one row are those that some schema declares. -/
theorem mem_declaredStructures {schemas : List Schema} {space : String} {kind : StructureKind}
    {node : Xml.Node} :
    (space, kind, node) ∈ Schema.declaredStructures schemas ↔
      ∃ schema ∈ schemas, schema.namespaceName = space ∧
        node ∈ Markup.children schema.node kind.label := by
  simp only [Schema.declaredStructures, Schema.structureNodes, List.mem_flatMap, List.mem_map]
  constructor
  · rintro ⟨schema, hSchema, _, ⟨_, _, _, hNode, rfl⟩, hEq⟩
    cases hEq
    exact ⟨schema, hSchema, rfl, hNode⟩
  · rintro ⟨schema, hSchema, rfl, hNode⟩
    exact ⟨schema, hSchema, _, ⟨kind, by cases kind <;> simp, node, hNode, rfl⟩, rfl⟩

/-- Structures of a kind are as many as there are elements for them. -/
theorem countP_declaredStructures (schemas : List Schema) (kind : StructureKind) :
    (Schema.declaredStructures schemas).countP (·.2.1 = kind) =
      (schemas.flatMap fun schema => Markup.children schema.node kind.label).length := by
  induction schemas with
  | nil => rfl
  | cons schema schemas ih =>
      rw [Schema.declaredStructures, List.flatMap_cons, List.countP_append, List.flatMap_cons,
        List.length_append, ← ih]
      congr 1
      cases kind <;> simp [Schema.structureNodes, List.countP_map, Function.comp_def]

namespace Typing

variable {settings : Settings} (typing : Typing settings)

/-- The places of the structures that elements of a kind declare. -/
def placesOf (kind : StructureKind) : List TypeId :=
  (typing.announcements.filter (·.kind = kind)).map fun a => (a.declarationIn typing.stubs).id

variable {kind : StructureKind}

theorem mem_placesOf {id : TypeId} :
    id ∈ typing.placesOf kind ↔ ∃ a ∈ typing.announcements, a.kind = kind ∧
      (a.declarationIn typing.stubs).id = id := by
  simp [placesOf, and_assoc]

theorem nodup_placesOf : (typing.placesOf kind).Nodup :=
  typing.declares.nodup_ids.sublist (List.filter_sublist.map _)

/-- Each element of a kind declares a structure at a place of its own. -/
theorem length_placesOf : (typing.placesOf kind).length =
    (typing.schemas.flatMap fun schema => Markup.children schema.node kind.label).length := by
  rw [← countP_declaredStructures, placesOf, List.length_map, ← List.countP_eq_length_filter]
  have hKinds := mapM_eq_ok.1 typing.declares.announcements_read
  generalize Schema.declaredStructures typing.schemas = declared at hKinds ⊢
  generalize typing.announcements = announcements at hKinds ⊢
  induction hKinds with
  | nil => rfl
  | cons hRead _ ih =>
      obtain ⟨_, _, rfl⟩ := map_eq_ok.1 hRead
      rw [List.countP_cons, List.countP_cons, ih]

/-- No structure is declared by elements of two kinds. -/
theorem kind_eq_of_mem_placesOf {kind' : StructureKind} {id : TypeId}
    (h : id ∈ typing.placesOf kind) (h' : id ∈ typing.placesOf kind') : kind = kind' := by
  obtain ⟨a, ha, rfl, hId⟩ := typing.mem_placesOf.1 h
  obtain ⟨b, hb, rfl, hSame⟩ := typing.mem_placesOf.1 h'
  rw [List.inj_on_of_nodup_map typing.declares.nodup_ids ha hb (hId.trans hSame.symm)]

/-- The structures of a kind stay at the places at which they were announced, in each later
registry. -/
theorem hasDeclared_iff {r : Registry} (hKeeps : typing.stubs.Keeps r) (hDistinct : r.Distinct)
    {id : TypeId} : r.HasDeclared typing.schemas kind id ↔ id ∈ typing.placesOf kind := by
  rw [mem_placesOf]
  constructor
  · rintro ⟨schema, hSchema, node, hNode, name, hName, hLookup⟩
    obtain ⟨a, ha, hRead⟩ := exists_answer_of_mapM typing.declares.announcements_read
      (mem_declaredStructures.2 ⟨schema, hSchema, rfl, hNode⟩)
    obtain ⟨own, hOwn, rfl⟩ := map_eq_ok.1 hRead
    obtain rfl := Option.some.inj (hName.symm.trans (Markup.required_eq_ok.1 hOwn))
    obtain ⟨place, hFound, _, hPlace⟩ := typing.declares.lookup_announcement ha
    exact ⟨_, ha, rfl, hPlace.trans
      (Option.some.inj ((hKeeps.lookup hDistinct hFound).symm.trans hLookup))⟩
  · rintro ⟨a, ha, rfl, rfl⟩
    obtain ⟨place, hFound, _, hPlace⟩ := typing.declares.lookup_announcement ha
    obtain ⟨⟨space, kind, node⟩, hDeclared, hRead⟩ :=
      exists_input_of_mapM typing.declares.announcements_read ha
    obtain ⟨name, hName, rfl⟩ := map_eq_ok.1 hRead
    obtain ⟨schema, hSchema, rfl, hNode⟩ := mem_declaredStructures.1 hDeclared
    exact ⟨schema, hSchema, node, hNode, name, Markup.required_eq_ok.1 hName,
      hPlace ▸ hKeeps.lookup hDistinct hFound⟩

/-- Before members are derived, exactly the declared entity types have collection names. -/
theorem persists_linked {id : TypeId} :
    typing.linked.Persists id ↔ id ∈ typing.placesOf .entityType := by
  rw [mem_placesOf]
  constructor
  · rintro ⟨s, hStructure, hEntity⟩
    rw [typing.structure?_linked, Option.map_eq_some_iff] at hStructure
    obtain ⟨old, hOld, rfl⟩ := hStructure
    rcases typing.completed_cases hOld with ⟨a, ha, content, _, hDeclaration, hId, rfl⟩ | rfl
    · refine ⟨a, ha, ?_, hDeclaration ▸ hId⟩
      obtain ⟨space, kind, node, name⟩ := a
      cases kind with
      | complexType => cases hEntity
      | entityType => rfl
    · cases hEntity
  · rintro ⟨a, ha, hKind, rfl⟩
    obtain ⟨content, hContent, _, _, hReads⟩ := typing.exists_content ha
    have hHere := typing.structure?_completed_of_content hContent ha hReads.declaration_eq
    rw [hReads.declaration_eq] at hHere
    refine ⟨_, by rw [typing.structure?_linked, hHere]; rfl, ?_⟩
    obtain ⟨space, kind, node, name⟩ := a
    subst hKind
    rfl

/-- What is announced is at a place of the registry. -/
theorem lt_size_of_mem_placesOf {id : TypeId} (h : id ∈ typing.placesOf kind) :
    id.index < typing.linked.size := by
  obtain ⟨a, ha, _, rfl⟩ := typing.mem_placesOf.1 h
  obtain ⟨place, hFound, _, hPlace⟩ := typing.declares.lookup_announcement ha
  obtain ⟨_, hType, _⟩ := Registry.get?_of_lookup hFound
  rw [hPlace]
  exact Nat.lt_of_lt_of_le (Registry.lt_size_of_get? hType)
    (typing.keeps_completed.trans typing.keeps_linked).size_le

end Typing

namespace Reading

variable {settings : Settings} {document : Xml.Document} (reading : Reading settings document)

theorem hasDeclared_final {kind : StructureKind} {id : TypeId} :
    reading.final.registry.HasDeclared reading.schemas kind id ↔ id ∈ reading.placesOf kind :=
  reading.hasDeclared_iff (reading.keeps_completed.trans reading.keeps_final)
    reading.distinct_final

/-- In the end, declared entity types have collection names, and what members have given some. -/
theorem persists_final {id : TypeId} :
    reading.final.registry.Persists id ↔
      reading.final.registry.HasDeclared reading.schemas .entityType id ∨
        ∃ outcome ∈ reading.outcomes, outcome.member.entity = id ∨
          outcome.place? reading.final.registry "Select" = some id := by
  rw [reading.derives.persists_iff reading.distinct_linked, hasDeclared_final]
  exact or_congr_left reading.persists_linked

/-- The places of what is read of members, each once, are not those of declared structures. -/
theorem exists_selects :
    ∃ selects : List TypeId, selects.length = reading.outcomes.length ∧ selects.Nodup ∧
      (∀ id, id ∈ selects ↔ ∃ outcome ∈ reading.outcomes,
        outcome.place? reading.final.registry "Select" = some id) ∧
      ∀ id ∈ selects, ∀ kind, id ∉ reading.placesOf kind := by
  obtain ⟨selects, hSelects, hNodup, hSizes⟩ :=
    reading.derives.exists_selects reading.distinct_linked
  refine ⟨selects, hSelects.length_eq.symm, hNodup, fun id => ⟨?_, ?_⟩,
    fun id hMem kind hPlace => ?_⟩
  · intro hMem
    exact exists_left_of_forall₂ hSelects hMem
  · rintro ⟨outcome, hOutcome, hPlace⟩
    obtain ⟨found, hFound, hSame⟩ := exists_left_of_forall₂ hSelects.flip hOutcome
    rwa [← Option.some.inj (hSame.symm.trans hPlace)]
  · exact absurd (reading.lt_size_of_mem_placesOf hPlace) (Nat.not_lt.2 (hSizes id hMem))

/-- What is no entity by itself has a collection name only if a member is bound to it. -/
theorem bound_of_persists {id : TypeId} (hPersists : reading.final.registry.Persists id)
    (hPlain : reading.final.registry.HasDeclared reading.schemas .complexType id ∨
      reading.final.registry.HasPointRecord reading.schemas id ∨
      ∃ outcome ∈ reading.outcomes, outcome.WritesAt reading.final.registry id) :
    ∃ outcome ∈ reading.outcomes, outcome.member.entity = id := by
  obtain ⟨selects, _, _, hSelects, hApart⟩ := reading.exists_selects
  rcases reading.persists_final.1 hPersists with hDeclared | ⟨outcome, hOutcome, hBound | hSelect⟩
  · exfalso
    have ⟨schema, hSchema, node, hNode, name, hName, hLookup⟩ := hDeclared
    have hEntity := reading.hasDeclared_final.1 hDeclared
    rcases hPlain with hComplex | ⟨hFree, hPoint⟩ | ⟨writer, hWriter, hWrites⟩
    · cases reading.kind_eq_of_mem_placesOf (reading.hasDeclared_final.1 hComplex) hEntity
    · have hSame : (EdmType.edmNamespace, EdmType.pointName) = (schema.namespaceName, name) :=
        Registry.key_unique hPoint hLookup
      rw [hSame] at hFree
      exact hFree (List.mem_append_right _ (List.mem_filterMap.2
        ⟨_, mem_declaredStructures.2 ⟨schema, hSchema, rfl, hNode⟩,
          congrArg (Option.map (schema.namespaceName, ·)) hName⟩))
    · exact absurd (reading.lt_size_of_mem_placesOf hEntity) (Nat.not_lt.2
        (reading.derives.size_le_of_writesAt reading.distinct_linked reading.linked_sound hWriter
          hWrites))
  · exact ⟨outcome, hOutcome, hBound⟩
  · exfalso
    have hName : ∀ {space name : String}, reading.final.registry.lookup space name = some id →
        name = outcome.member.name ++ "Select" := fun hFound =>
      congrArg Prod.snd (Registry.key_unique hFound hSelect)
    rcases hPlain with hComplex | ⟨_, hPoint⟩ | ⟨writer, _, suffix, hSuffix, hNot, hWrites⟩
    · exact hApart id ((hSelects id).2 ⟨outcome, hOutcome, hSelect⟩) _
        (reading.hasDeclared_final.1 hComplex)
    · exact Member.append_ne_pointName outcome.member.name (by simp) (hName hPoint).symm
    · exact hNot (Member.eq_of_append_eq ((Member.suffixes_sublist _ _).subset hSuffix) (by simp)
        (hName hWrites)).2

/-- The entities that are counted come from elements, from members, and from what members are bound
to besides. -/
theorem entityTypes_eq (location : Location) :
    ∃ others : List TypeId, others.Nodup ∧
      (∀ id, id ∈ others ↔ (∃ outcome ∈ reading.outcomes, outcome.member.entity = id) ∧
        ¬ reading.final.registry.HasDeclared reading.schemas .entityType id ∧
        ¬ ∃ outcome ∈ reading.outcomes,
          outcome.place? reading.final.registry "Select" = some id) ∧
      (reading.definition location).summary.entityTypes =
        (reading.schemas.flatMap fun schema => Markup.children schema.node "EntityType").length +
          reading.outcomes.length + others.length := by
  obtain ⟨selects, hLength, hNodup, hSelects, hApart⟩ := reading.exists_selects
  -- what members are bound to that is an entity neither by its element nor as what is read
  let others := ((reading.outcomes.map (·.member.entity)).filter fun id =>
    id ∉ reading.placesOf .entityType ++ selects).dedup
  have hOthers : ∀ id, id ∈ others ↔
      (∃ outcome ∈ reading.outcomes, outcome.member.entity = id) ∧
        id ∉ reading.placesOf .entityType ∧ id ∉ selects := by
    intro id
    simp [others]
  have hPlaces : (reading.placesOf .entityType ++ selects ++ others).Nodup := by
    refine List.nodup_append'.2 ⟨List.nodup_append'.2 ⟨reading.nodup_placesOf, hNodup, ?_⟩,
      List.nodup_dedup _, ?_⟩
    · exact fun id hPlace hSelect => hApart id hSelect _ hPlace
    · intro id hMem hOther
      obtain ⟨_, hPlace, hSelect⟩ := (hOthers id).1 hOther
      exact (List.mem_append.1 hMem).elim hPlace hSelect
  refine ⟨others, List.nodup_dedup _, fun id => ?_, ?_⟩
  · rw [hOthers, hasDeclared_final, hSelects]
  · rw [Definition.entityTypes_eq_length hPlaces fun id => ?_, List.length_append,
      List.length_append, reading.length_placesOf, hLength]
    · rfl
    · refine Iff.trans ?_ reading.persists_final.symm
      rw [List.mem_append, List.mem_append, hOthers, hSelects, hasDeclared_final]
      constructor
      · rintro ((hPlace | ⟨outcome, hMem, hSelect⟩) | ⟨⟨outcome, hMem, hBound⟩, _⟩)
        · exact .inl hPlace
        · exact .inr ⟨outcome, hMem, .inr hSelect⟩
        · exact .inr ⟨outcome, hMem, .inl hBound⟩
      · rintro (hPlace | ⟨outcome, hMem, hBound | hSelect⟩)
        · exact .inl (.inl hPlace)
        · by_cases hOld : id ∈ reading.placesOf .entityType ∨ ∃ outcome ∈ reading.outcomes,
              outcome.place? reading.final.registry "Select" = some id
          · exact .inl hOld
          · exact .inr ⟨⟨outcome, hMem, hBound⟩, not_or.1 hOld⟩
        · exact .inl (.inr ⟨outcome, hMem, hSelect⟩)

end Reading

/-- In what a document defines, collection names mark the structures that entity elements declare,
those that are read of members, and those that members are bound to; and those are the entities
that the summary counts. -/
theorem isEntity_of_walk {settings : Settings} {location : Location} {document : Xml.Document}
    {definition : Definition} (h : (walk settings location document).result = .ok definition) :
    ∃ (schemas : List Schema) (outcomes : List MemberOutcome),
      Metadata.schemas document.root = .ok schemas ∧
      List.Forall₂ (MemberOutcome.Describes settings (Schema.aliases schemas) definition)
        (schemas.flatMap Schema.members) outcomes ∧
      definition.MarksEntities schemas outcomes := by
  obtain ⟨reading, rfl⟩ := walk_eq_ok.1 h
  refine ⟨reading.schemas, reading.outcomes, reading.schemas_read, reading.describes location,
    fun id s hStructure => ?_, fun id s hStructure hEntity hPlain =>
      reading.bound_of_persists ⟨s, hStructure, hEntity⟩ hPlain,
    reading.entityTypes_eq location⟩
  refine Iff.trans ⟨fun hEntity => ⟨s, hStructure, hEntity⟩, ?_⟩ reading.persists_final
  rintro ⟨found, hFound, hEntity⟩
  exact Option.some.inj (hStructure.symm.trans hFound) ▸ hEntity

/-- The sample has two entity types and one structure that is read of a member. -/
theorem isEntity_of_sample :
    ∃ (definition : Definition) (schemas : List Schema) (outcomes : List MemberOutcome),
      (walk {} ⟨"https", "localhost", "/"⟩ sample).result = .ok definition ∧
      Metadata.schemas sample.root = .ok schemas ∧
      definition.MarksEntities schemas outcomes ∧ definition.summary = ⟨1, 5, 3, 2, 2⟩ := by
  obtain ⟨definition, hDefinition, hSummary⟩ := walk_sample
  obtain ⟨schemas, outcomes, hSchemas, _, hMarks⟩ := isEntity_of_walk hDefinition
  exact ⟨definition, schemas, outcomes, hDefinition, hSchemas, hMarks, hSummary⟩

/-- The set of places, which are of a complex type. -/
def samplePlainSet : Xml.Node :=
  sampleElement "EntitySet" [("Name", "Places"), ("EntityType", "Shop.Place")] []

/-- The schema of places. It declares no entity type. -/
def samplePlainSchema : Schema where
  namespaceName := "Shop"
  node := sampleElement "Schema" [("Namespace", "Shop")] [
    sampleElement "ComplexType" [("Name", "Place")] [],
    sampleElement "EntityContainer" [("Name", "Service")] [samplePlainSet]]

/-- A document of places. -/
def samplePlain : Xml.Document :=
  sampleDocument samplePlainSchema.node.children

/-- Places are entities although no element declares them as such, and they are counted. -/
theorem isEntity_of_places :
    ∃ definition : Definition,
      (walk {} ⟨"https", "localhost", "/"⟩ samplePlain).result = .ok definition ∧
      Metadata.schemas samplePlain.root = .ok [samplePlainSchema] ∧
      Markup.children samplePlainSchema.node "EntityType" = [] ∧
      samplePlainSchema.members = [⟨"Shop", .entitySet, samplePlainSet⟩] ∧
      definition.summary.entityTypes = 2 ∧
      ¬ ∀ id s, definition.registry.structure? id = some s →
        (s.isEntity = true ↔ definition.registry.HasDeclared [samplePlainSchema] .entityType id ∨
          ∃ node ∈ samplePlainSchema.members, ∃ name, node.node.attribute? "Name" = some name ∧
            definition.registry.lookup node.namespaceName (name ++ "Select") = some id) := by
  have hFound : (walk {} ⟨"https", "localhost", "/"⟩ samplePlain).result.toOption.map
      (fun definition => ((definition.registry.structure? ⟨0⟩).map Structure.isEntity,
        definition.registry.lookup "Shop" "PlacesSelect", definition.summary)) =
      some (some true, some ⟨2⟩, ⟨0, 3, 2, 0, 2⟩) := by
    rw [result_walk]
    decide +kernel
  obtain ⟨definition, hDefinition, hEq⟩ := Option.map_eq_some_iff.1 hFound
  simp only [Prod.mk.injEq] at hEq
  obtain ⟨hEntity, hSelect, hSummary⟩ := hEq
  obtain ⟨s, hStructure, hEntity⟩ := Option.map_eq_some_iff.1 hEntity
  have hNone : Markup.children samplePlainSchema.node "EntityType" = [] := rfl
  have hMembers : samplePlainSchema.members = [⟨"Shop", .entitySet, samplePlainSet⟩] := rfl
  refine ⟨definition, toOption_eq_some.1 hDefinition, rfl, hNone, hMembers, ?_, fun hAll => ?_⟩
  · rw [hSummary]
  · rcases (hAll ⟨0⟩ s hStructure).1 hEntity with ⟨schema, hSchema, node, hNode, _⟩ |
        ⟨node, hNode, name, hName, hLookup⟩
    · rw [List.mem_singleton.1 hSchema] at hNode
      rw [StructureKind.label, hNone] at hNode
      cases hNode
    · rw [hMembers, List.mem_singleton] at hNode
      subst hNode
      obtain rfl : "Places" = name := Option.some.inj hName
      cases hSelect.symm.trans hLookup

end Metadata

end Csdl
