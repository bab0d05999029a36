import Csdl.Proofs.Metadata.Census
import Csdl.Proofs.Registry.Chain

/-! Primary keys from the document to the functions. The element of a structure marks at most one of
its own properties, a type takes over the key that is declared farthest along its bases, and the
functions of a member that need a key are there if its type has one. -/
namespace Csdl

open Query (bind_eq_ok)

/-- The name that the only part of the only key of an element gives. There is none without a key,
and none with keys of several parts. -/
def keyName? (node : Xml.Node) : Option String :=
  match (Markup.children node "Key").flatMap (Markup.children · "PropertyRef") with
  | [part] => part.attribute? "Name"
  | _ => none

/-- The place, among the properties of an element, of the first one that its key names. -/
def keyPlace? (node : Xml.Node) : Option Nat := do
  let name ← keyName? node
  (Markup.children node "Property").findIdx? (·.attribute? "Name" = some name)

/-- A structure in which exactly the field is marked that its declaration says, if it says one. -/
structure Structure.MarkedBy (node : Xml.Node) (s : Structure) : Prop where
  marked_iff : ∀ i, (∃ field, s.fields[i]? = some field ∧ field.primaryKey = true) ↔
    keyPlace? node = some i
  named : ∀ field ∈ s.fields, field.primaryKey = true → keyName? node = some field.name

namespace Field

/-- Changing the first field of a name changes the field at its place. -/
theorem getElem?_modifyFirst (name : String) (change : Field → Field) (fields : List Field)
    (i : Nat) :
    (modifyFirst name change fields)[i]? =
      if fields.findIdx? (·.name = name) = some i then (fields[i]?).map change else fields[i]? := by
  induction fields generalizing i with
  | nil => simp [modifyFirst]
  | cons field fields ih =>
      rw [modifyFirst, List.findIdx?_cons]
      by_cases hName : field.name = name
      · cases i <;> simp [hName]
      · cases i with
        | zero => simp [hName]
        | succ i => simp [hName, ih]

end Field

namespace Content

section Reads

variable {scope : Scope} {declaration : Declaration} {properties : List Field}
  {keys : List String} {content : Content} (h : Reads scope declaration properties keys content)

include h

/-- Before a key is marked, no field is. -/
theorem Reads.unmarked :
    ∀ field ∈ content.relations.foldl markForeignKeys properties, field.primaryKey = false := by
  have hMarks : (content.relations.foldl markForeignKeys properties).map (·.primaryKey) =
      properties.map (·.primaryKey) :=
    map_foldl_markForeignKeys (fun _ _ => rfl) _ _
  intro field hField
  have hMem := List.mem_map_of_mem (f := Field.primaryKey) hField
  rw [hMarks] at hMem
  obtain ⟨property, hProperty, hSame⟩ := List.mem_map.1 hMem
  obtain ⟨node, _, hRead⟩ := exists_input_of_mapM h.properties_read hProperty
  obtain ⟨_, _, _, _, _, _, _, _, _, rfl⟩ := readField_eq_ok.1 hRead
  exact hSame.symm

/-- Fields stand where the properties of their names do. -/
theorem Reads.findIdx?_eq (name : String) :
    (content.relations.foldl markForeignKeys properties).findIdx? (·.name = name) =
      (Markup.children declaration.node "Property").findIdx?
        (·.attribute? "Name" = some name) := by
  have hNames : (content.relations.foldl markForeignKeys properties).map (·.name) =
      properties.map (·.name) :=
    map_foldl_markForeignKeys (fun _ _ => rfl) _ _
  have hMarks : (content.relations.foldl markForeignKeys properties).findIdx? (·.name = name) =
      properties.findIdx? (·.name = name) := by
    have hFound := congrArg (List.findIdx? (· = name)) hNames
    rwa [List.findIdx?_map, List.findIdx?_map] at hFound
  rw [hMarks]
  refine (findIdx?_eq_of_mapM h.properties_read fun node _ field hRead => ?_).symm
  obtain ⟨_, _, _, _, _, hName, _, _, _, rfl⟩ := readField_eq_ok.1 hRead
  exact decide_eq_decide.2 (by rw [Markup.required_eq_ok.1 hName, Option.some.injEq]; rfl)

/-- An element tells a key by its name exactly if it refers to one property. -/
theorem Reads.keyName?_eq : keyName? declaration.node = match keys with
    | [key] => some key
    | _ => none := by
  have hKeys := mapM_eq_ok.1 h.keys_read
  unfold keyName?
  generalize (Markup.children declaration.node "Key").flatMap
    (Markup.children · "PropertyRef") = parts at hKeys ⊢
  cases hKeys with
  | nil => rfl
  | cons hName hRest =>
      cases hRest with
      | nil => exact Markup.required_eq_ok.1 hName
      | cons _ _ => rfl

/-- The place of a key is that of the first field of its name, also once foreign keys are marked. -/
theorem Reads.keyPlace?_eq :
    keyPlace? declaration.node = match keys with
      | [key] => (content.relations.foldl markForeignKeys properties).findIdx? (·.name = key)
      | _ => none := by
  rw [keyPlace?, h.keyName?_eq]
  match keys with
  | [] => rfl
  | [key] => exact (h.findIdx?_eq key).symm
  | _ :: _ :: _ => rfl

/-- Reading marks a field exactly at the place that the declaration says. -/
theorem Reads.marked_iff (i : Nat) :
    (∃ field, content.fields[i]? = some field ∧ field.primaryKey = true) ↔
      keyPlace? declaration.node = some i := by
  rw [h.keyPlace?_eq, h.fields_eq]
  have hNone : ¬ ∃ field, (content.relations.foldl markForeignKeys properties)[i]? = some field ∧
      field.primaryKey = true := by
    rintro ⟨field, hField, hMarked⟩
    rw [h.unmarked field (List.mem_of_getElem? hField)] at hMarked
    cases hMarked
  match keys with
  | [] => exact iff_of_false hNone (by simp)
  | _ :: _ :: _ => exact iff_of_false hNone (by simp)
  | [key] =>
      simp only [markKey, Field.getElem?_modifyFirst]
      split
      · next hPlace =>
          obtain ⟨hSize, _⟩ := List.findIdx?_eq_some_iff_getElem.1 hPlace
          have hField := List.getElem?_eq_getElem hSize
          exact iff_of_true ⟨_, congrArg (Option.map _) hField, rfl⟩ hPlace
      · next hElsewhere => exact iff_of_false hNone hElsewhere

/-- A marked field has the name of the key. -/
theorem Reads.named : ∀ field ∈ content.fields, field.primaryKey = true →
    keyName? declaration.node = some field.name := by
  intro field hMem hMarked
  obtain ⟨i, hField⟩ := List.getElem?_of_mem hMem
  have hPlace := (h.marked_iff i).1 ⟨field, hField, hMarked⟩
  have hNames : (content.relations.foldl markForeignKeys properties).map (·.name) =
      content.fields.map (·.name) := by
    rw [h.fields_eq, map_markKey fun _ => rfl]
  rw [h.keyPlace?_eq] at hPlace
  rw [h.keyName?_eq]
  match keys with
  | [] => cases hPlace
  | _ :: _ :: _ => cases hPlace
  | [key] =>
      obtain ⟨hSize, hKey, _⟩ := List.findIdx?_eq_some_iff_getElem.1 hPlace
      have hSame := congrArg (·[i]?) hNames
      simp only [List.getElem?_map, List.getElem?_eq_getElem hSize, hField, Option.map_some,
        Option.some.injEq] at hSame
      rw [← hSame]
      exact congrArg some (of_decide_eq_true hKey).symm

end Reads

end Content

/-- The functions of a member that need a key, by the key that there is. Each takes it first. -/
structure MemberOutcome.Keyed (key : Option Field) (outcome : MemberOutcome) : Prop where
  get_iff : (∃ f ∈ outcome.functions, f.operation = .get) ↔ key.isSome = true
  delete_iff : (∃ f ∈ outcome.functions, f.operation = .delete) ↔
    key.isSome = true ∧ outcome.capabilities.flags.deletable = true
  update_iff : (∃ f ∈ outcome.functions, f.operation = .update) ↔
    key.isSome = true ∧ outcome.capabilities.flags.updatable = true
  key_first : ∀ f ∈ outcome.functions,
    f.operation = .get ∨ f.operation = .delete ∨ f.operation = .update →
      ∃ field, key = some field ∧ f.input.fields.head? = some field.asRequired

/-- Functions that are made in the order of operations are keyed: those that need a key are there as
the flags of the member allow, and only if there is one. -/
theorem MemberOutcome.keyed_of_functionsAt {outcome : MemberOutcome} {key : Option Field}
    {place : Nat} (hGettable : outcome.capabilities.flags.gettable = true)
    (hFunctions : outcome.functions =
      outcome.member.functionsAt outcome.capabilities.flags key place) : outcome.Keyed key := by
  have hOffers : ∀ operation, (∃ f ∈ outcome.functions, f.operation = operation) ↔
      Member.offers outcome.capabilities.flags key.isSome operation = true := by
    intro operation
    have hAll : operation ∈ Operation.all := by cases operation <;> decide
    have hOperations := Member.map_operation_functionsAt outcome.member
      outcome.capabilities.flags key place
    rw [← hFunctions] at hOperations
    rw [← List.mem_map, hOperations, List.mem_filter, and_iff_right hAll]
  refine ⟨?_, ?_, ?_, fun f hMem hOperation => ?_⟩
  · rw [hOffers, Member.offers, hGettable, Bool.true_and]
  · rw [hOffers, Member.offers, Bool.and_eq_true, and_comm]
  · rw [hOffers, Member.offers, Bool.and_eq_true, and_comm]
  · rw [hFunctions, Member.mem_functionsAt] at hMem
    rcases hMem with ⟨_, rfl⟩ | ⟨_, rfl⟩ | ⟨field, hKey, ⟨_, rfl⟩ | ⟨_, rfl⟩ | ⟨_, rfl⟩⟩
    · rcases hOperation with h | h | h <;> cases h
    · rcases hOperation with h | h | h <;> cases h
    · exact ⟨field, hKey, rfl⟩
    · exact ⟨field, hKey, rfl⟩
    · exact ⟨field, hKey, rfl⟩

namespace Derivation

/-- Each member has been derived where all was sound, and what it was bound to and what it has added
have lasted. -/
theorem DerivesAll.forall₂_retains {settings : Settings} {aliases : AliasTable}
    {navigations : List Navigation} {state last : Derivation} {nodes : List MemberNode}
    {outcomes : List MemberOutcome}
    (h : DerivesAll settings aliases navigations state nodes outcomes last)
    (hDistinct : state.registry.Distinct) (hSound : state.registry.Sound navigations) :
    List.Forall₂ (fun node outcome => ∃ before after,
      Derives settings aliases navigations before node outcome after ∧
        before.registry.Distinct ∧ before.registry.Sound navigations ∧
        outcome.bound.Retains last.registry ∧ after.registry.Retains last.registry)
      nodes outcomes := by
  induction h with
  | nil state => exact .nil
  | @cons state middle last node nodes outcome outcomes first rest ih =>
      have hMiddle := first.distinct hDistinct
      have hLater := rest.retains hMiddle
      obtain ⟨entity, _, hNext, _⟩ := first.exists_entity hDistinct
      have hBound : outcome.bound.Retains last.registry :=
        Registry.Retains.trans (hNext ▸ Registry.retains_append _ _) hLater
      exact .cons ⟨_, _, first, hDistinct, hSound, hBound, hLater⟩
        (ih hMiddle (first.sound hDistinct hSound).1)

/-- A member has the functions that the primary key of its type allows. -/
theorem Derives.keyed {settings : Settings} {aliases : AliasTable} {navigations : List Navigation}
    {state next : Derivation} {node : MemberNode} {outcome : MemberOutcome}
    (h : Derives settings aliases navigations state node outcome next)
    (hDistinct : state.registry.Distinct) (hSound : state.registry.Sound navigations)
    {r : Registry} (hRetains : outcome.bound.Retains r) :
    outcome.Keyed (r.primaryKey? outcome.member.entity) := by
  obtain ⟨entity, hEntity, _, _, hFunctions⟩ := h.exists_entity hDistinct
  have hLt := Registry.lt_size_of_get? (Registry.structure?_eq_some.1 hEntity)
  have hGettable : outcome.capabilities.flags.gettable = true := by
    have hRead := (ownCapabilities_eq node).symm.trans h.capabilities_read
    rw [← Except.ok.inj hRead]
    rfl
  rw [hRetains.primaryKey? (h.bound_sound hSound).base_lt_size hLt]
  exact MemberOutcome.keyed_of_functionsAt hGettable hFunctions

end Derivation

namespace Metadata

namespace Reading

variable {settings : Settings} {document : Xml.Document} (reading : Reading settings document)

/-- What was complete without links is there in the end, with more fields that are not marked. -/
theorem structure?_final_cases {id : TypeId} (hId : id.index < reading.completed.size)
    {s : Structure} (h : reading.final.registry.structure? id = some s) :
    ∃ old name, reading.completed.structure? id = some old ∧
      s = { old with fields := old.fields ++ reading.linkFields id, collectionName := name } := by
  have hLinkedSize : id.index < reading.linked.size :=
    Nat.lt_of_lt_of_le hId reading.keeps_linked.size_le
  rcases reading.retains_final.structure?_cases h with hNew | ⟨linked, name, hLinked, rfl⟩
  · exact absurd hLinkedSize (Nat.not_lt.2 hNew)
  · rw [reading.structure?_linked, Option.map_eq_some_iff] at hLinked
    obtain ⟨old, hOld, rfl⟩ := hLinked
    exact ⟨old, name, hOld, rfl⟩

theorem unmarked_of_linkFields {id : TypeId} {field : Field}
    (h : field ∈ reading.linkFields id) : field.primaryKey = false := by
  obtain ⟨_, _, _, _, hSome⟩ := Link.mem_fieldsOf_attachments.1 h
  obtain ⟨_, _, _, _, _, _, rfl⟩ := Link.field?_eq_some.1 hSome
  rfl

/-- Along the bases of declared types nothing is left out. -/
theorem unrestricted_baseChain {id : TypeId} (hId : id.index < reading.completed.size) :
    ∀ member ∈ reading.final.registry.baseChain id, member.2.restricted = [] := by
  have hBases : ∀ place base, place.index < reading.completed.size →
      reading.final.registry.base? place = some base → base.index < reading.completed.size := by
    intro place base hPlace hBase
    obtain ⟨s, hStructure, hSome⟩ := Option.bind_eq_some_iff.1 hBase
    obtain ⟨old, name, hOld, rfl⟩ := reading.structure?_final_cases hPlace hStructure
    exact reading.completed_sound.base_lt_size place old base hOld hSome
  intro member hMember
  have hPlace := Registry.closed_of_mem_chainFrom hBases hId hMember
  obtain ⟨old, name, hOld, hEq⟩ :=
    reading.structure?_final_cases hPlace (Registry.structure?_of_mem_chainFrom hMember)
  rw [hEq]
  rcases reading.completed_cases hOld with ⟨_, _, _, _, _, _, rfl⟩ | rfl
  · rfl
  · rfl

/-- In the end a declared structure is marked as its declaration says. -/
theorem markedBy_final {a : Announcement} {content : Content} {properties : List Field}
    {keys : List String}
    (hReads : Content.Reads reading.scope (a.declarationIn reading.stubs) properties keys content)
    {s : Structure} {id : TypeId}
    (hFields : s.fields = content.fields ++ reading.linkFields id) : s.MarkedBy a.node := by
  have hMarked : ∀ {i : Nat} {field : Field}, s.fields[i]? = some field → field.primaryKey = true →
      content.fields[i]? = some field := by
    intro i field hField hMark
    rw [hFields] at hField
    by_cases hSize : i < content.fields.length
    · rwa [List.getElem?_append_left hSize] at hField
    · rw [List.getElem?_append_right (Nat.le_of_not_lt hSize)] at hField
      rw [reading.unmarked_of_linkFields (List.mem_of_getElem? hField)] at hMark
      cases hMark
  constructor
  · intro i
    refine Iff.trans ⟨?_, ?_⟩ (hReads.marked_iff i)
    · rintro ⟨field, hField, hMark⟩
      exact ⟨field, hMarked hField hMark, hMark⟩
    · rintro ⟨field, hField, hMark⟩
      refine ⟨field, ?_, hMark⟩
      rw [hFields, List.getElem?_append_left (List.getElem?_eq_some_iff.1 hField).1, hField]
  · intro field hMem hMark
    obtain ⟨i, hField⟩ := List.getElem?_of_mem hMem
    exact hReads.named field (List.mem_of_getElem? (hMarked hField hMark)) hMark

end Reading

/-- In what a document defines, a declared structure is marked at the property that its only key
names; its primary key is the marked field of the farthest type along its bases that has one; and a
member has the functions that need a key if its type has one, each with that key in front. -/
theorem keys_of_walk {settings : Settings} {location : Location} {document : Xml.Document}
    {definition : Definition} (h : (walk settings location document).result = .ok definition) :
    ∃ (schemas : List Schema) (outcomes : List MemberOutcome),
      Metadata.schemas document.root = .ok schemas ∧
      (∀ schema ∈ schemas, ∀ declared ∈ schema.structureNodes, ∃ name id s,
        declared.2.attribute? "Name" = some name ∧
        definition.registry.lookup schema.namespaceName name = some id ∧
        definition.registry.structure? id = some s ∧ s.MarkedBy declared.2 ∧
        ∃ chain, (∀ other, definition.registry.IsBaseChain id other ↔ other = chain) ∧
          definition.registry.primaryKey? id =
            chain.reverse.findSome? definition.registry.markedField?) ∧
      definition.functions = outcomes.flatMap (·.functions) ∧
      List.Forall₂ (fun node outcome =>
          outcome.Describes settings (Schema.aliases schemas) definition node ∧
          outcome.Keyed (definition.registry.primaryKey? outcome.member.entity))
        (schemas.flatMap Schema.members) outcomes := by
  obtain ⟨reading, rfl⟩ := walk_eq_ok.1 h
  refine ⟨reading.schemas, reading.outcomes, reading.schemas_read,
    fun schema hSchema declared hDeclared => ?_, reading.derives.functions_eq, ?_⟩
  · have hMem : (schema.namespaceName, declared) ∈ Schema.declaredStructures reading.schemas :=
      List.mem_flatMap.2 ⟨schema, hSchema, List.mem_map_of_mem hDeclared⟩
    obtain ⟨a, ha, hRead⟩ := exists_answer_of_mapM reading.declares.announcements_read hMem
    obtain ⟨name, hName, rfl⟩ := map_eq_ok.1 hRead
    obtain ⟨content, hContent, properties, keys, hReads⟩ := reading.exists_content ha
    obtain ⟨id, hFound, hStub, hId⟩ := reading.declares.lookup_announcement ha
    obtain ⟨collection, hFinal⟩ := reading.structure?_final hContent ha hReads.declaration_eq
    rw [hReads.declaration_eq, hId] at hFinal
    have hLookup := (reading.keeps_completed.trans reading.keeps_final).lookup
      reading.distinct_final hFound
    have hLt : id.index < reading.completed.size :=
      Nat.lt_of_lt_of_le (Registry.lt_size_of_get? (Registry.structure?_eq_some.1 hStub))
        reading.keeps_completed.size_le
    exact ⟨name, id, _, Markup.required_eq_ok.1 hName, hLookup, hFinal,
      reading.markedBy_final hReads rfl, _, fun _ => Registry.isBaseChain_iff hFinal,
      Registry.primaryKey?_of_unrestricted (reading.unrestricted_baseChain hLt)⟩
  · refine List.Forall₂.mp (fun node outcome hDescribes hDerived => ⟨hDescribes, ?_⟩)
      (reading.describes location)
      (reading.derives.forall₂_retains reading.distinct_linked reading.linked_sound)
    obtain ⟨before, after, hDerives, hDistinct, hSound, hRetains, _⟩ := hDerived
    exact hDerives.keyed hDistinct hSound hRetains

/-- The order of the sample takes its key over from the record that it extends. -/
theorem keys_of_sample :
    ∃ (definition : Definition) (schemas : List Schema),
      (walk {} ⟨"https", "localhost", "/"⟩ sample).result = .ok definition ∧
      Metadata.schemas sample.root = .ok schemas ∧
      keyPlace? sampleOrder = none ∧ keyPlace? sampleRecord = some 0 ∧
      ∀ schema ∈ schemas, ∀ declared ∈ schema.structureNodes, ∃ name id s,
        declared.2.attribute? "Name" = some name ∧
        definition.registry.lookup schema.namespaceName name = some id ∧
        definition.registry.structure? id = some s ∧ s.MarkedBy declared.2 ∧
        ∃ chain, (∀ other, definition.registry.IsBaseChain id other ↔ other = chain) ∧
          definition.registry.primaryKey? id =
            chain.reverse.findSome? definition.registry.markedField? := by
  obtain ⟨definition, hDefinition, _⟩ := walk_sample
  obtain ⟨schemas, _, hSchemas, hDeclared, _⟩ := keys_of_walk hDefinition
  exact ⟨definition, schemas, hDefinition, hSchemas, by decide, by decide, hDeclared⟩

end Metadata

end Csdl
