import Csdl.Proofs.Metadata.Integrity

/-! What of the stages is there in the end. References denote what they denoted for the structures
that made them, primary keys are those of the registry without links, and a declared structure has
its own fields and those of its own links. -/
namespace Csdl

namespace Registry

/-- The point record, or the type in its place, has its name. -/
theorem get?_withPoint_pointId (r : Registry) :
    ∃ type, r.withPoint.get? r.pointId = some type ∧
      type.key = (EdmType.edmNamespace, EdmType.pointName) := by
  rcases r.withPoint_cases with ⟨id, hFound, hId, hEq⟩ | ⟨_, hId, hEq⟩
  · rw [hId, hEq]
    exact get?_of_lookup hFound
  · rw [hId, hEq, get?_push, if_pos rfl]
    exact ⟨_, rfl, rfl⟩

end Registry

namespace Metadata

namespace Typing

variable {settings : Settings} (typing : Typing settings)

theorem owner_eq {content : Content} (hContent : content ∈ typing.contents)
    {relation : Relation} (hRelation : relation ∈ content.relations) :
    relation.navigation.owner = content.declaration.id := by
  obtain ⟨_, _, _, _, hReads⟩ := typing.exists_announcement hContent
  exact hReads.owner_eq hRelation

/-- The fields that links add to a declared structure come from its own relations. -/
theorem linkFields_eq {content : Content} (hContent : content ∈ typing.contents) :
    typing.linkFields content.declaration.id = content.relations.filterMap fun relation =>
      if content.isReferenced relation then none
      else Link.field? typing.completed relation.navigation := by
  rw [linkFields, Link.fieldsOf_attachments, Link.notedOf_of_mem
    (fun _ hc _ hRelation => typing.owner_eq hc hRelation) typing.nodup_ids hContent,
    List.filterMap_map]
  rfl

/-- There are only announced structures with the fields of their links, and the point record. -/
theorem linked_cases {id : TypeId} {s : Structure} (h : typing.linked.structure? id = some s) :
    (∃ a ∈ typing.announcements, ∃ content ∈ typing.contents,
      content.declaration = a.declarationIn typing.stubs ∧ content.declaration.id = id ∧
        s = (content.complete (a.stub settings)).addAll (typing.linkFields id)) ∨
      s = Registry.pointRecord := by
  rw [typing.structure?_linked, Option.map_eq_some_iff] at h
  obtain ⟨old, hOld, rfl⟩ := h
  by_cases hDeclared : ∃ content ∈ typing.contents, content.declaration.id = id
  · obtain ⟨content, hContent, rfl⟩ := hDeclared
    obtain ⟨a, ha, _, _, hReads⟩ := typing.exists_announcement hContent
    have hHere := typing.structure?_completed_of_content hContent ha hReads.declaration_eq
    obtain rfl := Option.some.inj (hOld.symm.trans hHere)
    exact .inl ⟨a, ha, content, hContent, hReads.declaration_eq, rfl, rfl⟩
  · push Not at hDeclared
    rcases typing.completed_cases hOld with ⟨_, _, content, hContent, _, hId, _⟩ | rfl
    · exact absurd hId (hDeclared content hContent)
    · -- no link is made for what is not declared
      right
      rw [linkFields, Link.fieldsOf_attachments, Link.notedOf_eq_nil
        (fun _ hc _ hRelation => typing.owner_eq hc hRelation) hDeclared]
      rfl

theorem keeps_linked : typing.completed.Keeps typing.linked :=
  .of_outline_eq typing.outline_linked

section Later

variable {r : Registry} (hKeeps : typing.completed.Keeps r) (hDistinct : r.Distinct)

include hKeeps hDistinct

/-- Where a structure uses the point record, its place does not change any more. -/
theorem pointId_later {content : Content} (hContent : content ∈ typing.contents)
    (hUses : content.uses typing.stubs.pointId = true) : r.pointId = typing.stubs.pointId := by
  obtain ⟨type, hType, hKey⟩ := typing.stubs.get?_withPoint_pointId
  rw [← typing.get?_settle hContent hUses] at hType
  obtain ⟨found, hFound, hOutline⟩ :=
    (Registry.Keeps.of_outline_eq typing.outline_completed).get? hType
  obtain ⟨later, hLater, hSame⟩ := hKeeps.get? hFound
  refine Registry.pointId_of_lookup (hDistinct.lookup_eq_some_iff.2 ⟨later, hLater, ?_⟩)
  rw [← NamedType.key_outline, hSame, NamedType.key_outline, ← NamedType.key_outline, hOutline,
    NamedType.key_outline, hKey]

/-- The references of structures denote in later states what they have denoted before. -/
theorem refer_later {content : Content} (hContent : content ∈ typing.contents)
    {declaration : Declaration} {properties : List Field} {keys : List String}
    (hReads : Content.Reads typing.scope declaration properties keys content)
    {reference : String} (hReference : reference ∈ Content.references declaration.node)
    {type : TypeRef} (hType : typing.scope.refer reference = .ok type) :
    r.refer (Schema.aliases typing.schemas) reference = .ok type := by
  refine (typing.keeps_completed.trans hKeeps).refer hDistinct (fun hPoint => ?_) hType
  have hRefer : typing.scope.refer reference = .ok (.named typing.stubs.pointId) :=
    Registry.refer_eq_named.2 (.inl ⟨hPoint, rfl⟩)
  exact typing.pointId_later hKeeps hDistinct hContent
    (hReads.uses_iff_refer.2 ⟨reference, hReference, hRefer⟩)

/-- What a child of a declaration refers to is denoted by the same reference in each later
registry. -/
theorem refer_child_later {content : Content} (hContent : content ∈ typing.contents)
    {declaration : Declaration} {properties : List Field} {keys : List String}
    (hReads : Content.Reads typing.scope declaration properties keys content) {node : Xml.Node}
    (hNode : node ∈ Markup.children declaration.node "Property" ++
      Markup.children declaration.node "NavigationProperty") {reference : String} {type : TypeRef}
    (hReference : Content.fieldReference? node = some reference)
    (hType : typing.scope.refer reference = .ok type) :
    r.refer (Schema.aliases typing.schemas) reference = .ok type :=
  typing.refer_later hKeeps hDistinct hContent hReads
    (List.mem_append_right _ (List.mem_filterMap.2 ⟨node, hNode, hReference⟩)) hType

end Later

/-- The fields of links are not primary, so links change no primary key. -/
theorem primaryKey?_linked {id : TypeId} (hId : id.index < typing.completed.size) :
    typing.linked.primaryKey? id = typing.completed.primaryKey? id := by
  refine Registry.primaryKey?_eq_of_keyPart typing.keeps_linked.size_le
    typing.completed_sound.base_lt_size (fun id _ => ?_) hId
  rw [structure?_linked, Option.map_map]
  refine congrArg (fun view => (typing.completed.structure? id).map view) ?_
  funext s
  have hNone : (typing.linkFields id).filter (·.primaryKey) = [] := by
    apply List.filter_eq_nil_iff.2
    intro field hField
    obtain ⟨_, _, _, _, hSome⟩ := Link.mem_fieldsOf_attachments.1 hField
    obtain ⟨_, _, _, _, _, _, rfl⟩ := Link.field?_eq_some.1 hSome
    simp [Link.keyField]
  simp [Structure.keyPart, Structure.addAll, hNone]

end Typing

namespace Reading

variable {settings : Settings} {document : Xml.Document} (reading : Reading settings document)

theorem keeps_final : reading.completed.Keeps reading.final.registry :=
  reading.keeps_linked.trans (reading.derives.keeps reading.distinct_linked)

theorem distinct_final : reading.final.registry.Distinct :=
  reading.derives.distinct reading.distinct_linked

theorem retains_final : reading.linked.Retains reading.final.registry :=
  reading.derives.retains reading.distinct_linked

/-- Neither links nor members change a primary key. -/
theorem primaryKey?_final {id : TypeId} (hId : id.index < reading.completed.size) :
    reading.final.registry.primaryKey? id = reading.completed.primaryKey? id := by
  rw [reading.retains_final.primaryKey? reading.linked_sound.base_lt_size
    (Nat.lt_of_lt_of_le hId reading.keeps_linked.size_le), reading.primaryKey?_linked hId]

/-- In the end a declared structure has its own fields and those of its links. -/
theorem structure?_final {content : Content} (hContent : content ∈ reading.contents)
    {a : Announcement} (ha : a ∈ reading.announcements)
    (hDeclaration : content.declaration = a.declarationIn reading.stubs) :
    ∃ name, reading.final.registry.structure? content.declaration.id =
      some { a.stub settings with
        base := content.base
        fields := content.fields ++ reading.linkFields content.declaration.id
        collectionName := name } := by
  have hLinked : reading.linked.structure? content.declaration.id =
      some ((content.complete (a.stub settings)).addAll
        (reading.linkFields content.declaration.id)) := by
    rw [reading.structure?_linked, reading.structure?_completed_of_content hContent ha hDeclaration]
    rfl
  exact reading.retains_final.structure? hLinked

end Reading

end Metadata

end Csdl
