import Csdl.Proofs.Metadata.Reading

/-! What there is between the stages. Each announced structure has its content once all content is
in place, and the fields of its links once links are made; besides them there is at most the point
record. -/
namespace Csdl

/-- The stubs with the point record, if one of some structures uses it. -/
def Content.settle (stubs : Registry) (contents : List Content) : Registry :=
  if contents.any (·.uses stubs.pointId) then stubs.withPoint else stubs

namespace Metadata.Typing

variable {settings : Settings} (typing : Typing settings)

/-- What the references of structures are resolved among. -/
def scope : Scope :=
  ⟨Schema.aliases typing.schemas, typing.stubs⟩

/-- Contents are read of announcements one by one, in their order. -/
theorem forall_contents :
    List.Forall₂ (fun a content =>
      (Content.read typing.scope (a.declarationIn typing.stubs)).result = .ok content)
      typing.announcements typing.contents := by
  have h := mapM_eq_ok.1 typing.contents_read
  rwa [List.forall₂_map_left_iff] at h

/-- Each announced structure has a content. -/
theorem exists_content {a : Announcement} (ha : a ∈ typing.announcements) :
    ∃ content ∈ typing.contents, ∃ properties keys,
      Content.Reads typing.scope (a.declarationIn typing.stubs) properties keys content := by
  obtain ⟨content, hContent, hRead⟩ :=
    exists_answer_of_mapM typing.contents_read (List.mem_map_of_mem ha)
  exact ⟨content, hContent, Content.read_eq_ok.1 hRead⟩

/-- Each content is that of an announced structure. -/
theorem exists_announcement {content : Content} (hContent : content ∈ typing.contents) :
    ∃ a ∈ typing.announcements, ∃ properties keys,
      Content.Reads typing.scope (a.declarationIn typing.stubs) properties keys content := by
  obtain ⟨declaration, hDeclaration, hRead⟩ :=
    exists_input_of_mapM typing.contents_read hContent
  obtain ⟨a, ha, rfl⟩ := List.mem_map.1 hDeclaration
  exact ⟨a, ha, Content.read_eq_ok.1 hRead⟩

/-- Contents are read of the declarations in the order in which these were announced. -/
theorem map_declaration :
    typing.contents.map (·.declaration) =
      typing.announcements.map (·.declarationIn typing.stubs) := by
  have hSame : List.Forall₂ (· = ·) (typing.contents.map (·.declaration))
      (typing.announcements.map (·.declarationIn typing.stubs)) := by
    rw [List.forall₂_map_left_iff, List.forall₂_map_right_iff]
    refine (typing.forall_contents.imp fun a content hRead => ?_).flip
    obtain ⟨_, _, hReads⟩ := Content.read_eq_ok.1 hRead
    exact hReads.declaration_eq
  rwa [List.forall₂_eq_eq_eq] at hSame

theorem nodup_ids : (typing.contents.map (·.declaration.id)).Nodup := by
  have hIds := congrArg (List.map Declaration.id) typing.map_declaration
  rw [List.map_map, List.map_map] at hIds
  exact hIds ▸ typing.declares.nodup_ids

theorem exists_filled :
    ∃ filled, Content.Fills typing.stubs typing.contents filled ∧
      typing.completed = if typing.contents.any (·.uses typing.stubs.pointId) then
        filled.withPoint else filled := by
  obtain ⟨filled, hFilled, hEq⟩ := Content.fillAll_eq_ok.1 typing.completed_eq
  exact ⟨filled, Content.fills_of_foldlM typing.nodup_ids hFilled, hEq⟩

theorem outline_completed :
    typing.completed.outline = (Content.settle typing.stubs typing.contents).outline := by
  obtain ⟨filled, hFills, hEq⟩ := typing.exists_filled
  rw [hEq, Content.settle]
  split
  · exact Registry.outline_withPoint_eq hFills.outline_eq
  · exact hFills.outline_eq

theorem keeps_completed : typing.stubs.Keeps typing.completed :=
  Content.keeps_fillAll typing.completed_eq

/-- Names are distinct in the completed registry, as no type is added but the point record. -/
theorem distinct_completed : typing.completed.Distinct := by
  apply Registry.distinct_iff_nodup.2
  rw [outline_completed, Content.settle]
  split
  · exact Registry.distinct_iff_nodup.1 typing.declares.distinct.withPoint
  · exact Registry.distinct_iff_nodup.1 typing.declares.distinct

/-- All that a structure uses is registered, the point record included. -/
theorem get?_settle {content : Content} (hContent : content ∈ typing.contents) {id : TypeId}
    (hUses : content.uses id = true) :
    (Content.settle typing.stubs typing.contents).get? id = typing.stubs.withPoint.get? id := by
  rw [Content.settle]
  split
  · rfl
  · next hNone =>
      rcases typing.stubs.withPoint_cases with ⟨_, _, _, hEq⟩ | ⟨_, hPoint, hEq⟩
      · rw [hEq]
      · rw [hEq, Registry.get?_push, if_neg]
        rintro rfl
        exact hNone (List.any_eq_true.2 ⟨content, hContent, hPoint ▸ hUses⟩)

/-- A place that a content uses is one of the completed registry. -/
theorem lt_size_completed {content : Content} (hContent : content ∈ typing.contents) {id : TypeId}
    (hUses : content.uses id = true) : id.index < typing.completed.size := by
  obtain ⟨_, _, _, _, hReads⟩ := typing.exists_announcement hContent
  obtain ⟨reference, _, hRefer⟩ := hReads.uses_iff_refer.1 hUses
  rcases Registry.lt_size_or_eq_pointId hRefer with hLt | rfl
  · exact Nat.lt_of_lt_of_le hLt typing.keeps_completed.size_le
  · obtain ⟨type, hType⟩ := Registry.exists_get?_of_lt typing.stubs.pointId_lt_size_withPoint
    have hSettled := (typing.get?_settle hContent hUses).trans hType
    rw [← Registry.length_outline, outline_completed, Registry.length_outline]
    exact Registry.lt_size_of_get? hSettled

/-- A structure that is used as one is one. -/
theorem structure?_completed {content : Content} (hContent : content ∈ typing.contents)
    {id : TypeId} (hUses : content.uses id = true) {s : Structure}
    (hStructure : typing.stubs.withPoint.structure? id = some s) :
    ∃ later, typing.completed.structure? id = some later ∧ later.namespaceName = s.namespaceName ∧
      later.name = s.name ∧ later.id = s.id := by
  refine (Registry.Keeps.of_outline_eq typing.outline_completed).structure?
    (Registry.structure?_eq_some.2 ?_)
  rw [typing.get?_settle hContent hUses]
  exact Registry.structure?_eq_some.1 hStructure

/-- An announced structure has the content of its declaration. -/
theorem structure?_completed_of_content {content : Content} (hContent : content ∈ typing.contents)
    {a : Announcement} (ha : a ∈ typing.announcements)
    (hDeclaration : content.declaration = a.declarationIn typing.stubs) :
    typing.completed.structure? content.declaration.id =
      some (content.complete (a.stub settings)) := by
  obtain ⟨filled, hFills, hEq⟩ := typing.exists_filled
  obtain ⟨s, hStub, hFilled⟩ := hFills.here content hContent
  obtain ⟨id, _, hFound, hId⟩ := typing.declares.lookup_announcement ha
  rw [hDeclaration, hId, hFound, Option.some.injEq] at hStub
  rw [← hStub] at hFilled
  rw [hEq]
  split
  · rcases filled.withPoint_cases with ⟨_, _, _, hSame⟩ | ⟨_, _, hPush⟩
    · rwa [hSame]
    · have hHere := Registry.structure?_eq_some.1 hFilled
      have hLt := Registry.lt_size_of_get? hHere
      rw [hPush, Registry.structure?_eq_some, Registry.get?_push, if_neg]
      · exact hHere
      · intro hNext
        rw [hNext] at hLt
        exact absurd hLt (Nat.lt_irrefl _)
  · exact hFilled

/-- There are only announced structures and the point record. -/
theorem completed_cases {id : TypeId} {s : Structure}
    (h : typing.completed.structure? id = some s) :
    (∃ a ∈ typing.announcements, ∃ content ∈ typing.contents,
      content.declaration = a.declarationIn typing.stubs ∧ content.declaration.id = id ∧
        s = content.complete (a.stub settings)) ∨ s = Registry.pointRecord := by
  obtain ⟨filled, hFills, hEq⟩ := typing.exists_filled
  have hPlaces : filled.get? id = some (.structured s) ∨ s = Registry.pointRecord := by
    rw [hEq, Registry.structure?_eq_some] at h
    split at h
    · rcases filled.withPoint_cases with ⟨_, _, _, hSame⟩ | ⟨_, _, hPush⟩
      · rw [hSame] at h
        exact .inl h
      · rw [hPush, Registry.get?_push] at h
        split at h
        · cases h
          exact .inr rfl
        · exact .inl h
    · exact .inl h
  apply hPlaces.imp_left
  intro hFilled
  by_cases hDeclared : ∃ content ∈ typing.contents, content.declaration.id = id
  · obtain ⟨content, hContent, rfl⟩ := hDeclared
    obtain ⟨a, ha, _, _, hReads⟩ := typing.exists_announcement hContent
    have hHere := typing.structure?_completed_of_content hContent ha hReads.declaration_eq
    rw [h, Option.some.injEq] at hHere
    exact ⟨a, ha, content, hContent, hReads.declaration_eq, rfl, hHere⟩
  · push Not at hDeclared
    rw [hFills.elsewhere id hDeclared] at hFilled
    obtain ⟨a, ha, _, hId⟩ :=
      typing.declares.exists_announcement (Registry.structure?_eq_some.2 hFilled)
    obtain ⟨content, hContent, _, _, hReads⟩ := typing.exists_content ha
    exact absurd (hReads.declaration_eq ▸ hId) (hDeclared content hContent)

/-- The fields that links add at a place. -/
def linkFields (id : TypeId) : List Field :=
  Link.fieldsOf (Link.attachments typing.completed typing.contents) id

theorem get?_linked (id : TypeId) :
    typing.linked.get? id =
      (typing.completed.get? id).map (.mapStructure (.addAll (typing.linkFields id))) :=
  Link.get?_of_foldlM_attach typing.linked_eq id

/-- Linking adds the fields of its links to each structure and changes nothing else. -/
theorem structure?_linked (id : TypeId) :
    typing.linked.structure? id =
      (typing.completed.structure? id).map (.addAll (typing.linkFields id)) :=
  Registry.structure?_of_get?_map (typing.get?_linked id)

theorem outline_linked : typing.linked.outline = typing.completed.outline :=
  Link.outline_of_foldlM_attach typing.linked_eq

/-- Names stay distinct while structures are linked. -/
theorem distinct_linked : typing.linked.Distinct := by
  apply Registry.distinct_iff_nodup.2
  rw [outline_linked]
  exact Registry.distinct_iff_nodup.1 typing.distinct_completed

end Metadata.Typing

end Csdl
