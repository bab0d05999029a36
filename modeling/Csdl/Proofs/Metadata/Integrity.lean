import Csdl.Proofs.Metadata.Evaluation
import Csdl.Proofs.Metadata.Progress
import Csdl.Proofs.Metadata.Stages
import Csdl.Proofs.Registry.Soundness

/-! All references of a definition lead somewhere. This holds as soon as structures have their
content, and links and members keep it: what they add refers to what is there. -/
namespace Csdl

open Query (bind_eq_ok)

theorem Field.scalar_validIn (r : Registry) (name : String) (kind : Primitive) :
    (Field.scalar name kind).type.ValidIn r :=
  fun _ hId => nomatch hId

/-- A field of a changed list was there before, or is a changed one. -/
theorem Field.mem_modifyFirst {name : String} {change : Field → Field} {fields : List Field}
    {field : Field} (h : field ∈ modifyFirst name change fields) :
    field ∈ fields ∨ ∃ old ∈ fields, field = change old := by
  induction fields with
  | nil => cases h
  | cons first fields ih =>
      rw [modifyFirst] at h
      split at h
      · rcases List.mem_cons.1 h with rfl | hRest
        · exact .inr ⟨first, List.mem_cons_self, rfl⟩
        · exact .inl (List.mem_cons_of_mem _ hRest)
      · rcases List.mem_cons.1 h with rfl | hRest
        · exact .inl List.mem_cons_self
        · rcases ih hRest with hOld | ⟨old, hOld, hEq⟩
          · exact .inl (List.mem_cons_of_mem _ hOld)
          · exact .inr ⟨old, List.mem_cons_of_mem _ hOld, hEq⟩

/-- The point record refers to nothing, so it is sound in any registry. -/
theorem Registry.pointRecord_soundIn (r : Registry) (navigations : List Navigation) (id : TypeId) :
    pointRecord.SoundIn r navigations id where
  types_valid field hField := by
    simp only [pointRecord, List.mem_cons, List.not_mem_nil, or_false] at hField
    rcases hField with rfl | rfl
    · exact Field.scalar_validIn r _ _
    · exact Field.scalar_validIn r "coordinates" .double
  keys_sound field hField key hKey := by
    simp only [pointRecord, List.mem_cons, List.not_mem_nil, or_false] at hField
    rcases hField with rfl | rfl <;> cases hKey
  base_structured base hBase := nomatch hBase

namespace Content

/-- The navigations of some contents are those of their relations. -/
theorem mem_navigations {contents : List Content} {n : Navigation} :
    n ∈ navigations contents ↔
      ∃ content ∈ contents, ∃ relation ∈ content.relations, relation.navigation = n := by
  simp only [navigations, notedNavigations, List.mem_map, List.mem_flatMap]
  constructor
  · rintro ⟨_, ⟨content, hContent, relation, hRelation, rfl⟩, rfl⟩
    exact ⟨content, hContent, relation, hRelation, rfl⟩
  · rintro ⟨content, hContent, relation, hRelation, rfl⟩
    exact ⟨_, ⟨content, hContent, relation, hRelation, rfl⟩, rfl⟩

/-- A foreign key on a field is a mark, or it has been there before. -/
theorem exists_mark_of_foldl {marks : List (String × ForeignKey)} {fields : List Field}
    {field : Field} {key : ForeignKey} (hKey : field.foreignKey = some key)
    (h : field ∈ marks.foldl (fun fields (property, key) =>
      Field.modifyFirst property (fun field => { field with foreignKey := some key }) fields)
        fields) :
    (∃ old ∈ fields, old.foreignKey = some key) ∨ ∃ mark ∈ marks, mark.2 = key := by
  induction marks generalizing fields with
  | nil => exact .inl ⟨field, h, hKey⟩
  | cons mark marks ih =>
      rcases ih h with ⟨old, hOld, hOldKey⟩ | ⟨later, hLater, hEq⟩
      · rcases Field.mem_modifyFirst hOld with hBefore | ⟨_, _, rfl⟩
        · exact .inl ⟨old, hBefore, hOldKey⟩
        · exact .inr ⟨mark, List.mem_cons_self, Option.some.inj hOldKey⟩
      · exact .inr ⟨later, List.mem_cons_of_mem _ hLater, hEq⟩

/-- A foreign key was there before, or comes from a mark of some relation. -/
theorem exists_relation_of_foldl {relations : List Relation} {fields : List Field}
    {field : Field} {key : ForeignKey} (hKey : field.foreignKey = some key)
    (h : field ∈ relations.foldl markForeignKeys fields) :
    (∃ old ∈ fields, old.foreignKey = some key) ∨
      ∃ relation ∈ relations, ∃ mark ∈ relation.marks, mark.2 = key := by
  induction relations generalizing fields with
  | nil => exact .inl ⟨field, h, hKey⟩
  | cons relation relations ih =>
      rcases ih h with ⟨old, hOld, hOldKey⟩ | ⟨later, hLater, hMark⟩
      · rcases exists_mark_of_foldl hOldKey hOld with hBefore | hMark
        · exact .inl hBefore
        · exact .inr ⟨relation, List.mem_cons_self, hMark⟩
      · exact .inr ⟨later, List.mem_cons_of_mem _ hLater, hMark⟩

/-- Each foreign key that a structure has at first was set by one of its relations. -/
theorem Reads.exists_relation {scope : Scope} {declaration : Declaration}
    {properties : List Field} {keys : List String} {content : Content}
    (h : Reads scope declaration properties keys content) {field : Field} {key : ForeignKey}
    (hField : field ∈ content.fields) (hKey : field.foreignKey = some key) :
    ∃ relation ∈ content.relations, ∃ mark ∈ relation.marks, mark.2 = key := by
  have hUnmarked : ∃ old ∈ content.relations.foldl markForeignKeys properties,
      old.foreignKey = some key := by
    rw [h.fields_eq] at hField
    unfold markKey at hField
    split at hField
    · rcases Field.mem_modifyFirst hField with hOld | ⟨old, hOld, rfl⟩
      · exact ⟨field, hOld, hKey⟩
      · exact ⟨old, hOld, hKey⟩
    · exact ⟨field, hField, hKey⟩
  obtain ⟨old, hOld, hOldKey⟩ := hUnmarked
  rcases exists_relation_of_foldl hOldKey hOld with ⟨property, hProperty, hNone⟩ | hMark
  · obtain ⟨node, _, hRead⟩ := exists_input_of_mapM h.properties_read hProperty
    obtain ⟨_, _, _, _, _, _, _, _, _, rfl⟩ := readField_eq_ok.1 hRead
    cases hNone
  · exact hMark

end Content

namespace Metadata

/-- Each navigation is made of an element that has been read. -/
theorem exists_node_of_complete {aliases : AliasTable} {stubs linked : Registry}
    {declarations : List Declaration} {navigations : List Navigation}
    (h : (complete aliases stubs declarations).result = .ok (linked, navigations)) :
    ∀ n ∈ navigations, ∃ declaration node name cardinality type target constraints,
      n = (Content.declaredRelation declaration node
        (Content.declaredField node name cardinality type) target constraints).navigation := by
  obtain ⟨contents, _, hContents, _, _, rfl⟩ := complete_eq_ok.1 h
  intro n hMem
  obtain ⟨content, hContent, relation, hRelation, rfl⟩ := Content.mem_navigations.1 hMem
  obtain ⟨declaration, _, hRead⟩ := exists_input_of_mapM hContents hContent
  obtain ⟨_, _, hReads⟩ := Content.read_eq_ok.1 hRead
  obtain ⟨node, _, hNode⟩ := exists_input_of_mapM hReads.relations_read hRelation
  obtain ⟨field, _, target, constraints, hField, _, _, _, rfl⟩ := Content.readRelation_eq_ok.1 hNode
  obtain ⟨name, _, _, cardinality, type, _, _, _, _, rfl⟩ := Content.readField_eq_ok.1 hField
  exact ⟨declaration, node, name, cardinality, type, target, constraints, rfl⟩

/-- No navigation is marked as a primary key. -/
theorem unmarked_of_complete {aliases : AliasTable} {stubs linked : Registry}
    {declarations : List Declaration} {navigations : List Navigation}
    (h : (complete aliases stubs declarations).result = .ok (linked, navigations)) :
    ∀ n ∈ navigations, n.field.primaryKey = false := by
  intro n hMem
  obtain ⟨_, _, _, _, _, _, _, rfl⟩ := exists_node_of_complete h n hMem
  rfl

end Metadata

namespace Metadata.Typing

variable {settings : Settings} (typing : Typing settings)

/-- What the relation of a structure has been read from, and the target that it leads to. -/
theorem exists_target {content : Content} (hContent : content ∈ typing.contents)
    {relation : Relation} (hRelation : relation ∈ content.relations) :
    ∃ node field id target constraints, (Content.readField typing.scope node).result = .ok field ∧
      field.type = .named id ∧
      relation = Content.declaredRelation content.declaration node field target constraints ∧
      ∃ t, typing.completed.structure? id = some t ∧ t.id = target.id := by
  obtain ⟨a, ha, _, _, hReads⟩ := typing.exists_announcement hContent
  obtain ⟨node, _, hRead⟩ := exists_input_of_mapM hReads.relations_read hRelation
  obtain ⟨field, id, target, constraints, hField, hType, hTarget, _, hEq⟩ :=
    Content.readRelation_eq_ok.1 hRead
  have hUses : content.uses id = true :=
    Content.uses_iff.2 (.inr (.inr ⟨relation, hRelation, hEq ▸ hType⟩))
  obtain ⟨t, ht, _, _, hId⟩ := typing.structure?_completed hContent hUses hTarget
  rw [← hReads.declaration_eq] at hEq
  exact ⟨node, field, id, target, constraints, hField, hType, hEq, t, ht, hId⟩

/-- The owner and the target of a navigation are structures of the completed registry, and its name
is that of its owner. -/
theorem navigation_soundIn {n : Navigation} (hMem : n ∈ Content.navigations typing.contents) :
    n.SoundIn typing.completed := by
  obtain ⟨content, hContent, relation, hRelation, rfl⟩ := Content.mem_navigations.1 hMem
  obtain ⟨a, ha, _, _, hReads⟩ := typing.exists_announcement hContent
  have hOwner := typing.structure?_completed_of_content hContent ha hReads.declaration_eq
  obtain ⟨node, field, id, target, constraints, hField, hType, rfl, t, hTarget, _⟩ :=
    typing.exists_target hContent hRelation
  refine ⟨?_, ?_, ⟨_, hOwner, ?_⟩, ⟨id, ?_, Option.isSome_iff_exists.2 ⟨t, hTarget⟩⟩, ?_⟩
  · intro found hFound
    exact typing.lt_size_completed hContent
      (Content.uses_iff.2 (.inr (.inr ⟨_, hRelation, hFound⟩)))
  · intro mapping hMapping
    simp only [Content.declaredRelation, Content.mappingOf] at hMapping
    split at hMapping
    · cases hMapping
    · cases hMapping
      intro mapped hMapped
      obtain ⟨_, _, rfl⟩ := List.mem_map.1 hMapped
      exact Field.scalar_validIn _ "" .string
  · rw [hReads.declaration_eq]
    rfl
  · exact congrArg TypeRef.named? hType
  · obtain ⟨_, _, _, _, _, _, _, _, _, rfl⟩ := Content.readField_eq_ok.1 hField
    rfl

/-- The content of a structure is sound once all content is in place. -/
theorem content_soundIn {content : Content} (hContent : content ∈ typing.contents)
    (s : Structure) :
    (content.complete s).SoundIn typing.completed (Content.navigations typing.contents)
      content.declaration.id := by
  obtain ⟨a, ha, _, _, hReads⟩ := typing.exists_announcement hContent
  refine ⟨?_, ?_, ?_⟩
  · intro field hField id hType
    exact typing.lt_size_completed hContent
      (Content.uses_iff.2 (.inr (.inl ⟨field, hField, hType⟩)))
  · intro field hField key hKey
    obtain ⟨relation, hRelation, mark, hMark, rfl⟩ := hReads.exists_relation hField hKey
    have hMem := Content.mem_navigations.2 ⟨content, hContent, relation, hRelation, rfl⟩
    obtain ⟨node, field, id, target, constraints, _, hType, rfl, t, hTarget, hId⟩ :=
      typing.exists_target hContent hRelation
    obtain ⟨_, _, rfl⟩ := List.mem_map.1 hMark
    exact ⟨_, hMem, rfl, rfl, id, t, congrArg TypeRef.named? hType, hTarget, hId⟩
  · intro base hBase
    rcases Content.readBase_eq_ok.1 hReads.base_read with ⟨_, hNone⟩ | ⟨_, id, t, _, _, ht, hSome⟩
    · exact absurd (hNone.symm.trans hBase) (by simp)
    · rw [show content.base = some base from hBase, Option.some.injEq] at hSome
      subst hSome
      obtain ⟨later, hLater, _⟩ :=
        typing.structure?_completed hContent (Content.uses_iff.2 (.inl hBase)) ht
      exact Option.isSome_iff_exists.2 ⟨later, hLater⟩

theorem completed_sound : typing.completed.Sound (Content.navigations typing.contents) where
  structures id s h := by
    rcases typing.completed_cases h with ⟨_, _, content, hContent, _, rfl, rfl⟩ | rfl
    · exact typing.content_soundIn hContent _
    · exact Registry.pointRecord_soundIn _ _ _
  navigations _ hMem := typing.navigation_soundIn hMem

/-- What a link adds is a foreign key of its navigation. -/
theorem linked_sound : typing.linked.Sound (Content.navigations typing.contents) := by
  have hSound := typing.completed_sound
  have hKeeps : typing.completed.Keeps typing.linked := .of_outline_eq typing.outline_linked
  refine ⟨fun id s h => ?_, fun n hMem => (hSound.navigations n hMem).later hKeeps⟩
  rw [structure?_linked, Option.map_eq_some_iff] at h
  obtain ⟨old, hOld, rfl⟩ := h
  have hBefore := hSound.structures id old hOld
  have hAdded : ∀ field ∈ typing.linkFields id, ∃ n ∈ Content.navigations typing.contents,
      n.owner = id ∧ ∃ target keyed key, n.target? = some target ∧
        typing.completed.structure? target = some keyed ∧
        typing.completed.primaryKey? target = some key ∧
        field = Link.keyField n keyed key := by
    intro field hField
    obtain ⟨noted, hNoted, _, hOwner, hSome⟩ := Link.mem_fieldsOf_attachments.1 hField
    exact ⟨noted.2, List.mem_map_of_mem hNoted, hOwner, Link.field?_eq_some.1 hSome⟩
  refine Structure.SoundIn.later ⟨?_, ?_, hBefore.base_structured⟩ hKeeps
  · intro field hField
    rcases List.mem_append.1 hField with hHere | hNew
    · exact hBefore.types_valid field hHere
    · obtain ⟨n, _, _, _, keyed, key, _, _, hKey, rfl⟩ := hAdded field hNew
      exact (hSound.primaryKey_valid hKey : key.type.ValidIn typing.completed)
  · intro field hField key hKey
    rcases List.mem_append.1 hField with hHere | hNew
    · exact hBefore.keys_sound field hHere key hKey
    · obtain ⟨n, hMem, hOwner, target, keyed, _, hTarget, hKeyed, _, rfl⟩ := hAdded field hNew
      cases hKey
      exact ⟨n, hMem, hOwner, rfl, target, keyed, hTarget, hKeyed, rfl⟩

end Metadata.Typing

/-- A registry stays sound if what is added is sound. -/
theorem Registry.Sound.grow {r r' : Registry} {navigations : List Navigation}
    (h : r.Sound navigations) (hKeeps : r.Keeps r') (hRetains : r.Retains r')
    (hNew : ∀ id s, r.size ≤ id.index → r'.structure? id = some s →
      s.SoundIn r' navigations id) : r'.Sound navigations := by
  refine ⟨fun id s hStructure => ?_, fun n hMem => (h.navigations n hMem).later hKeeps⟩
  rcases hRetains.structure?_cases hStructure with hSize | ⟨old, name, hOld, rfl⟩
  · exact hNew id s hSize hStructure
  · obtain ⟨hTypes, hKeys, hBase⟩ := (h.structures id old hOld).later hKeeps
    exact ⟨hTypes, hKeys, hBase⟩

/-- A registry stays sound with the point record in it. -/
theorem Registry.Sound.withPoint {r : Registry} {navigations : List Navigation}
    (h : r.Sound navigations) : r.withPoint.Sound navigations := by
  refine h.grow (keeps_withPoint r) (retains_withPoint r) fun id s hSize hNew => ?_
  rw [eq_pointRecord_of_withPoint hSize hNew]
  exact pointRecord_soundIn _ _ _

theorem Registry.Sound.extendFor {r : Registry} {navigations : List Navigation}
    (h : r.Sound navigations) (type : TypeRef) : (r.extendFor type).Sound navigations := by
  unfold Registry.extendFor
  split
  · exact h.withPoint
  · exact h

/-- A registry stays sound when a structure in it gets a collection name. -/
theorem Registry.Sound.named {r bound : Registry} {navigations : List Navigation}
    (h : r.Sound navigations) {id : TypeId} {name : String}
    (hEdit : r.edit id (Derivation.nameCollection name) = .ok bound) :
    bound.Sound navigations := by
  refine h.grow (.of_outline_eq (outline_of_edit hEdit fun _ => rfl)) (retains_of_edit hEdit) ?_
  intro id s hSize hStructure
  have hLt := lt_size_of_get? (structure?_eq_some.1 hStructure)
  rw [size_of_edit hEdit] at hLt
  omega

namespace Member

/-- Extensions are sound where the type of their member is. -/
theorem extension_soundIn {r : Registry} {navigations : List Navigation}
    (hNavigations : ∀ n ∈ navigations, n.SoundIn r) {expansions : List Expansion}
    {capabilities : Capabilities} {member : Member} {entity : Structure} {key : Option Field}
    (hEntity : (r.structure? member.entity).isSome) {s : Structure}
    (h : s ∈ extensions navigations expansions capabilities member entity key) (id : TypeId) :
    s.SoundIn r navigations id := by
  obtain ⟨hBase, hFields⟩ := base_and_fields_of_mem_extensions h
  refine ⟨fun field hField => ?_, fun field hField key hKey => ?_, fun base hSome => ?_⟩
  · rcases hFields field hField with ⟨n, hMem, hType, _⟩ | ⟨n, rfl⟩
    · rw [hType]
      exact (hNavigations n hMem).type_valid
    · exact Field.scalar_validIn r "" .string
  · rcases hFields field hField with ⟨n, hMem, _, hSame⟩ | ⟨n, rfl⟩
    · rw [hSame, (hNavigations n hMem).unmarked] at hKey
      cases hKey
    · cases hKey
  · rw [hBase, Option.some.injEq] at hSome
    exact hSome ▸ hEntity

theorem validIn_of_plain {r : Registry} {field : Field} (h : IsPlain field) :
    field.type.ValidIn r := by
  obtain ⟨⟨kind, hKind⟩, _⟩ := h
  rintro id hId
  rw [hKind] at hId
  cases hId

/-- A function that lists entities is valid wherever their type is there. -/
theorem listFunction_validIn {r : Registry} (member : Member) {select : TypeId}
    (flags : CapabilityFlags) (hSelect : select.index < r.size) :
    (member.listFunction select flags).ValidIn r := by
  refine ⟨fun field hField => validIn_of_plain (plain_of_listInput member select flags field hField),
    fun field hField => ?_⟩
  rcases List.mem_cons.1 hField with rfl | hCount
  · rintro id ⟨⟩
    exact hSelect
  · exact validIn_of_plain (plain_of_listOutput member select flags field hCount)

/-- The functions of a member refer to its extensions and to what its key refers to. -/
theorem functionsAt_validIn {r : Registry} (member : Member) (flags : CapabilityFlags)
    {key : Option Field} (hKey : ∀ field, key = some field → field.type.ValidIn r) {place : Nat}
    (hPlaces : place + (flags.insertable.toNat + 1 + (flags.updatable && key.isSome).toNat) ≤
      r.size) : ∀ f ∈ member.functionsAt flags key place, f.ValidIn r := by
  have hNone : ∀ field ∈ ([] : List Field), field.type.ValidIn r := by simp
  have hSelect : (place + if flags.insertable then 1 else 0) < r.size := by
    cases hInsertable : flags.insertable <;> simp [hInsertable] at hPlaces ⊢ <;> omega
  have hTaken : ∀ owner, key = some owner → ∀ field ∈ [owner.asRequired], field.type.ValidIn r := by
    intro owner hOwner field hField
    rw [List.mem_singleton.1 hField]
    exact hKey owner hOwner
  intro f hMem
  rcases mem_functionsAt.1 hMem with ⟨hInsertable, rfl⟩ | ⟨_, rfl⟩ |
    ⟨owner, hOwner, ⟨_, rfl⟩ | ⟨_, rfl⟩ | ⟨hUpdatable, rfl⟩⟩
  · refine ⟨fun field hField => ?_, fun field hField => hKey field (Option.mem_toList.1 hField)⟩
    rw [List.mem_singleton.1 hField]
    rintro id ⟨⟩
    exact Nat.lt_of_le_of_lt (Nat.le_add_right _ _) hSelect
  · exact listFunction_validIn member flags hSelect
  · refine ⟨hTaken owner hOwner, fun field hField => ?_⟩
    rw [List.mem_singleton.1 hField]
    rintro id ⟨⟩
    exact hSelect
  · exact ⟨hTaken owner hOwner, hNone⟩
  · refine ⟨fun field hField => ?_, hNone⟩
    rcases List.mem_cons.1 hField with rfl | hUpdate
    · exact hKey owner hOwner
    · rw [List.mem_singleton.1 hUpdate]
      rintro id ⟨⟩
      rw [hUpdatable, hOwner, Option.isSome_some] at hPlaces
      cases hInsertable : flags.insertable <;> simp [hInsertable] at hPlaces ⊢ <;> omega

end Member

namespace Derivation

section Step

variable {settings : Settings} {aliases : AliasTable} {navigations : List Navigation}
  {state next : Derivation} {node : MemberNode} {outcome : MemberOutcome}

/-- Only the point record may be new where the extensions of a member are generated. -/
theorem Derives.bound_sound (h : Derives settings aliases navigations state node outcome next)
    (hSound : state.registry.Sound navigations) : outcome.bound.Sound navigations :=
  (hSound.extendFor _).named h.bound_eq

/-- Deriving a member keeps the registry sound, and gives functions that are. -/
theorem Derives.sound (h : Derives settings aliases navigations state node outcome next)
    (hDistinct : state.registry.Distinct) (hSound : state.registry.Sound navigations) :
    next.registry.Sound navigations ∧ ∀ f ∈ outcome.functions, f.ValidIn next.registry := by
  have hBound := h.bound_sound hSound
  obtain ⟨entity, hEntity, hNext, _, hFunctions⟩ := h.exists_entity hDistinct
  have hKeeps : outcome.bound.Keeps next.registry := hNext ▸ Registry.keeps_append _ _
  refine ⟨hBound.grow hKeeps (hNext ▸ Registry.retains_append _ _) fun id s hSize hNew => ?_, ?_⟩
  · exact Member.extension_soundIn (fun n hMem => (hBound.navigations n hMem).later hKeeps)
      (hKeeps.isSome_structure? (Option.isSome_iff_exists.2 ⟨entity, hEntity⟩))
      (h.mem_extensions hDistinct hEntity hSize hNew) id
  · rw [hFunctions]
    refine Member.functionsAt_validIn _ _ (fun field hKey => ?_) ?_
    · exact (hBound.primaryKey_valid hKey).later hKeeps
    · rw [hNext, Registry.size_append, List.length_map, MemberOutcome.extensions,
        Member.length_extensions]

end Step

/-- Deriving any number of members keeps the registry and all functions sound. -/
theorem DerivesAll.sound {settings : Settings} {aliases : AliasTable}
    {navigations : List Navigation} {state last : Derivation} {nodes : List MemberNode}
    {outcomes : List MemberOutcome}
    (h : DerivesAll settings aliases navigations state nodes outcomes last)
    (hDistinct : state.registry.Distinct) (hSound : state.registry.Sound navigations)
    (hFunctions : ∀ f ∈ state.functions, f.ValidIn state.registry) :
    last.registry.Sound navigations ∧ ∀ f ∈ last.functions, f.ValidIn last.registry := by
  induction h with
  | nil state => exact ⟨hSound, hFunctions⟩
  | cons first rest ih =>
      obtain ⟨hNext, hNew⟩ := first.sound hDistinct hSound
      refine ih (first.distinct hDistinct) hNext fun f hMem => ?_
      rw [first.functions_eq] at hMem
      rcases List.mem_append.1 hMem with hOld | hHere
      · exact (hFunctions f hOld).later (first.keeps hDistinct)
      · exact hNew f hHere

end Derivation

/-- A definition in which all references lead somewhere: those of structures, navigations and
functions to types that are there, and those of foreign keys to an owner of the id they name. -/
structure Definition.Sound (definition : Definition) : Prop where
  registry_sound : definition.registry.Sound definition.navigations
  functions_valid : ∀ f ∈ definition.functions, f.ValidIn definition.registry
  ids_owned : ∀ id s, definition.registry.structure? id = some s → ∀ field ∈ s.fields,
    ∀ key, field.foreignKey = some key → (definition.registry.lookupId key.targetId).isSome

namespace Metadata

theorem Reading.final_sound {settings : Settings} {document : Xml.Document}
    (reading : Reading settings document) :
    reading.final.registry.Sound (Content.navigations reading.contents) ∧
      ∀ f ∈ reading.final.functions, f.ValidIn reading.final.registry :=
  reading.derives.sound reading.distinct_linked reading.linked_sound (by simp)

/-- What a document defines is sound, whatever the document, the service and the settings. -/
theorem walk_sound {settings : Settings} {location : Location} {document : Xml.Document}
    {definition : Definition} (h : (walk settings location document).result = .ok definition) :
    definition.Sound := by
  obtain ⟨reading, rfl⟩ := walk_eq_ok.1 h
  obtain ⟨hRegistry, hFunctions⟩ := reading.final_sound
  refine ⟨hRegistry, hFunctions, fun id s hStructure field hField key hKey => ?_⟩
  obtain ⟨_, _, _, _, target, t, _, hTarget, hId⟩ :=
    (hRegistry.structures id s hStructure).keys_sound field hField key hKey
  exact hId ▸ Registry.isSome_lookupId hTarget

/-- An element of a sample document. -/
def sampleElement (label : String) (attributes : List (String × String))
    (children : List Xml.Node) : Xml.Node :=
  .element ⟨some Markup.edm, label⟩ (attributes.map fun (name, value) => ⟨⟨none, name⟩, value⟩)
    children

/-- A document around the children of one schema. -/
def sampleDocument (children : List Xml.Node) : Xml.Document where
  before := []
  root := .element ⟨some Markup.edmx, "Edmx"⟩ [⟨⟨none, "Version"⟩, "4.0"⟩]
    [.element ⟨some Markup.edmx, "DataServices"⟩ []
      [sampleElement "Schema" [("Namespace", "Shop")] children]]
  after := []

/-- An entity type with a base behind it, a point, a foreign key, and a navigation without one. -/
def sampleOrder : Xml.Node :=
  sampleElement "EntityType" [("Name", "Order"), ("BaseType", "Shop.Record")] [
    sampleElement "Property" [("Name", "place"), ("Type", "Edm.GeographyPoint")] [],
    sampleElement "Property" [("Name", "seller"), ("Type", "Edm.Int32")] [],
    sampleElement "NavigationProperty" [("Name", "from"), ("Type", "Shop.Record")] [
      sampleElement "ReferentialConstraint"
        [("Property", "seller"), ("ReferencedProperty", "number")] []],
    sampleElement "NavigationProperty" [("Name", "parts"), ("Type", "Collection(Shop.Order)")] []]

/-- An entity type with a primary key. -/
def sampleRecord : Xml.Node :=
  sampleElement "EntityType" [("Name", "Record")] [
    sampleElement "Key" [] [sampleElement "PropertyRef" [("Name", "number")] []],
    sampleElement "Property" [("Name", "number"), ("Type", "Edm.Int32"), ("Nullable", "false")] []]

/-- An enumeration. -/
def sampleColor : Xml.Node :=
  sampleElement "EnumType" [("Name", "Color")] [sampleElement "Member" [("Name", "Red")] []]

/-- A container with one member. -/
def sampleContainer : Xml.Node :=
  sampleElement "EntityContainer" [("Name", "Service")] [
    sampleElement "Singleton" [("Name", "Latest"), ("Type", "Shop.Order")] []]

/-- A document that makes use of all stages. -/
def sample : Xml.Document :=
  sampleDocument [sampleOrder, sampleRecord, sampleColor, sampleContainer]

theorem summary_sample :
    (walk {} ⟨"https", "localhost", "/"⟩ sample).result.toOption.map Definition.summary =
      some ⟨1, 5, 3, 2, 2⟩ := by
  rw [result_walk]
  decide +kernel

/-- The sample is read to two entity types, the point record and two extensions. -/
theorem walk_sample :
    ∃ definition, (walk {} ⟨"https", "localhost", "/"⟩ sample).result = .ok definition ∧
      definition.summary = ⟨1, 5, 3, 2, 2⟩ := by
  obtain ⟨definition, hDefinition, hSummary⟩ := Option.map_eq_some_iff.1 summary_sample
  exact ⟨definition, toOption_eq_some.1 hDefinition, hSummary⟩

theorem sample_sound :
    ∃ definition, (walk {} ⟨"https", "localhost", "/"⟩ sample).result = .ok definition ∧
      definition.summary = ⟨1, 5, 3, 2, 2⟩ ∧ definition.Sound := by
  obtain ⟨definition, hDefinition, hSummary⟩ := walk_sample
  exact ⟨definition, hDefinition, hSummary, walk_sound hDefinition⟩

end Metadata

end Csdl
