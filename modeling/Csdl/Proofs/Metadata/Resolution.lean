import Csdl.Proofs.Metadata.Census
import Csdl.Proofs.Metadata.Fields

/-! Documents whose references can be resolved. Where all attributes are there, no name is declared
twice, and references lead to declared types or built-in ones, every stage before the last one
succeeds. -/
namespace Csdl

open Query (bind_eq_ok)

/-- The text of a qualified name. -/
def qualified (key : String × String) : String :=
  key.1 ++ "." ++ key.2

/-- The name that a reference stands for: its part before the last dot is replaced, if it is an
alias. -/
def AliasTable.target? (aliases : AliasTable) (reference : String) : Option (String × String) :=
  (splitQualified? (Text.trim reference)).map fun (space, leaf) => (aliases.resolve space, leaf)

namespace Xml.Node

/-- An element that has some attributes. -/
def Has (labels : List String) (node : Xml.Node) : Prop :=
  ∀ label ∈ labels, (node.attribute? label).isSome

instance (labels : List String) (node : Xml.Node) : Decidable (node.Has labels) :=
  inferInstanceAs (Decidable (∀ label ∈ labels, (node.attribute? label).isSome))

end Xml.Node

namespace Schema

/-- The names of the enumerations that schemas declare. -/
def enumerationKeys (schemas : List Schema) : List (String × String) :=
  (declaredEnumerations schemas).filterMap fun (space, node) =>
    (node.attribute? "Name").map (space, ·)

/-- The names of the structures that schemas declare. -/
def structureKeys (schemas : List Schema) : List (String × String) :=
  (declaredStructures schemas).filterMap fun (space, _, node) =>
    (node.attribute? "Name").map (space, ·)

/-- The names of all types that schemas declare. -/
def declaredKeys (schemas : List Schema) : List (String × String) :=
  enumerationKeys schemas ++ structureKeys schemas

/-- The names of the members of all containers. -/
def memberKeys (schemas : List Schema) : List (String × String) :=
  (schemas.flatMap members).filterMap fun member =>
    (member.node.attribute? "Name").map (member.namespaceName, ·)

/-- A reference that stands for a declared type outside the built-in namespace, or for a built-in
type. -/
def Resolves (schemas : List Schema) (reference : String) : Prop :=
  ∃ key ∈ (aliases schemas).target? reference,
    (EdmType.isEdmName (qualified key) = false ∧ key ∈ declaredKeys schemas) ∨
    (EdmType.ofName? (qualified key)).isSome

/-- A reference that stands for a declared structure. In the built-in namespace only one that takes
the place of the point record is reached. -/
def ResolvesToStructure (schemas : List Schema) (reference : String) : Prop :=
  ∃ key ∈ (aliases schemas).target? reference, key ∈ structureKeys schemas ∧
    (EdmType.isEdmName (qualified key) = false ∨ key = (EdmType.edmNamespace, EdmType.pointName))

instance (schemas : List Schema) (reference : String) : Decidable (Resolves schemas reference) :=
  inferInstanceAs (Decidable (∃ key ∈ (aliases schemas).target? reference, _ ∨ _))

instance (schemas : List Schema) (reference : String) :
    Decidable (ResolvesToStructure schemas reference) :=
  inferInstanceAs (Decidable (∃ key ∈ (aliases schemas).target? reference, _ ∧ _))

end Schema

/-- A type whose wrappers are all closed. -/
def Cardinality.Terminated (type : String) : Prop :=
  ∃ inner depth, Wraps inner depth (Text.trimChars type.toList)

theorem Xml.Node.Has.exists_required {labels : List String} {node : Xml.Node}
    (h : node.Has labels) {label : String} (hLabel : label ∈ labels) :
    ∃ value, Markup.required node label = .ok value := by
  obtain ⟨value, hValue⟩ := Option.isSome_iff_exists.1 (h label hLabel)
  exact ⟨value, Markup.required_eq_ok.2 hValue⟩

theorem Markup.exists_requiredOfAll {nodes : List Xml.Node} {label : String}
    (h : ∀ node ∈ nodes, node.Has [label]) : ∃ values, requiredOfAll nodes label = .ok values :=
  exists_mapM_eq_ok fun node hNode => (h node hNode).exists_required List.mem_cons_self

/-- All wrappers of a type are closed exactly if there is a name inside of them. -/
theorem Cardinality.terminated_iff {type : String} :
    Terminated type ↔ ∃ inner cardinality, unwrap type = .ok (inner, cardinality) := by
  constructor
  · rintro ⟨inner, depth, hWraps⟩
    cases depth with
    | zero => exact ⟨.ofList inner, .single, unwrap_eq_ok.2 ⟨0, by simpa using hWraps, by simp⟩⟩
    | succ outer =>
        exact ⟨.ofList inner, .unbounded,
          unwrap_eq_ok.2 ⟨outer + 1, by simpa using hWraps, by simp⟩⟩
  · rintro ⟨inner, cardinality, hUnwrap⟩
    obtain ⟨depth, hWraps, _⟩ := unwrap_eq_ok.1 hUnwrap
    exact ⟨_, depth, hWraps⟩

instance (type : String) : Decidable (Cardinality.Terminated type) :=
  decidable_of_iff ((Cardinality.unwrap type).toOption.isSome = true) (by
    rw [Cardinality.terminated_iff, Option.isSome_iff_exists]
    simp only [toOption_eq_some, Prod.exists])

/-- The element of a structure that can be read where some schemas are known. -/
@[mk_iff]
structure Schema.Readable (schemas : List Schema) (node : Xml.Node) : Prop where
  named : node.Has ["Name"]
  properties_typed : ∀ child ∈ Markup.children node "Property", child.Has ["Name", "Type"]
  navigations_typed :
    ∀ child ∈ Markup.children node "NavigationProperty", child.Has ["Name", "Type"]
  constraints_complete : ∀ child ∈ Markup.children node "NavigationProperty",
    ∀ constraint ∈ Markup.children child "ReferentialConstraint",
      constraint.Has ["Property", "ReferencedProperty"]
  keys_named : ∀ key ∈ Markup.children node "Key",
    ∀ part ∈ Markup.children key "PropertyRef", part.Has ["Name"]
  wrappers_terminated :
    ∀ child ∈ Markup.children node "Property" ++ Markup.children node "NavigationProperty",
      ∀ type ∈ child.attribute? "Type", Cardinality.Terminated type
  base_resolves : ∀ reference ∈ node.attribute? "BaseType", ResolvesToStructure schemas reference
  properties_resolve : ∀ child ∈ Markup.children node "Property",
    ∀ reference ∈ Content.fieldReference? child, Resolves schemas reference
  navigations_resolve : ∀ child ∈ Markup.children node "NavigationProperty",
    ∀ reference ∈ Content.fieldReference? child, ResolvesToStructure schemas reference

instance (schemas : List Schema) (node : Xml.Node) : Decidable (Schema.Readable schemas node) :=
  decidable_of_iff' _ (Schema.readable_iff schemas node)

/-- Schemas whose declarations can be read, in which no name is given twice, and in which members
are bound to declared structures. -/
@[mk_iff]
structure Schema.Resolvable (schemas : List Schema) : Prop where
  enumerations_named : ∀ declared ∈ declaredEnumerations schemas, declared.2.Has ["Name"] ∧
    ∀ member ∈ Markup.children declared.2 "Member", member.Has ["Name"]
  structures_readable : ∀ declared ∈ declaredStructures schemas, Readable schemas declared.2.2
  types_distinct : (declaredKeys schemas).Nodup
  members_typed : ∀ member ∈ schemas.flatMap members,
    member.node.Has ["Name", member.kind.typeAttribute]
  members_distinct : (memberKeys schemas).Nodup
  members_resolve : ∀ member ∈ schemas.flatMap members,
    ∀ reference ∈ member.node.attribute? member.kind.typeAttribute,
      ResolvesToStructure schemas reference

instance (schemas : List Schema) : Decidable (Schema.Resolvable schemas) :=
  decidable_of_iff' _ (Schema.resolvable_iff schemas)

/-- Built-in names begin as they should. -/
theorem EdmType.isEdmName_of_ofName? {name : String} (h : (ofName? name).isSome) :
    isEdmName name = true := by
  have hNames : ∀ entry ∈ primitiveNames, isEdmName entry.1 = true := by decide
  unfold ofName? at h
  split at h
  · next hPoint =>
      rw [hPoint]
      decide
  · rw [Option.isSome_map, Option.isSome_iff_exists] at h
    obtain ⟨kind, hFound⟩ := h
    obtain ⟨before, after, hEq, _⟩ := List.lookup_eq_some_iff.1 hFound
    exact hNames (name, kind) (by rw [hEq]; simp)

namespace Registry

variable {r : Registry} {aliases : AliasTable} {reference : String} {key : String × String}

/-- A built-in name denotes a type, whatever is registered. -/
theorem exists_refer_of_ofName? (hTarget : aliases.target? reference = some key)
    (hKnown : (EdmType.ofName? (qualified key)).isSome) :
    ∃ type, r.refer aliases reference = .ok type := by
  obtain ⟨⟨space, leaf⟩, hSplit, rfl⟩ := Option.map_eq_some_iff.1 hTarget
  rw [refer_of_isEdmName hSplit (EdmType.isEdmName_of_ofName? hKnown)]
  obtain ⟨type, hType⟩ := Option.isSome_iff_exists.1 hKnown
  have hParse : EdmType.parse (aliases.resolve space ++ "." ++ leaf) = .ok type := by
    simp only [EdmType.parse,
      show EdmType.ofName? (aliases.resolve space ++ "." ++ leaf) = some type from hType]
  rw [hParse]
  cases type with
  | primitive kind => exact ⟨_, rfl⟩
  | geographyPoint => exact ⟨_, rfl⟩

/-- The name of a registered type denotes it outside the built-in namespace, and the name of the
point record denotes what is registered in its place. -/
theorem refer_of_target (hTarget : aliases.target? reference = some key)
    (hOutside : EdmType.isEdmName (qualified key) = false ∨
      key = (EdmType.edmNamespace, EdmType.pointName))
    {id : TypeId} (hFound : r.lookup key.1 key.2 = some id) :
    r.refer aliases reference = .ok (.named id) := by
  obtain ⟨⟨space, leaf⟩, hSplit, rfl⟩ := Option.map_eq_some_iff.1 hTarget
  rw [refer_eq_named]
  rcases hOutside with hEdm | hPoint
  · exact .inr ⟨space, leaf, hSplit, hEdm, hFound⟩
  · obtain ⟨hSpace, hLeaf⟩ := Prod.mk.inj hPoint
    dsimp only at hFound hSpace hLeaf
    rw [hSpace, hLeaf] at hFound
    refine .inl ⟨?_, (pointId_of_lookup hFound).symm⟩
    rw [denotesPoint_of_split hSplit, hSpace, hLeaf]
    decide

end Registry

/-- A reference that denotes a structure. -/
def Scope.Finds (scope : Scope) (reference : String) : Prop :=
  ∃ id s, scope.refer reference = .ok (.named id) ∧
    scope.registry.withPoint.structure? id = some s

namespace Content

variable {scope : Scope}

/-- A field can be read if its reference denotes a type. -/
theorem exists_readField {node : Xml.Node} (hTyped : node.Has ["Name", "Type"])
    (hTerminated : ∀ type ∈ node.attribute? "Type", Cardinality.Terminated type)
    (hRefer : ∀ reference ∈ fieldReference? node, ∃ type, scope.refer reference = .ok type) :
    ∃ field, (readField scope node).result = .ok field := by
  obtain ⟨name, hName⟩ := hTyped.exists_required List.mem_cons_self
  obtain ⟨type, hType⟩ := hTyped.exists_required (List.mem_cons_of_mem _ List.mem_cons_self)
  have hAttribute := Markup.required_eq_ok.1 hType
  obtain ⟨inner, cardinality, hUnwrap⟩ :=
    Cardinality.terminated_iff.1 (hTerminated type hAttribute)
  have hReference : fieldReference? node = some inner := by
    simp [fieldReference?, hAttribute, hUnwrap, Except.toOption]
  obtain ⟨denoted, hDenoted⟩ := hRefer inner hReference
  exact ⟨_, readField_eq_ok.2 ⟨name, type, inner, cardinality, denoted, hName, hType, hUnwrap,
    hDenoted, rfl⟩⟩

/-- A base can be read if the reference to it finds a structure. -/
theorem exists_readBase {declaration : Declaration}
    (hFinds : ∀ reference ∈ declaration.node.attribute? "BaseType", scope.Finds reference) :
    ∃ base, readBase scope declaration = .ok base := by
  cases hAttribute : declaration.node.attribute? "BaseType" with
  | none => exact ⟨none, readBase_eq_ok.2 (.inl ⟨hAttribute, rfl⟩)⟩
  | some reference =>
      obtain ⟨id, s, hRefer, hStructure⟩ := hFinds reference hAttribute
      exact ⟨some id,
        readBase_eq_ok.2 (.inr ⟨reference, id, s, hAttribute, hRefer, hStructure, rfl⟩)⟩

theorem exists_readConstraint {node : Xml.Node}
    (hComplete : node.Has ["Property", "ReferencedProperty"]) :
    ∃ constraint, readConstraint node = .ok constraint := by
  obtain ⟨property, hProperty⟩ := hComplete.exists_required List.mem_cons_self
  obtain ⟨referenced, hReferenced⟩ :=
    hComplete.exists_required (List.mem_cons_of_mem _ List.mem_cons_self)
  exact ⟨_, bind_eq_ok.2 ⟨property, hProperty, bind_eq_ok.2 ⟨referenced, hReferenced, rfl⟩⟩⟩

/-- A relation can be read if its reference denotes a structure. -/
theorem exists_readRelation {declaration : Declaration} {node : Xml.Node}
    (hTyped : node.Has ["Name", "Type"])
    (hTerminated : ∀ type ∈ node.attribute? "Type", Cardinality.Terminated type)
    (hConstraints : ∀ constraint ∈ Markup.children node "ReferentialConstraint",
      constraint.Has ["Property", "ReferencedProperty"])
    (hFinds : ∀ reference ∈ fieldReference? node, scope.Finds reference) :
    ∃ relation, (readRelation scope declaration node).result = .ok relation := by
  obtain ⟨field, hField⟩ := exists_readField hTyped hTerminated fun reference hReference => by
    obtain ⟨id, _, hRefer, _⟩ := hFinds reference hReference
    exact ⟨.named id, hRefer⟩
  obtain ⟨reference, hReference, hType⟩ := refer_of_readField hField
  obtain ⟨id, target, hRefer, hTarget⟩ := hFinds reference hReference
  obtain ⟨constraints, hRead⟩ := exists_mapM_eq_ok fun constraint hConstraint =>
    exists_readConstraint (hConstraints constraint hConstraint)
  exact ⟨_, readRelation_eq_ok.2 ⟨field, id, target, constraints, hField,
    Except.ok.inj (hType.symm.trans hRefer), hTarget, hRead, rfl⟩⟩

end Content

namespace Metadata

/-- What registration fixes of the declared types has their names. -/
theorem map_key_declaredOutlines {settings : Settings} {schemas : List Schema}
    {enumerations : List Enumeration} {announcements : List Announcement}
    (hEnumerations :
      (Schema.declaredEnumerations schemas).mapM Schema.enumerationOf = .ok enumerations)
    (hAnnouncements :
      (Schema.declaredStructures schemas).mapM Announcement.read = .ok announcements) :
    (declaredOutlines settings enumerations announcements).map NamedType.key =
      Schema.declaredKeys schemas := by
  have hEnums : Schema.enumerationKeys schemas =
      enumerations.filterMap fun e => some (NamedType.enumeration e).key := by
    apply filterMap_eq_of_mapM hEnumerations
    intro declared _ e hRead
    obtain ⟨name, hName, hRest⟩ := bind_eq_ok.1 hRead
    obtain ⟨members, _, hEq⟩ := bind_eq_ok.1 hRest
    cases hEq
    simp only [Markup.required_eq_ok.1 hName, Option.map_some]
    rfl
  have hStructures : Schema.structureKeys schemas =
      announcements.filterMap fun a => some (a.outline settings).key := by
    apply filterMap_eq_of_mapM hAnnouncements
    intro declared _ a hRead
    obtain ⟨name, hName, rfl⟩ := map_eq_ok.1 hRead
    simp only [Markup.required_eq_ok.1 hName, Option.map_some]
    rfl
  rw [declaredOutlines, List.map_append, List.map_map, List.map_map, Schema.declaredKeys, hEnums,
    hStructures, List.filterMap_eq_map', List.filterMap_eq_map']
  rfl

/-- Types can be registered if their names are there and differ. -/
theorem exists_declares (settings : Settings) {schemas : List Schema}
    (hEnumerations : ∀ declared ∈ Schema.declaredEnumerations schemas, declared.2.Has ["Name"] ∧
      ∀ member ∈ Markup.children declared.2 "Member", member.Has ["Name"])
    (hStructures : ∀ declared ∈ Schema.declaredStructures schemas, declared.2.2.Has ["Name"])
    (hNodup : (Schema.declaredKeys schemas).Nodup) :
    ∃ enumerations announcements stubs, Declares settings schemas enumerations announcements stubs
      (announcements.map (·.declarationIn stubs)) := by
  obtain ⟨enumerations, hEnums⟩ : ∃ enumerations,
      (Schema.declaredEnumerations schemas).mapM Schema.enumerationOf = .ok enumerations := by
    apply exists_mapM_eq_ok
    intro declared hDeclared
    obtain ⟨hNamed, hMembers⟩ := hEnumerations declared hDeclared
    obtain ⟨name, hName⟩ := hNamed.exists_required List.mem_cons_self
    obtain ⟨members, hRead⟩ := Markup.exists_requiredOfAll hMembers
    exact ⟨_, bind_eq_ok.2 ⟨name, hName, bind_eq_ok.2 ⟨members, hRead, rfl⟩⟩⟩
  obtain ⟨announcements, hNames⟩ : ∃ announcements,
      (Schema.declaredStructures schemas).mapM Announcement.read = .ok announcements := by
    apply exists_mapM_eq_ok
    intro declared hDeclared
    obtain ⟨name, hName⟩ := (hStructures declared hDeclared).exists_required List.mem_cons_self
    exact ⟨_, map_eq_ok.2 ⟨name, hName, rfl⟩⟩
  refine ⟨enumerations, announcements, _, hEnums, hNames, rfl, ?_, rfl⟩
  rw [Registry.distinct_iff_nodup, Registry.outline_append_stubs,
    map_key_declaredOutlines hEnums hNames]
  exact hNodup

namespace Declares

variable {settings : Settings} {schemas : List Schema} {enumerations : List Enumeration}
  {announcements : List Announcement} {stubs : Registry} {declarations : List Declaration}
  (h : Declares settings schemas enumerations announcements stubs declarations)

include h

theorem map_key_outline : stubs.outline.map NamedType.key = Schema.declaredKeys schemas := by
  rw [h.stubs_eq, Registry.outline_append_stubs,
    map_key_declaredOutlines h.enumerations_read h.announcements_read]

/-- The name of a declared type leads to a stub. -/
theorem exists_lookup {key : String × String} (hKey : key ∈ Schema.declaredKeys schemas) :
    ∃ id, stubs.lookup key.1 key.2 = some id := by
  rw [← h.map_key_outline] at hKey
  obtain ⟨type, hType, rfl⟩ := List.mem_map.1 hKey
  rw [← Option.isSome_iff_exists, Registry.isSome_lookup, List.any_eq_true]
  exact ⟨type, hType, NamedType.hasName_iff.2 rfl⟩

/-- The name of a declared structure leads to its stub. -/
theorem exists_lookup_structure {key : String × String}
    (hKey : key ∈ Schema.structureKeys schemas) :
    ∃ id s, stubs.lookup key.1 key.2 = some id ∧ stubs.structure? id = some s := by
  obtain ⟨declared, hDeclared, hName⟩ := List.mem_filterMap.1 hKey
  obtain ⟨a, ha, hRead⟩ := exists_answer_of_mapM h.announcements_read hDeclared
  obtain ⟨name, hAttribute, rfl⟩ := map_eq_ok.1 hRead
  simp only [Markup.required_eq_ok.1 hAttribute, Option.map_some, Option.some.injEq] at hName
  subst hName
  obtain ⟨id, hFound, hStub, _⟩ := h.lookup_announcement ha
  exact ⟨id, _, hFound, hStub⟩

theorem exists_refer {reference : String} (hReference : Schema.Resolves schemas reference) :
    ∃ type, stubs.refer (Schema.aliases schemas) reference = .ok type := by
  obtain ⟨key, hTarget, ⟨hOutside, hKey⟩ | hKnown⟩ := hReference
  · obtain ⟨id, hFound⟩ := h.exists_lookup hKey
    exact ⟨_, Registry.refer_of_target hTarget (.inl hOutside) hFound⟩
  · exact Registry.exists_refer_of_ofName? hTarget hKnown

/-- A reference to a declared structure denotes it among the stubs and in all later states. -/
theorem exists_refer_structure {reference : String}
    (hReference : Schema.ResolvesToStructure schemas reference) :
    ∃ key ∈ (Schema.aliases schemas).target? reference, ∃ id s,
      stubs.lookup key.1 key.2 = some id ∧ stubs.structure? id = some s ∧
      ∀ {r : Registry}, stubs.Keeps r → r.Distinct →
        r.refer (Schema.aliases schemas) reference = .ok (.named id) := by
  obtain ⟨key, hTarget, hKey, hOutside⟩ := hReference
  obtain ⟨id, s, hFound, hStub⟩ := h.exists_lookup_structure hKey
  refine ⟨key, hTarget, id, s, hFound, hStub, fun hKeeps hDistinct => ?_⟩
  exact Registry.refer_of_target hTarget hOutside (hKeeps.lookup hDistinct hFound)

theorem finds {reference : String} (hReference : Schema.ResolvesToStructure schemas reference) :
    Scope.Finds ⟨Schema.aliases schemas, stubs⟩ reference := by
  obtain ⟨_, _, id, s, _, hStub, hRefer⟩ := h.exists_refer_structure hReference
  obtain ⟨later, hLater, _⟩ := (Registry.keeps_withPoint stubs).structure? hStub
  exact ⟨id, later, hRefer (.refl _) h.distinct, hLater⟩

/-- The content of an element that can be read is read among the stubs. -/
theorem exists_content {declaration : Declaration}
    (hReadable : Schema.Readable schemas declaration.node) :
    ∃ content, (Content.read ⟨Schema.aliases schemas, stubs⟩ declaration).result = .ok content := by
  obtain ⟨base, hBase⟩ : ∃ base,
      Content.readBase ⟨Schema.aliases schemas, stubs⟩ declaration = .ok base :=
    Content.exists_readBase fun reference hReference =>
      h.finds (hReadable.base_resolves reference hReference)
  obtain ⟨properties, hProperties⟩ : ∃ properties,
      (Markup.children declaration.node "Property").mapM (fun node =>
        (Content.readField ⟨Schema.aliases schemas, stubs⟩ node).result) = .ok properties :=
    exists_mapM_eq_ok fun child hChild => Content.exists_readField
      (hReadable.properties_typed child hChild)
      (hReadable.wrappers_terminated child (List.mem_append_left _ hChild))
      fun reference hReference =>
        h.exists_refer (hReadable.properties_resolve child hChild reference hReference)
  obtain ⟨relations, hRelations⟩ : ∃ relations,
      (Markup.children declaration.node "NavigationProperty").mapM (fun node =>
        (Content.readRelation ⟨Schema.aliases schemas, stubs⟩ declaration node).result) =
          .ok relations :=
    exists_mapM_eq_ok fun child hChild => Content.exists_readRelation
      (hReadable.navigations_typed child hChild)
      (hReadable.wrappers_terminated child (List.mem_append_right _ hChild))
      (hReadable.constraints_complete child hChild)
      fun reference hReference =>
        h.finds (hReadable.navigations_resolve child hChild reference hReference)
  obtain ⟨keys, hKeys⟩ : ∃ keys, Markup.requiredOfAll ((Markup.children declaration.node
      "Key").flatMap (Markup.children · "PropertyRef")) "Name" = .ok keys :=
    Markup.exists_requiredOfAll fun part hPart => by
      obtain ⟨key, hKey, hRef⟩ := List.mem_flatMap.1 hPart
      exact hReadable.keys_named key hKey part hRef
  exact ⟨⟨declaration, base, Content.markKey keys
    (relations.foldl Content.markForeignKeys properties), relations⟩, Content.read_eq_ok.2
      ⟨properties, keys, rfl, hBase, hProperties, hRelations, hKeys, rfl⟩⟩

end Declares

/-- Once the content of all structures is read, no stage before the last one fails: each structure
and the owner of each link is found in its place. -/
theorem Declares.exists_typing_of_contents {settings : Settings} {schemas : List Schema}
    {enumerations : List Enumeration} {announcements : List Announcement} {stubs : Registry}
    {contents : List Content}
    (h : Declares settings schemas enumerations announcements stubs
      (announcements.map (·.declarationIn stubs)))
    (hContents : (announcements.map (·.declarationIn stubs)).mapM
      (fun declaration => (Content.read ⟨Schema.aliases schemas, stubs⟩ declaration).result) =
        .ok contents) :
    ∃ typing : Typing settings, typing.schemas = schemas ∧ typing.stubs = stubs ∧
      typing.announcements = announcements ∧ typing.contents = contents := by
  have hReads : ∀ content ∈ contents, ∃ a ∈ announcements, ∃ properties keys,
      Content.Reads ⟨Schema.aliases schemas, stubs⟩ (a.declarationIn stubs) properties keys
        content := by
    intro content hContent
    obtain ⟨declaration, hDeclaration, hRead⟩ := exists_input_of_mapM hContents hContent
    obtain ⟨a, ha, rfl⟩ := List.mem_map.1 hDeclaration
    exact ⟨a, ha, Content.read_eq_ok.1 hRead⟩
  have hStubs : ∀ content ∈ contents, (stubs.structure? content.declaration.id).isSome := by
    intro content hContent
    obtain ⟨a, ha, _, _, hRead⟩ := hReads content hContent
    obtain ⟨id, _, hStub, hId⟩ := h.lookup_announcement ha
    rw [hRead.declaration_eq, hId, hStub]
    rfl
  obtain ⟨filled, hFilled⟩ := Content.exists_foldlM_fill hStubs
  obtain ⟨completed, hCompleted⟩ : ∃ completed, Content.fillAll stubs contents = .ok completed :=
    ⟨_, Content.fillAll_eq_ok.2 ⟨filled, hFilled, rfl⟩⟩
  have hKeeps : stubs.Keeps completed := Content.keeps_fillAll hCompleted
  obtain ⟨linked, hLinked⟩ : ∃ linked,
      (Link.attachments completed contents).foldlM Link.attach completed = .ok linked := by
    apply Link.exists_foldlM_attach
    intro attached hAttached
    obtain ⟨content, hContent, hOwner⟩ := Link.owner_of_mem_attachments
      (fun content hContent relation hRelation => by
        obtain ⟨_, _, _, _, hRead⟩ := hReads content hContent
        exact hRead.owner_eq hRelation) hAttached
    exact hOwner ▸ hKeeps.isSome_structure? (hStubs content hContent)
  exact ⟨⟨schemas, enumerations, announcements, stubs, contents, completed, linked, h, hContents,
    hCompleted, hLinked⟩, rfl, rfl, rfl, rfl⟩

/-- Everything before the last stage succeeds, and finds each structure in its place. -/
theorem Declares.exists_typing {settings : Settings} {schemas : List Schema}
    {enumerations : List Enumeration} {announcements : List Announcement} {stubs : Registry}
    (h : Declares settings schemas enumerations announcements stubs
      (announcements.map (·.declarationIn stubs)))
    (hReadable : ∀ declared ∈ Schema.declaredStructures schemas,
      Schema.Readable schemas declared.2.2) :
    ∃ typing : Typing settings, typing.schemas = schemas := by
  obtain ⟨contents, hContents⟩ : ∃ contents, (announcements.map (·.declarationIn stubs)).mapM
      (fun declaration => (Content.read ⟨Schema.aliases schemas, stubs⟩ declaration).result) =
        .ok contents := by
    apply exists_mapM_eq_ok
    intro declaration hDeclaration
    obtain ⟨a, ha, rfl⟩ := List.mem_map.1 hDeclaration
    obtain ⟨declared, hDeclared, hRead⟩ := exists_input_of_mapM h.announcements_read ha
    obtain ⟨name, _, rfl⟩ := map_eq_ok.1 hRead
    exact h.exists_content (hReadable declared hDeclared)
  obtain ⟨typing, hSchemas, _⟩ := h.exists_typing_of_contents hContents
  exact ⟨typing, hSchemas⟩

/-- Resolvable schemas are read up to the members of their containers. -/
theorem exists_typing (settings : Settings) {schemas : List Schema}
    (h : Schema.Resolvable schemas) : ∃ typing : Typing settings, typing.schemas = schemas := by
  obtain ⟨_, _, _, hDeclares⟩ := exists_declares settings h.enumerations_named
    (fun declared hDeclared => (h.structures_readable declared hDeclared).named) h.types_distinct
  exact hDeclares.exists_typing h.structures_readable

end Metadata

end Csdl
