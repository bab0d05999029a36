import Csdl.Proofs.Metadata.Agenda
import Csdl.Proofs.Metadata.Origin

/-! The list of navigations. It has one entry for each element of a declared structure, in the order of
the document, and each entry has a link on its owner or has marked a foreign key there. -/
namespace Csdl

/-- The element of a navigation, with the element of its owner and the namespace of that. -/
structure NavigationNode where
  namespaceName : String
  owner : Xml.Node
  node : Xml.Node

/-- The navigations that the structures of some schemas declare. -/
def Schema.declaredNavigations (schemas : List Schema) : List NavigationNode :=
  (declaredStructures schemas).flatMap fun (space, _, owner) =>
    (Markup.children owner "NavigationProperty").map (⟨space, owner, ·⟩)

/-- The field of a constraint: a text that is named by the property of the target and has the name
of the local property in transit. -/
def Field.MappedBy (constraint : Xml.Node) (field : Field) : Prop :=
  ∃ property referenced, constraint.attribute? "Property" = some property ∧
    constraint.attribute? "ReferencedProperty" = some referenced ∧
    field = (Field.scalar referenced .string).withWireName property

/-- What an element says of a navigation, with its types among those of a registry. -/
structure Navigation.DeclaredBy (registry : Registry) (aliases : AliasTable)
    (element : NavigationNode) (n : Navigation) : Prop where
  owner_found : ∃ name s, element.owner.attribute? "Name" = some name ∧
    registry.lookup element.namespaceName name = some n.owner ∧
    registry.structure? n.owner = some s ∧ n.qualifiedName = s.qualifiedName
  field_declared : n.field.DeclaredBy registry aliases element.node
  target_structured : ∃ target, n.target? = some target ∧ (registry.structure? target).isSome
  containsTarget_iff :
    n.containsTarget = true ↔ element.node.attribute? "ContainsTarget" = some "true"
  unmapped_iff :
    n.updateMapping = none ↔ Markup.children element.node "ReferentialConstraint" = []
  mapped : ∀ mapping, n.updateMapping = some mapping →
    (∀ id, registry.structure? id ≠ some mapping) ∧
    ∃ fields, mapping = .anonymous n.name fields ∧
      List.Forall₂ Field.MappedBy (Markup.children element.node "ReferentialConstraint") fields

/-- What is accounted for has an id. -/
theorem Registry.Accounted.id_ne_empty {r : Registry} {settings : Settings}
    (h : r.Accounted settings) {id : TypeId} {s : Structure}
    (hStructure : r.structure? id = some s) : s.id ≠ "" := by
  rcases h id s hStructure with hBuiltIn | ⟨kind, name, hId⟩
  · cases hBuiltIn with
    | record hHere hRecord =>
        obtain rfl := Option.some.inj (hStructure.symm.trans hHere)
        have hId := congrArg Structure.id hRecord
        dsimp only at hId
        rw [hId]
        decide
    | extension _ _ hHere _ hSuffix hId =>
        obtain rfl := Option.some.inj (hStructure.symm.trans hHere)
        have hFull : ∀ suffix ∈ ["Insert", "Select", "Update"], suffix ≠ "" := by decide
        rw [hId]
        intro hEmpty
        exact hFull _ hSuffix (String.append_eq_empty_iff.1 hEmpty).2
  · rw [hId]
    unfold Settings.mintId
    cases settings.idPrefix? <;> simp

/-- The navigations of a definition, as they are recorded while the structures of some schemas are
read. -/
structure Definition.ListsNavigations (definition : Definition) (schemas : List Schema)
    (contents : List Content) : Prop where
  declared : List.Forall₂ (Navigation.DeclaredBy definition.registry (Schema.aliases schemas))
    (Schema.declaredNavigations schemas) definition.navigations
  navigations_eq : (Agenda.run contents).navigations = definition.navigations
  deferred_eq : (Agenda.run contents).deferred = Content.links contents
  deferred_owned : ∀ link ∈ Content.links contents, ∃ n,
    definition.navigations[link.navigation]? = some n ∧ n.owner = link.owner
  settled : ∀ i n, definition.navigations[i]? = some n → (Agenda.run contents).Settled i n.owner
  fields_eq : ∀ content ∈ contents, ∃ keys, ∀ agenda : Agenda,
    content.fields = Content.markKey keys (agenda.fill content).fields
  marked_iff : ∀ i element, (Schema.declaredNavigations schemas)[i]? = some element →
    ((∃ marking ∈ (Agenda.run contents).markings, marking.navigation = i) ↔
      Content.isConstrained element.owner element.node = true)
  navigationsFor_eq : ∀ name, definition.navigationsFor name = definition.navigations.filter
    fun n => (definition.registry.structure? n.owner).any (·.qualifiedName = name)

namespace Content

/-- The structure of some constraints has a field for each of them. -/
theorem mapped_of_mapM {node : Xml.Node} {constraints : List (String × String)}
    (h : (Markup.children node "ReferentialConstraint").mapM readConstraint = .ok constraints)
    {name : String} :
    (mappingOf name constraints = none ↔ Markup.children node "ReferentialConstraint" = []) ∧
      ∀ mapping, mappingOf name constraints = some mapping →
        ∃ fields, mapping = .anonymous name fields ∧
          List.Forall₂ Field.MappedBy (Markup.children node "ReferentialConstraint") fields := by
  have hLength := (mapM_eq_ok.1 h).length_eq
  constructor
  · rw [← List.length_eq_zero_iff, hLength, List.length_eq_zero_iff, mappingOf]
    cases constraints <;> simp
  · intro mapping hMapping
    unfold mappingOf at hMapping
    split at hMapping
    · cases hMapping
    · obtain rfl := Option.some.inj hMapping
      refine ⟨_, rfl, ?_⟩
      rw [List.forall₂_map_right_iff]
      refine (mapM_eq_ok.1 h).imp fun constraint pair hRead => ?_
      obtain ⟨property, hProperty, hRest⟩ := Query.bind_eq_ok.1 hRead
      obtain ⟨referenced, hReferenced, hEq⟩ := Query.bind_eq_ok.1 hRest
      cases hEq
      exact ⟨property, referenced, Markup.required_eq_ok.1 hProperty,
        Markup.required_eq_ok.1 hReferenced, rfl⟩

/-- Without the marks that keys set, the fields of a structure are its properties. -/
theorem Reads.map_unmarked {scope : Scope} {declaration : Declaration} {properties : List Field}
    {keys : List String} {content : Content} (h : Reads scope declaration properties keys content) :
    content.fields.map Field.unmarked = properties := by
  have hUnmarked : ∀ field ∈ properties, field.unmarked = field := by
    intro field hField
    obtain ⟨node, _, hRead⟩ := exists_input_of_mapM h.properties_read hField
    obtain ⟨_, _, _, _, _, _, _, _, _, rfl⟩ := readField_eq_ok.1 hRead
    rfl
  rw [h.map_fields (fun _ _ => rfl) fun _ => rfl]
  exact (List.map_congr_left hUnmarked).trans (List.map_id' properties)

end Content

namespace Metadata

/-- What is read of the structures that some schemas declare. -/
def ReadTo (settings : Settings) (schemas : List Schema) (contents : List Content) : Prop :=
  ∃ stubs declarations, (declare settings schemas).result = .ok (stubs, declarations) ∧
    declarations.mapM (fun d => (Content.read ⟨Schema.aliases schemas, stubs⟩ d).result) =
      .ok contents

namespace Reading

variable {settings : Settings} {document : Xml.Document} (reading : Reading settings document)

theorem name_of_announcement {a : Announcement} (ha : a ∈ reading.announcements) :
    a.node.attribute? "Name" = some a.name := by
  obtain ⟨_, _, hRead⟩ := exists_input_of_mapM reading.declares.announcements_read ha
  obtain ⟨name, hName, rfl⟩ := map_eq_ok.1 hRead
  exact Markup.required_eq_ok.1 hName

/-- A relation of an announced structure is a navigation that its element declares. -/
theorem declaredBy_of_readRelation {a : Announcement} (ha : a ∈ reading.announcements)
    {content : Content} (hContent : content ∈ reading.contents) {properties : List Field}
    {keys : List String}
    (hReads : Content.Reads reading.scope (a.declarationIn reading.stubs) properties keys content)
    {node : Xml.Node} (hNode : node ∈ Markup.children a.node "NavigationProperty")
    {relation : Relation} (hRelation : relation ∈ content.relations)
    (hRead : (Content.readRelation reading.scope (a.declarationIn reading.stubs) node).result =
      .ok relation) :
    relation.navigation.DeclaredBy reading.final.registry (Schema.aliases reading.schemas)
      ⟨a.namespaceName, a.node, node⟩ := by
  obtain ⟨id, hFound, _, hId⟩ := reading.declares.lookup_announcement ha
  have hLookup := (reading.keeps_completed.trans reading.keeps_final).lookup
    reading.distinct_final hFound
  have hSound := reading.final_sound.1.navigations _
    (Content.mem_navigations.2 ⟨content, hContent, relation, hRelation, rfl⟩)
  obtain ⟨s, hOwner, hName⟩ := hSound.owner_structured
  obtain ⟨field, _, target, constraints, hField, _, _, hConstraints, rfl⟩ :=
    Content.readRelation_eq_ok.1 hRead
  obtain ⟨hUnmapped, hMapped⟩ := Content.mapped_of_mapM hConstraints
  refine ⟨⟨a.name, s, reading.name_of_announcement ha, ?_, hOwner, hName⟩, ?_,
    hSound.target_structured, ?_, hUnmapped, fun mapping hMapping => ?_⟩
  · exact hLookup.trans (congrArg some hId.symm)
  · exact Content.declaredBy_of_readField hField fun _ =>
      reading.refer_child_later reading.keeps_final reading.distinct_final hContent hReads
        (List.mem_append_right _ hNode)
  · exact decide_eq_true_iff
  · obtain ⟨fields, rfl, hFields⟩ := hMapped mapping hMapping
    exact ⟨fun place hPlace => reading.accounted_final.id_ne_empty hPlace rfl, fields, rfl,
      hFields⟩

/-- The navigations of all schemas in one row are those of the announced structures, in their
order. -/
theorem declaredNavigations_eq : Schema.declaredNavigations reading.schemas =
    reading.announcements.flatMap fun a =>
      (Markup.children a.node "NavigationProperty").map (⟨a.namespaceName, a.node, ·⟩) := by
  have hDeclared : Schema.declaredStructures reading.schemas =
      reading.announcements.map fun a => (a.namespaceName, a.kind, a.node) := by
    have hSame : (Schema.declaredStructures reading.schemas).filterMap some =
        reading.announcements.filterMap fun a => some (a.namespaceName, a.kind, a.node) := by
      apply filterMap_eq_of_mapM reading.declares.announcements_read
      intro declared _ a hRead
      obtain ⟨_, _, rfl⟩ := map_eq_ok.1 hRead
      rfl
    simpa using hSame
  rw [Schema.declaredNavigations, hDeclared, List.flatMap_map]

/-- There is one navigation for each element, in their order. It makes a foreign key exactly if one
of its constraints names a property. -/
theorem forall₂_declaredBy :
    List.Forall₂ (fun element noted =>
      Navigation.DeclaredBy reading.final.registry (Schema.aliases reading.schemas) element noted.2 ∧
        noted.1 = Content.isConstrained element.owner element.node)
      (Schema.declaredNavigations reading.schemas) (Content.notedNavigations reading.contents) := by
  rw [reading.declaredNavigations_eq]
  apply List.rel_flatMap (forall₂_mem reading.forall_contents)
  rintro a content ⟨ha, hContent, hRead⟩
  obtain ⟨properties, keys, hReads⟩ := Content.read_eq_ok.1 hRead
  rw [List.forall₂_map_left_iff, List.forall₂_map_right_iff]
  refine (forall₂_mem (mapM_eq_ok.1 hReads.relations_read)).imp ?_
  rintro node relation ⟨hNode, hRelation, hNavigation⟩
  exact ⟨reading.declaredBy_of_readRelation ha hContent hReads hNode hRelation hNavigation,
    hReads.isReferenced_eq hNavigation⟩

/-- What is recorded while the structures are read is what is linked and listed. -/
theorem agenda_eq :
    (Agenda.run reading.contents).navigations = Content.navigations reading.contents ∧
      (Agenda.run reading.contents).deferred = Content.links reading.contents ∧
      (Agenda.run reading.contents).Sound := by
  have hOwners : ∀ content ∈ reading.contents, ∀ relation ∈ content.relations,
      relation.navigation.owner = content.declaration.id :=
    fun _ hContent _ hRelation => reading.owner_eq hContent hRelation
  obtain ⟨hNavigations, hDeferred⟩ := Agenda.follows_run hOwners
  exact ⟨hNavigations, hDeferred, Agenda.sound_run hOwners⟩

/-- A definition lists the navigations that are declared, each once and with all that its element
says. -/
theorem declares_navigations (location : Location) :
    (reading.definition location).ListsNavigations reading.schemas reading.contents := by
  obtain ⟨hNavigations, hDeferred, hSound⟩ := reading.agenda_eq
  have hNoted := reading.forall₂_declaredBy
  refine ⟨?_, hNavigations, hDeferred, fun link hLink => ?_, fun i n hMember => ?_,
    fun content hContent => ?_, fun i element hElement => ?_, fun name => ?_⟩
  · exact List.forall₂_map_right_iff.2 (hNoted.imp fun _ _ hDeclared => hDeclared.1)
  · obtain ⟨n, hMember, hOwner⟩ := Content.mem_linksOf.1 hLink
    refine ⟨n, ?_, hOwner⟩
    exact (List.getElem?_map).trans (congrArg (Option.map _) hMember)
  · exact hSound.settled i n (hNavigations ▸ hMember)
  · obtain ⟨a, _, properties, keys, hReads⟩ := reading.exists_announcement hContent
    refine ⟨keys, fun agenda => ?_⟩
    rw [Agenda.fields_fill, hReads.map_unmarked]
    exact hReads.fields_eq
  · obtain ⟨hLt, rfl⟩ := List.getElem?_eq_some_iff.1 hElement
    have hHere : i < (Content.notedNavigations reading.contents).length := hNoted.length_eq ▸ hLt
    obtain ⟨_, hConstrained⟩ := hNoted.get hLt hHere
    have hMember := List.getElem?_eq_getElem hHere
    have hSettled := hSound.settled i (Content.notedNavigations reading.contents)[i].2 (by
      rw [hNavigations, Content.navigations, List.getElem?_map, hMember]
      rfl)
    rw [hSettled.marked_iff, hDeferred, Content.links_eq, Content.mem_linksOf]
    simp only [List.get_eq_getElem] at hConstrained
    rw [← hConstrained, hMember]
    cases (Content.notedNavigations reading.contents)[i] with
    | mk referenced n => cases referenced <;> simp
  · apply List.filter_congr
    intro n hMem
    obtain ⟨s, hOwner, hName⟩ := (reading.final_sound.1.navigations n hMem).owner_structured
    have hHere : (reading.definition location).registry.structure? n.owner = some s := hOwner
    rw [hHere, hName]
    rfl

end Reading

/-- In what a document defines, the navigations are those that the declared structures have in the
document, each with its owner, its target and its mapping. Each of them has a link under its own
index, or it has marked a property of its owner, and the navigations of a name are those whose owner
has it. -/
theorem navigations_of_walk {settings : Settings} {location : Location} {document : Xml.Document}
    {definition : Definition} (h : (walk settings location document).result = .ok definition) :
    ∃ schemas contents, Metadata.schemas document.root = .ok schemas ∧
      ReadTo settings schemas contents ∧ definition.ListsNavigations schemas contents := by
  obtain ⟨reading, rfl⟩ := walk_eq_ok.1 h
  exact ⟨reading.schemas, reading.contents, reading.schemas_read,
    ⟨_, _, declare_eq_ok.2 ⟨_, _, reading.declares⟩, reading.contents_read⟩,
    reading.declares_navigations location⟩

/-- In the sample both navigations are listed, and the first one has a constraint that it uses. -/
theorem navigations_of_sample :
    ∃ definition schemas contents,
      (walk {} ⟨"https", "localhost", "/"⟩ sample).result = .ok definition ∧
      Metadata.schemas sample.root = .ok schemas ∧ ReadTo {} schemas contents ∧
      definition.ListsNavigations schemas contents ∧
      (Schema.declaredNavigations schemas).map
        (fun element => Content.isConstrained element.owner element.node) = [true, false] := by
  obtain ⟨definition, hDefinition, _⟩ := walk_sample
  obtain ⟨schemas, contents, hSchemas, hRead, hLists⟩ := navigations_of_walk hDefinition
  have hConstrained : (Metadata.schemas sample.root).toOption.map (fun schemas =>
      (Schema.declaredNavigations schemas).map fun element =>
        Content.isConstrained element.owner element.node) = some [true, false] := by decide
  rw [hSchemas] at hConstrained
  exact ⟨definition, schemas, contents, hDefinition, hSchemas, hRead, hLists,
    Option.some.inj hConstrained⟩

end Metadata

end Csdl
