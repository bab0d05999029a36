import Csdl.Proofs.Metadata.Lasting
import Csdl.Proofs.Renaming.Linking
import Csdl.Proofs.Renaming.Members
import Csdl.Proofs.Renaming.Order

/-! Reordered documents are read in the same stages, and after each stage the registries are each
other's renaming. So what a document defines does not depend on the order of its declarations. -/
namespace Csdl

/-- Two definitions of the same types, navigations and functions. Types are told by their names,
functions stand in the same order, and so do the navigations of each owner. -/
structure Definition.Renamed (σ : Equiv.Perm TypeId) (definition definition' : Definition) :
    Prop where
  version_eq : definition'.version = definition.version
  location_eq : definition'.location = definition.location
  registry_renamed : definition.registry.Renamed σ definition'.registry
  lookup_eq : ∀ id type, definition.registry.get? id = some type →
    definition'.registry.lookup type.namespaceName type.name = some (σ id)
  functions_eq : definition'.functions = definition.functions.map (ServiceFunction.rename σ)
  navigations_perm :
    definition'.navigations.Perm (definition.navigations.map (Navigation.rename σ))
  navigations_same : SameNavigations σ definition.navigations definition'.navigations

namespace Announcement

/-- The declaration of an announced structure has its place renamed. -/
theorem declarationIn_rename {σ : Equiv.Perm TypeId} {r r' : Registry} (h : r.Renamed σ r')
    (hDistinct : r.Distinct) (a : Announcement) :
    (a.declarationIn r).rename σ = a.declarationIn r' := by
  rw [declarationIn, declarationIn, Declaration.rename, h.lookup_eq hDistinct, h.nextId_eq]
  cases r.lookup a.namespaceName a.name with
  | none => exact congrArg (Declaration.mk · _ _ _) h.rename_nextId
  | some id => rfl

end Announcement

namespace Content

variable {σ : Equiv.Perm TypeId} {contents contents' : List Content}

/-- Renamed contents in any order have the renamed navigations in some order. -/
theorem navigations_perm (hPerm : contents'.Perm (contents.map (rename σ))) :
    (navigations contents').Perm ((navigations contents).map (Navigation.rename σ)) := by
  have hOwn : ∀ cs : List Content,
      navigations cs = cs.flatMap fun c => c.relations.map (·.navigation) := by
    intro cs
    rw [navigations, notedNavigations, List.map_flatMap]
    apply congrArg (List.flatMap · cs)
    funext c
    rw [List.map_map]
    rfl
  rw [hOwn, hOwn, List.map_flatMap]
  refine (hPerm.flatMap_right _).trans (.of_eq ?_)
  rw [List.flatMap_map]
  apply congrArg (List.flatMap · contents)
  funext c
  rw [rename, List.map_map, List.map_map]
  rfl

theorem ownNavigations_navigations (contents : List Content) (id : TypeId) :
    ownNavigations (navigations contents) id = (Link.notedOf contents id).map (·.2) :=
  Link.filter_navigations contents id

/-- Renamed contents in any order have, owner by owner, the renamed navigations in the same
order. -/
theorem sameNavigations_rename (hOwners : ∀ c ∈ contents, ∀ relation ∈ c.relations,
    relation.navigation.owner = c.declaration.id)
    (hNodup : (contents.map (·.declaration.id)).Nodup)
    (hPerm : contents'.Perm (contents.map (rename σ))) :
    SameNavigations σ (navigations contents) (navigations contents') := by
  intro id
  rw [ownNavigations_navigations, ownNavigations_navigations,
    Link.notedOf_rename hOwners hNodup hPerm, List.map_map, List.map_map]
  rfl

end Content

namespace Metadata

/-- The names of reordered schemas are announced alike, in some order. -/
theorem Declares.reordered {settings : Settings} {schemas schemas' : List Schema}
    {enumerations : List Enumeration} {announcements : List Announcement} {stubs : Registry}
    {declarations : List Declaration} (hAlike : List.Forall₂ Schema.Alike schemas schemas')
    (h : Declares settings schemas enumerations announcements stubs declarations) :
    ∃ enumerations' announcements' stubs' σ,
      Declares settings schemas' enumerations' announcements' stubs'
        (announcements'.map (·.declarationIn stubs')) ∧
      announcements'.Perm announcements ∧ stubs.Renamed σ stubs' := by
  obtain ⟨enumerations', hEnumerations, hEnumerationsPerm⟩ :=
    exists_perm_of_mapM_eq_ok h.enumerations_read (Schema.declaredEnumerations_perm hAlike)
  obtain ⟨announcements', hAnnouncements, hAnnouncementsPerm⟩ :=
    exists_perm_of_mapM_eq_ok h.announcements_read (Schema.declaredStructures_perm hAlike)
  have hTypes := (hEnumerationsPerm.map NamedType.enumeration).append
    (hAnnouncementsPerm.map fun a => NamedType.structured (a.stub settings))
  obtain ⟨σ, hRenamed⟩ := Registry.exists_renamed_of_perm hTypes (fun type hType τ => by
    -- stubs have no content yet, so nothing in them is a place
    rcases List.mem_append.1 hType with hEnumeration | hStub
    · obtain ⟨_, _, rfl⟩ := List.mem_map.1 hEnumeration
      rfl
    · obtain ⟨_, _, rfl⟩ := List.mem_map.1 hStub
      rfl)
  rw [← h.stubs_eq] at hRenamed
  exact ⟨enumerations', announcements', _, σ,
    ⟨hEnumerations, hAnnouncements, rfl, hRenamed.distinct h.distinct, rfl⟩,
    hAnnouncementsPerm, hRenamed⟩

namespace Typing

variable {settings : Settings} (typing : Typing settings)

/-- Structures announced in another order are read to the same contents, in that order. -/
theorem exists_contents_rename {σ : Equiv.Perm TypeId} {stubs' : Registry}
    {announcements' : List Announcement} (hRenamed : typing.stubs.Renamed σ stubs')
    (hPerm : announcements'.Perm typing.announcements) :
    ∃ contents', (announcements'.map (·.declarationIn stubs')).mapM (fun declaration =>
        (Content.read ⟨Schema.aliases typing.schemas, stubs'⟩ declaration).result) =
          .ok contents' ∧
      contents'.Perm (typing.contents.map (Content.rename σ)) := by
  have hDistinct := typing.declares.distinct
  have hStep : ∀ (a : Announcement) content,
      (Content.read typing.scope (a.declarationIn typing.stubs)).result = .ok content →
        (Content.read ⟨Schema.aliases typing.schemas, stubs'⟩ (a.declarationIn stubs')).result =
          .ok (content.rename σ) := by
    intro a content hContent
    obtain ⟨_, _, hReads⟩ := Content.read_eq_ok.1 hContent
    rw [← a.declarationIn_rename hRenamed hDistinct]
    exact Content.read_eq_ok.2 ⟨_, _, hReads.rename hRenamed hDistinct⟩
  have hRead := mapM_eq_ok_map hStep (mapM_eq_ok.2 typing.forall_contents)
  obtain ⟨contents', hContents, hContentsPerm⟩ := exists_perm_of_mapM_eq_ok hRead hPerm
  refine ⟨contents', ?_, hContentsPerm⟩
  rw [mapM_eq_ok, List.forall₂_map_left_iff]
  exact mapM_eq_ok.1 hContents

theorem isSome_structure?_completed {content : Content} (hContent : content ∈ typing.contents) :
    (typing.completed.structure? content.declaration.id).isSome := by
  obtain ⟨a, ha, _, _, hReads⟩ := typing.exists_announcement hContent
  rw [typing.structure?_completed_of_content hContent ha hReads.declaration_eq]
  rfl

end Typing

namespace Reading

variable {settings : Settings} {document document' : Xml.Document}
  (reading : Reading settings document)

/-- A reordered document is read, and defines the same. -/
theorem exists_reading_of_reordered (h : document.Reordered document') :
    ∃ (reading' : Reading settings document') (σ : Equiv.Perm TypeId),
      ∀ location, (reading.definition location).Renamed σ (reading'.definition location) := by
  have hDistinct := reading.declares.distinct
  have hOwners : ∀ c ∈ reading.contents, ∀ relation ∈ c.relations,
      relation.navigation.owner = c.declaration.id :=
    fun _ hc _ hRelation => reading.owner_eq hc hRelation
  -- the names
  obtain ⟨schemas', hSchemas, hAlike⟩ := schemas_reordered h reading.schemas_read
  obtain ⟨enumerations', announcements', stubs', σ, hDeclares, hPerm, hStubs⟩ :=
    reading.declares.reordered hAlike
  -- the contents and the links, in the order of the other document
  obtain ⟨contents', hContents, hContentsPerm⟩ := reading.exists_contents_rename hStubs hPerm
  obtain ⟨completed', hCompleted', hCompleted⟩ := Content.exists_fillAll_rename hStubs hDistinct
    reading.nodup_ids hContentsPerm reading.completed_eq
  obtain ⟨linked', hLinked', hLinked⟩ := Link.exists_attached_rename hOwners reading.nodup_ids
    hContentsPerm hCompleted (fun _ => reading.isSome_structure?_completed) reading.linked_eq
  -- the members, whose order is the same
  have hNavigations := Content.sameNavigations_rename hOwners reading.nodup_ids hContentsPerm
  obtain ⟨outcomes', final', hDerives, hFinal, hMade⟩ := reading.derives.rename hNavigations
    (show Registry.Renamed σ _ (Derivation.mk linked' [] {}).registry from hLinked)
    reading.distinct_linked
  have hAliases := Schema.aliases_eq (fun _ _ => (·.namespace_eq))
    (fun _ _ => (·.reordered.attributes_eq)) hAlike
  rw [← Schema.members_eq hAlike, ← hAliases] at hDerives
  rw [← hAliases] at hContents
  refine ⟨⟨⟨schemas', enumerations', announcements', stubs', contents', completed', linked',
    hDeclares, hContents, hCompleted', hLinked'⟩, outcomes', final', ?_, hSchemas, hDerives⟩, σ,
    fun location => ⟨?_, rfl, hFinal, ?_, ?_,
      Content.navigations_perm hContentsPerm, hNavigations⟩⟩
  · rw [← reading.root_eq]
    exact congrArg Xml.Name.label h.name_eq
  · exact congrArg (Option.getD · "") (Xml.Node.attribute?_eq h.attributes_eq "Version")
  · intro id type hType
    have hFound := reading.distinct_final.lookup_eq_some_iff.2 ⟨type, hType, rfl⟩
    exact (hFinal.lookup_eq reading.distinct_final _ _).trans (congrArg (Option.map σ) hFound)
  · change final'.functions = reading.final.functions.map (ServiceFunction.rename σ)
    rw [hDerives.functions_eq, reading.derives.functions_eq]
    exact flatMap_functions_rename hMade

end Reading

/-- What a document defines does not depend on the order of the declarations in its schemas, nor
does whether it defines anything. -/
theorem walk_reordered {settings : Settings} {location : Location}
    {document document' : Xml.Document} (h : document.Reordered document') :
    ((∃ definition, (walk settings location document).result = .ok definition) ↔
      ∃ definition', (walk settings location document').result = .ok definition') ∧
    ∀ definition definition', (walk settings location document).result = .ok definition →
      (walk settings location document').result = .ok definition' →
      ∃ σ, definition.Renamed σ definition' := by
  have hForward : ∀ {document document' : Xml.Document}, document.Reordered document' →
      ∀ definition, (walk settings location document).result = .ok definition →
        ∃ definition' σ, (walk settings location document').result = .ok definition' ∧
          definition.Renamed σ definition' := by
    intro document document' h definition hWalk
    obtain ⟨reading, rfl⟩ := walk_eq_ok.1 hWalk
    obtain ⟨reading', σ, hRenamed⟩ := reading.exists_reading_of_reordered h
    exact ⟨_, σ, walk_eq_ok.2 ⟨reading', rfl⟩, hRenamed location⟩
  refine ⟨⟨?_, ?_⟩, ?_⟩
  · rintro ⟨definition, hWalk⟩
    obtain ⟨definition', _, hWalk', _⟩ := hForward h definition hWalk
    exact ⟨definition', hWalk'⟩
  · rintro ⟨definition', hWalk'⟩
    obtain ⟨definition, _, hWalk, _⟩ := hForward h.symm definition' hWalk'
    exact ⟨definition, hWalk⟩
  · intro definition definition' hWalk hWalk'
    obtain ⟨found, σ, hFound, hRenamed⟩ := hForward h definition hWalk
    obtain rfl := Except.ok.inj (hFound.symm.trans hWalk')
    exact ⟨σ, hRenamed⟩

/-- The sample from its last declaration to its first, a base before what extends it and the
container before the types of its members. -/
theorem sample_reordered :
    ∃ definition definition' σ, definition.summary = ⟨1, 5, 3, 2, 2⟩ ∧
      (walk {} ⟨"https", "localhost", "/"⟩ sample).result = .ok definition ∧
      (walk {} ⟨"https", "localhost", "/"⟩ (sampleDocument
        [sampleContainer, sampleColor, sampleRecord, sampleOrder])).result = .ok definition' ∧
      definition.Renamed σ definition' := by
  have hReordered : sample.Reordered
      (sampleDocument [sampleContainer, sampleColor, sampleRecord, sampleOrder]) := by
    refine ⟨rfl, rfl, rfl, .cons ⟨rfl, rfl, rfl, .cons ⟨rfl, rfl, rfl, ?_, rfl⟩ .nil⟩ .nil⟩
    exact List.reverse_perm [sampleOrder, sampleRecord, sampleColor, sampleContainer]
  obtain ⟨definition, hWalk, hSummary⟩ := walk_sample
  obtain ⟨hSucceeds, hSame⟩ :=
    @walk_reordered {} ⟨"https", "localhost", "/"⟩ _ _ hReordered
  obtain ⟨definition', hWalk'⟩ := hSucceeds.1 ⟨definition, hWalk⟩
  obtain ⟨σ, hRenamed⟩ := hSame definition definition' hWalk hWalk'
  exact ⟨definition, definition', σ, hSummary, hWalk, hWalk', hRenamed⟩

end Metadata

end Csdl
