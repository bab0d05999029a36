import Csdl.Proofs.Exchange.Order
import Csdl.Proofs.Exchange.Point

/-! Documents in whose containers members have been moved past each other are read alike up to the
members, and the members are derived alike in either order. So members do not depend on their order,
except where one is bound to an extension of another one. -/
namespace Csdl

/-- Some outcomes tell of each member of a document, in their order, what a definition has of it,
and the definition has no other functions. -/
structure Definition.MadeOf (settings : Settings) (document : Xml.Document)
    (outcomes : List MemberOutcome) (definition : Definition) : Prop where
  members_described : List.Forall₂ (MemberOutcome.Describes settings
      (Schema.aliases (Metadata.namedSchemas document.root)) definition)
    ((Metadata.namedSchemas document.root).flatMap Schema.members) outcomes
  functions_eq : definition.functions = outcomes.flatMap (·.functions)

/-- Two definitions that are the same but for the order in which members have been derived. Types
are told by their names. A member has the same functions in both, and all types are the same, the
extensions of members among them; only the collection name of a type that several members are bound
to may be another one. -/
structure Definition.Exchanged (σ : Equiv.Perm TypeId) (outcomes outcomes' : List MemberOutcome)
    (definition definition' : Definition) : Prop where
  version_eq : definition'.version = definition.version
  location_eq : definition'.location = definition.location
  navigations_eq : definition'.navigations = definition.navigations.map (Navigation.rename σ)
  lookup_eq : ∀ namespaceName name, definition'.registry.lookup namespaceName name =
    (definition.registry.lookup namespaceName name).map σ
  registry_resembles :
    definition.registry.Resembles σ (2 ≤ boundTimes outcomes ·) definition'.registry
  made_perm : (outcomes'.map MemberOutcome.made).Perm
    ((outcomes.map MemberOutcome.made).map (renameMade σ))

namespace Metadata

variable {settings : Settings} {aliases : AliasTable} {known : List (String × String)}

namespace Typing

variable (typing : Typing settings)

/-- The members of schemas are derived in a registry that is ready for them. -/
theorem ready : typing.linked.Ready (Content.navigations typing.contents)
    (Schema.declaredKeys typing.schemas) where
  distinct := typing.distinct_linked
  sound := typing.linked_sound
  navigations_same _ := typing.sameNavigations
  knows _ hKey := Registry.isSome_lookup_iff.2 (typing.mem_map_key_linked.1 hKey)

/-- Schemas of the same types are read alike, up to their members. -/
theorem exists_of_sameTypes {schemas' : List Schema}
    (h : List.Forall₂ (Schema.SameTypes aliases known) typing.schemas schemas') :
    ∃ typing' : Typing settings, typing'.schemas = schemas' ∧
      typing'.contents = typing.contents ∧ typing'.linked = typing.linked := by
  obtain ⟨hEnumerations, hAnnouncements, hStubs, hDistinct, hDeclarations⟩ := typing.declares
  have hContents := typing.contents_read
  rw [← Schema.declaredEnumerations_eq h] at hEnumerations
  rw [← Schema.declaredStructures_eq h] at hAnnouncements
  rw [← Schema.aliases_eq_of_sameTypes h] at hContents
  exact ⟨⟨schemas', typing.enumerations, typing.announcements, typing.stubs, typing.contents,
    typing.completed, typing.linked, ⟨hEnumerations, hAnnouncements, hStubs, hDistinct,
      hDeclarations⟩, hContents, typing.completed_eq, typing.linked_eq⟩, rfl, rfl, rfl⟩

end Typing

namespace Reading

variable {document document' : Xml.Document} (reading : Reading settings document)

theorem madeOf (location : Location) :
    (reading.definition location).MadeOf settings document reading.outcomes where
  members_described := by
    rw [namedSchemas_eq reading.schemas_read]
    exact reading.describes location
  functions_eq := reading.derives.functions_eq

/-- A document with members in another order is read, and defines the same but for that order. -/
theorem exists_reading_of_moved (h : document.Moved aliases known document')
    (hAliases : Schema.aliases reading.schemas = aliases)
    (hKnown : Schema.declaredKeys reading.schemas = known) :
    ∃ (reading' : Reading settings document') (σ : Equiv.Perm TypeId), ∀ location,
      (reading.definition location).Exchanged σ reading.outcomes reading'.outcomes
        (reading'.definition location) := by
  obtain ⟨schemas', hSchemas, hSame⟩ := h.exists_schemas reading.schemas_read
  obtain ⟨typing', rfl, hContents, hLinked⟩ := reading.exists_of_sameTypes hSame
  have hReady := reading.ready
  have hDerives := reading.derives
  rw [hKnown] at hReady
  rw [hAliases] at hDerives
  obtain ⟨outcomes', final', σ, hDerives', hFixed, hResembles, hMade⟩ :=
    hDerives.exists_exchanged (Schema.members_reordered hSame) hReady
  have hDistinct' : final'.registry.Distinct := hDerives'.distinct reading.distinct_linked
  rw [← hLinked, ← hContents, ← hAliases, ← Schema.aliases_eq_of_sameTypes hSame] at hDerives'
  have hRoot : document'.root.label = "Edmx" := by
    rw [← reading.root_eq]
    exact congrArg Xml.Name.label h.name_eq
  refine ⟨⟨typing', outcomes', final', hRoot, hSchemas, hDerives'⟩, σ, fun location => ⟨?_, rfl, ?_,
    hResembles.lookup_eq reading.distinct_final hDistinct', hResembles, hMade⟩⟩
  · exact congrArg (Option.getD · "") (Xml.Node.attribute?_eq h.attributes_eq "Version")
  · refine (congrArg Content.navigations hContents).trans ?_
    exact ((List.map_congr_left fun n hn => reading.navigation_rename_eq hFixed hn).trans
      (List.map_id _)).symm

end Reading

/-- Members of containers do not depend on their order. A document is accepted in one order exactly
if it is in another one, in which no member has been moved past one that it depends on; and what it
defines is the same, but for the places of extensions, the order of functions, and the collection
names of types that several members are bound to. -/
theorem walk_exchanged {location : Location} {document document' : Xml.Document}
    (h : document.Exchanged document') :
    ((∃ definition, (walk settings location document).result = .ok definition) ↔
      ∃ definition', (walk settings location document').result = .ok definition') ∧
    ∀ definition definition', (walk settings location document).result = .ok definition →
      (walk settings location document').result = .ok definition' →
      ∃ σ outcomes outcomes', definition.MadeOf settings document outcomes ∧
        definition'.MadeOf settings document' outcomes' ∧
        definition.Exchanged σ outcomes outcomes' definition' := by
  have hForward : ∀ definition, (walk settings location document).result = .ok definition →
      ∃ definition' σ outcomes outcomes',
        (walk settings location document').result = .ok definition' ∧
        definition.MadeOf settings document outcomes ∧
        definition'.MadeOf settings document' outcomes' ∧
        definition.Exchanged σ outcomes outcomes' definition' := by
    intro definition hWalk
    obtain ⟨reading, rfl⟩ := walk_eq_ok.1 hWalk
    have hSchemas := namedSchemas_eq reading.schemas_read
    obtain ⟨reading', σ, hExchanged⟩ := reading.exists_reading_of_moved h
      (congrArg Schema.aliases hSchemas.symm) (congrArg Schema.declaredKeys hSchemas.symm)
    exact ⟨_, σ, _, _, walk_eq_ok.2 ⟨reading', rfl⟩, reading.madeOf location,
      reading'.madeOf location, hExchanged location⟩
  refine ⟨⟨?_, ?_⟩, ?_⟩
  · rintro ⟨definition, hWalk⟩
    obtain ⟨definition', _, _, _, hWalk', _⟩ := hForward definition hWalk
    exact ⟨definition', hWalk'⟩
  · rintro ⟨definition', hWalk'⟩
    obtain ⟨reading', rfl⟩ := walk_eq_ok.1 hWalk'
    -- the other document has the same aliases and declares the same types
    obtain ⟨schemas, hSchemas, hSame⟩ := h.symm.exists_schemas reading'.schemas_read
    have hNamed := namedSchemas_eq hSchemas
    obtain ⟨reading, _⟩ := reading'.exists_reading_of_moved h.symm
      (by rw [hNamed, Schema.aliases_eq_of_sameTypes hSame])
      (by rw [hNamed, Schema.declaredKeys_eq_of_sameTypes hSame])
    exact ⟨_, walk_eq_ok.2 ⟨reading, rfl⟩⟩
  · intro definition definition' hWalk hWalk'
    obtain ⟨found, σ, outcomes, outcomes', hFound, hMade, hMade', hExchanged⟩ :=
      hForward definition hWalk
    obtain rfl := Except.ok.inj (hFound.symm.trans hWalk')
    exact ⟨σ, outcomes, outcomes', hMade, hMade', hExchanged⟩

/-- A set of all orders. -/
def sampleOrders : Xml.Node :=
  sampleElement "EntitySet" [("Name", "Orders"), ("EntityType", "Shop.Order")] []

/-- A set of what is read of all orders. -/
def sampleViews : Xml.Node :=
  sampleElement "EntitySet" [("Name", "Views"), ("EntityType", "Shop.OrdersSelect")] []

/-- The latest order. -/
def sampleLatest : Xml.Node :=
  sampleElement "Singleton" [("Name", "Latest"), ("Type", "Shop.Order")] []

/-- The sample with some members in its container. -/
def sampleWithMembers (members : List Xml.Node) : Xml.Document :=
  sampleDocument [sampleOrder, sampleRecord, sampleColor,
    sampleElement "EntityContainer" [("Name", "Service")] members]

theorem summary_sampleWithMembers :
    (walk {} ⟨"https", "localhost", "/"⟩ (sampleWithMembers [sampleOrders, sampleViews,
      sampleLatest])).result.toOption.map Definition.summary = some ⟨1, 11, 5, 2, 12⟩ := by
  rw [result_walk]
  decide +kernel

/-- The latest order is moved to the front, past two members that it does not depend on. -/
theorem exchanged_sampleWithMembers :
    (sampleWithMembers [sampleOrders, sampleViews, sampleLatest]).Exchanged
      (sampleWithMembers [sampleLatest, sampleOrders, sampleViews]) := by
  have hPass : ∀ child ∈ [sampleOrders, sampleViews], Schema.ChildrenMayPass
      (Schema.aliases (namedSchemas (sampleWithMembers []).root))
      (Schema.declaredKeys (namedSchemas (sampleWithMembers []).root))
      (sampleElement "Schema" [("Namespace", "Shop")] []) child sampleLatest := by
    decide +kernel
  -- the two sets stay in their order
  have hSets : ¬ [sampleViews, sampleOrders].Sublist [sampleLatest, sampleOrders, sampleViews] := by
    simp [List.sublist_cons_iff, sampleViews, sampleOrders, sampleLatest, sampleElement]
  refine ⟨rfl, rfl, rfl, .cons ⟨rfl, rfl, rfl, .cons ⟨rfl, rfl, rfl, ?_⟩ .nil⟩ .nil⟩
  refine .cons (.same _) (.cons (.same _) (.cons (.same _) (.cons (.moved _ ?_) .nil)))
  refine .of_perm (List.perm_append_singleton sampleLatest [sampleOrders, sampleViews]) ?_
  refine .cons ?_ (.cons ?_ (List.pairwise_singleton _ _))
  · intro child hChild hSublist
    rcases List.mem_pair.1 hChild with rfl | rfl
    · exact absurd hSublist hSets
    · exact hPass sampleOrders (by simp)
  · intro child hChild _
    obtain rfl := List.mem_singleton.1 hChild
    exact hPass sampleViews (by simp)

/-- Members of the sample may change places: both documents are read, to definitions that are
exchanged with them. -/
theorem walk_exchanged_sample :
    ∃ definition definition' σ outcomes outcomes', definition.summary = ⟨1, 11, 5, 2, 12⟩ ∧
      (walk {} ⟨"https", "localhost", "/"⟩
        (sampleWithMembers [sampleOrders, sampleViews, sampleLatest])).result = .ok definition ∧
      (walk {} ⟨"https", "localhost", "/"⟩
        (sampleWithMembers [sampleLatest, sampleOrders, sampleViews])).result = .ok definition' ∧
      definition.MadeOf {} (sampleWithMembers [sampleOrders, sampleViews, sampleLatest]) outcomes ∧
      definition'.MadeOf {} (sampleWithMembers [sampleLatest, sampleOrders, sampleViews])
        outcomes' ∧
      definition.Exchanged σ outcomes outcomes' definition' := by
  obtain ⟨definition, hDefinition, hSummary⟩ := Option.map_eq_some_iff.1 summary_sampleWithMembers
  have hWalk := toOption_eq_some.1 hDefinition
  obtain ⟨hSucceeds, hSame⟩ :=
    @walk_exchanged {} ⟨"https", "localhost", "/"⟩ _ _ exchanged_sampleWithMembers
  obtain ⟨definition', hWalk'⟩ := hSucceeds.1 ⟨definition, hWalk⟩
  obtain ⟨σ, outcomes, outcomes', hMade, hMade', hExchanged⟩ :=
    hSame definition definition' hWalk hWalk'
  exact ⟨definition, definition', σ, outcomes, outcomes', hSummary, hWalk, hWalk', hMade, hMade',
    hExchanged⟩

/-- A member that is bound to an extension of another one is accepted behind it, not in front. -/
theorem walk_of_views :
    [sampleViews, sampleOrders].Perm [sampleOrders, sampleViews] ∧
      (∃ definition, (walk {} ⟨"https", "localhost", "/"⟩
        (sampleWithMembers [sampleOrders, sampleViews])).result = .ok definition) ∧
      (walk {} ⟨"https", "localhost", "/"⟩
        (sampleWithMembers [sampleViews, sampleOrders])).result =
          .error (.unknownReference "Shop.OrdersSelect") := by
  refine ⟨.swap _ _ _, ?_, ?_⟩
  · have hSome : (walk {} ⟨"https", "localhost", "/"⟩
        (sampleWithMembers [sampleOrders, sampleViews])).result.toOption.isSome = true := by
      rw [result_walk]
      decide +kernel
    obtain ⟨definition, hDefinition⟩ := Option.isSome_iff_exists.1 hSome
    exact ⟨definition, toOption_eq_some.1 hDefinition⟩
  · rw [result_walk]
    decide +kernel

end Metadata

end Csdl
