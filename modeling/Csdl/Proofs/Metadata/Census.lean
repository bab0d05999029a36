import Csdl.Proofs.Metadata.Lasting

/-! All types and functions of a definition, in the order in which they are registered and made.
Declared types come first and the extensions of members behind them; the point record is put where
a reference first denotes it. -/
namespace Csdl

namespace Member

/-- What registration fixes of an extension with a suffix, for an entity type with an id. -/
def outlineOf (member : Member) (id suffix : String) : NamedType :=
  .structured {
    namespaceName := member.namespaceName
    name := member.name ++ suffix
    id := id ++ suffix }

/-- What registration fixes of the extensions of a member: one that is read, and before and behind
it those that can be inserted and updated. -/
def outlines (member : Member) (flags : CapabilityFlags) (id : String) (keyed : Bool) :
    List NamedType :=
  (if flags.insertable then [member.outlineOf id "Insert"] else []) ++
  [member.outlineOf id "Select"] ++
  if flags.updatable && keyed then [member.outlineOf id "Update"] else []

theorem map_outline_extensions (navigations : List Navigation) (expansions : List Expansion)
    (capabilities : Capabilities) (member : Member) (entity : Structure) (key : Option Field) :
    (extensions navigations expansions capabilities member entity key).map
        (fun s => (NamedType.structured s).outline) =
      member.outlines capabilities.flags entity.id key.isSome := by
  rw [extensions, outlines]
  cases capabilities.flags.insertable <;> cases capabilities.flags.updatable && key.isSome <;> rfl

end Member

/-- Whether one of some types has the name of the point record. -/
def knowsPoint (types : List NamedType) : Bool :=
  types.any (·.hasName EdmType.edmNamespace EdmType.pointName)

theorem knowsPoint_append (first second : List NamedType) :
    knowsPoint (first ++ second) = (knowsPoint first || knowsPoint second) :=
  List.any_append

/-- What registration fixes of the point record. -/
def pointOutline : NamedType :=
  (NamedType.structured Registry.pointRecord).outline

/-- Types in parts, each with a note whether it is registered with a use of the point record. The
point record stands before the first such part, unless its name is known. -/
def placePoint (known : Bool) (parts : List (Bool × List NamedType)) : List NamedType :=
  (parts.takeWhile fun part => !part.1).flatMap (·.2) ++
  (if !known && parts.any (·.1) then [pointOutline] else []) ++
  (parts.dropWhile fun part => !part.1).flatMap (·.2)

theorem placePoint_true (parts : List (Bool × List NamedType)) :
    placePoint true parts = parts.flatMap (·.2) := by
  rw [placePoint, Bool.not_true, Bool.false_and, if_neg Bool.false_ne_true, List.append_nil,
    ← List.flatMap_append, List.takeWhile_append_dropWhile]

/-- The parts can be gone through one by one. -/
theorem placePoint_cons (known uses : Bool) (types : List NamedType)
    (parts : List (Bool × List NamedType)) :
    placePoint known ((uses, types) :: parts) =
      (if !known && uses then [pointOutline] else []) ++ types ++
        placePoint (known || uses) parts := by
  cases uses with
  | true => rw [Bool.or_true, placePoint_true]; simp [placePoint]
  | false =>
      rw [Bool.or_false, placePoint, placePoint, List.any_cons, Bool.false_or]
      simp

namespace Registry

theorem isSome_lookup (r : Registry) (namespaceName name : String) :
    (r.lookup namespaceName name).isSome = r.outline.any (·.hasName namespaceName name) := by
  rw [lookup_eq_findIdx?, Option.isSome_map, List.findIdx?_isSome]

/-- The point record comes last if it is not known by its name. -/
theorem outline_withPoint (r : Registry) :
    r.withPoint.outline = r.outline ++ if knowsPoint r.outline then [] else [pointOutline] := by
  rw [knowsPoint, ← isSome_lookup]
  rcases r.withPoint_cases with ⟨_, hFound, _, hEq⟩ | ⟨hFresh, _, hEq⟩
  · rw [hEq, hFound]
    simp
  · rw [hEq, hFresh, outline_push]
    rfl

theorem extendFor_pointId (r : Registry) : r.extendFor (.named r.pointId) = r.withPoint := by
  unfold extendFor
  rcases r.withPoint_cases with ⟨_, _, _, hEq⟩ | ⟨_, hId, _⟩
  · rw [hEq]
    exact ite_self r
  · rw [if_pos (congrArg TypeRef.named hId)]

/-- A reference adds the point record if it denotes it and the name is not known yet. -/
theorem outline_extendFor {r : Registry} {aliases : AliasTable} {reference : String} {id : TypeId}
    (h : r.refer aliases reference = .ok (.named id)) :
    (r.extendFor (.named id)).outline = r.outline ++
      if !knowsPoint r.outline && aliases.denotesPoint reference then [pointOutline] else [] := by
  cases hDenotes : aliases.denotesPoint reference with
  | true =>
      have hPoint : r.refer aliases reference = .ok (.named r.pointId) :=
        refer_eq_named.2 (.inl ⟨hDenotes, rfl⟩)
      rw [h, Except.ok.injEq, TypeRef.named.injEq] at hPoint
      rw [hPoint, extendFor_pointId, outline_withPoint]
      cases knowsPoint r.outline <;> rfl
  | false =>
      rcases extendFor_cases h with ⟨_, hEq⟩ | ⟨hTrue, _⟩
      · rw [hEq]
        simp
      · rw [hDenotes] at hTrue
        cases hTrue

end Registry

/-- No name that ends like that of an extension is the one of the point record. -/
theorem Member.append_ne_pointName (name : String) {suffix : String}
    (h : suffix ∈ ["Insert", "Select", "Update"]) : name ++ suffix ≠ EdmType.pointName := by
  intro hEq
  have hEnds : suffix.toList <:+ EdmType.pointName.toList := by
    rw [← hEq, String.toList_append]
    exact List.suffix_append _ _
  simp only [List.mem_cons, List.not_mem_nil, or_false] at h
  rcases h with rfl | rfl | rfl <;> revert hEnds <;> decide

/-- No extension has the name of the point record. -/
theorem Member.knowsPoint_outlines (member : Member) (flags : CapabilityFlags) (id : String)
    (keyed : Bool) : knowsPoint (member.outlines flags id keyed) = false := by
  have hSuffix : ∀ suffix ∈ ["Insert", "Select", "Update"],
      (member.outlineOf id suffix).hasName EdmType.edmNamespace EdmType.pointName = false := by
    intro suffix hMem
    rw [Bool.eq_false_iff]
    intro hName
    exact append_ne_pointName member.name hMem
      (congrArg Prod.snd (NamedType.hasName_iff.1 hName))
  simp only [knowsPoint, List.any_eq_false, outlines, List.append_assoc, List.mem_append,
    List.mem_ite_nil_right, List.mem_singleton]
  rintro type (⟨_, rfl⟩ | rfl | ⟨_, rfl⟩)
  · exact Bool.eq_false_iff.1 (hSuffix "Insert" (by simp))
  · exact Bool.eq_false_iff.1 (hSuffix "Select" (by simp))
  · exact Bool.eq_false_iff.1 (hSuffix "Update" (by simp))

/-- What registration fixes of the extensions of an outcome, by what a registry holds. -/
def MemberOutcome.outlines (registry : Registry) (outcome : MemberOutcome) : List NamedType :=
  outcome.member.outlines outcome.capabilities.flags
    ((registry.structure? outcome.member.entity).elim "" (·.id))
    (registry.primaryKey? outcome.member.entity).isSome

namespace Derivation

section Step

variable {settings : Settings} {aliases : AliasTable} {navigations : List Navigation}
  {state next : Derivation} {node : MemberNode} {outcome : MemberOutcome}

/-- What deriving a member adds to the registry. -/
theorem Derives.outline_eq (h : Derives settings aliases navigations state node outcome next)
    (hDistinct : state.registry.Distinct) :
    next.registry.outline = state.registry.outline ++
      ((if !knowsPoint state.registry.outline && aliases.denotesPoint outcome.reference then
        [pointOutline] else []) ++ outcome.outlines outcome.bound) := by
  obtain ⟨entity, hEntity, hNext, _⟩ := h.exists_entity hDistinct
  have hExtensions : ((outcome.extensions navigations settings.expansions entity).map
      NamedType.structured).map NamedType.outline = outcome.outlines outcome.bound := by
    rw [List.map_map, MemberOutcome.outlines, hEntity, Option.elim_some]
    exact Member.map_outline_extensions ..
  rw [hNext, Registry.outline_append, h.outline_bound, Registry.outline_extendFor h.refer_eq,
    hExtensions, List.append_assoc]

/-- A member that refers to the point record leaves it where later references find it. -/
theorem Derives.pointId_later (h : Derives settings aliases navigations state node outcome next)
    (hDenotes : aliases.denotesPoint outcome.reference = true) {r : Registry}
    (hKeeps : outcome.bound.Keeps r) (hDistinct : r.Distinct) :
    r.pointId = state.registry.pointId := by
  have hEntity : TypeRef.named outcome.member.entity = .named state.registry.pointId :=
    Except.ok.inj (h.refer_eq.symm.trans (Registry.refer_eq_named.2 (.inl ⟨hDenotes, rfl⟩)))
  have hOutline : outcome.bound.outline = state.registry.withPoint.outline := by
    rw [h.outline_bound, hEntity, Registry.extendFor_pointId]
  obtain ⟨type, hType, hKey⟩ := state.registry.get?_withPoint_pointId
  obtain ⟨later, hLater, hSame⟩ := ((Registry.Keeps.of_outline_eq hOutline).trans hKeeps).get? hType
  refine Registry.pointId_of_lookup (hDistinct.lookup_eq_some_iff.2 ⟨later, hLater, ?_⟩)
  rw [← NamedType.key_outline, hSame, NamedType.key_outline, hKey]

/-- Later states agree on the extensions of a member. -/
theorem Derives.outlines_later (h : Derives settings aliases navigations state node outcome next)
    (hDistinct : state.registry.Distinct) (hSound : state.registry.Sound navigations)
    {r : Registry} (hRetains : outcome.bound.Retains r) :
    outcome.outlines r = outcome.outlines outcome.bound := by
  obtain ⟨entity, hEntity, _⟩ := h.exists_entity hDistinct
  obtain ⟨name, hLater⟩ := hRetains.structure? hEntity
  have hLt := Registry.lt_size_of_get? (Registry.structure?_eq_some.1 hEntity)
  rw [MemberOutcome.outlines, MemberOutcome.outlines, hEntity, hLater,
    hRetains.primaryKey? (h.bound_sound hSound).base_lt_size hLt]
  rfl

end Step

section Run

variable {settings : Settings} {aliases : AliasTable} {navigations : List Navigation}
  {state last : Derivation} {nodes : List MemberNode} {outcomes : List MemberOutcome}

/-- What deriving members adds to the registry, one after the other. -/
theorem DerivesAll.outline_eq
    (h : DerivesAll settings aliases navigations state nodes outcomes last)
    (hDistinct : state.registry.Distinct) (hSound : state.registry.Sound navigations) :
    last.registry.outline = state.registry.outline ++
      placePoint (knowsPoint state.registry.outline) (outcomes.map fun outcome =>
        (aliases.denotesPoint outcome.reference, outcome.outlines last.registry)) := by
  induction h with
  | nil state => simp [placePoint]
  | @cons state middle last node nodes outcome outcomes first rest ih =>
      have hMiddle := first.distinct hDistinct
      have hKnown : knowsPoint middle.registry.outline =
          (knowsPoint state.registry.outline || aliases.denotesPoint outcome.reference) := by
        rw [first.outline_eq hDistinct, knowsPoint_append, knowsPoint_append,
          MemberOutcome.outlines, Member.knowsPoint_outlines]
        cases knowsPoint state.registry.outline <;>
          cases aliases.denotesPoint outcome.reference <;> rfl
      obtain ⟨_, _, hNext, _⟩ := first.exists_entity hDistinct
      have hLater : outcome.outlines last.registry = outcome.outlines outcome.bound :=
        first.outlines_later hDistinct hSound
          ((hNext ▸ Registry.retains_append _ _).trans (rest.retains hMiddle))
      rw [List.map_cons, placePoint_cons, hLater, ih hMiddle (first.sound hDistinct hSound).1,
        first.outline_eq hDistinct, ← hKnown, first.outline_eq hDistinct]
      simp only [List.append_assoc]

/-- Each node has an outcome, which it has been derived to on the way to the end. -/
theorem DerivesAll.forall₂
    (h : DerivesAll settings aliases navigations state nodes outcomes last)
    (hDistinct : state.registry.Distinct) :
    List.Forall₂ (fun node outcome => ∃ before after,
      Derives settings aliases navigations before node outcome after ∧
        before.registry.Distinct ∧ after.registry.Keeps last.registry) nodes outcomes := by
  induction h with
  | nil state => exact .nil
  | cons first rest ih =>
      have hMiddle := first.distinct hDistinct
      exact .cons ⟨_, _, first, hDistinct, rest.keeps hMiddle⟩ (ih hMiddle)

end Run

end Derivation

/-- What registration fixes of an announced structure. -/
def Announcement.outline (settings : Settings) (a : Announcement) : NamedType :=
  .structured {
    namespaceName := a.namespaceName
    name := a.name
    id := settings.mintId a.kind.idPart a.name }

/-- What registration fixes of all declared types: first the enumerations, then the structures. -/
def declaredOutlines (settings : Settings) (enumerations : List Enumeration)
    (announcements : List Announcement) : List NamedType :=
  enumerations.map .enumeration ++ announcements.map (·.outline settings)

theorem Registry.outline_append_stubs (settings : Settings) (enumerations : List Enumeration)
    (announcements : List Announcement) :
    (({} : Registry).append (enumerations.map .enumeration ++
      announcements.map fun a => .structured (a.stub settings))).outline =
        declaredOutlines settings enumerations announcements := by
  rw [outline_append, List.map_append, List.map_map, List.map_map]
  rfl

/-- Whether a reference in the declaration of a structure stands for the point record. -/
def Announcement.denotesPoint (aliases : AliasTable) (a : Announcement) : Bool :=
  (Content.references a.node).any aliases.denotesPoint

/-- An outcome that tells what a definition has of the member of a container: its type, what can be
done with it, and what has been generated for it. -/
structure MemberOutcome.Describes (settings : Settings) (aliases : AliasTable)
    (definition : Definition) (node : MemberNode) (outcome : MemberOutcome) : Prop where
  name_eq : node.node.attribute? "Name" = some outcome.member.name
  reference_eq : node.node.attribute? node.kind.typeAttribute = some outcome.reference
  namespace_eq : outcome.member.namespaceName = node.namespaceName
  kind_eq : outcome.member.kind = node.kind
  refer_eq : definition.registry.refer aliases outcome.reference =
    .ok (.named outcome.member.entity)
  entity_structured : (definition.registry.structure? outcome.member.entity).isSome
  capabilities_read : Derivation.ownCapabilities node = .ok outcome.capabilities
  functions_generated : ∃ after, (Member.generate outcome.bound definition.navigations
      settings.expansions outcome.member outcome.capabilities).result =
        .ok (outcome.functions, after) ∧
    after.Keeps definition.registry

/-- The types of a definition in the order of their registration, and its functions: what the
declarations and the members of some schemas give, and nothing else. -/
structure Definition.Lists (settings : Settings) (schemas : List Schema)
    (enumerations : List Enumeration) (announcements : List Announcement)
    (outcomes : List MemberOutcome) (definition : Definition) : Prop where
  enumerations_read :
    (Schema.declaredEnumerations schemas).mapM Schema.enumerationOf = .ok enumerations
  announcements_read :
    (Schema.declaredStructures schemas).mapM Announcement.read = .ok announcements
  members_described :
    List.Forall₂ (MemberOutcome.Describes settings (Schema.aliases schemas) definition)
      (schemas.flatMap Schema.members) outcomes
  registry_eq : definition.registry.outline =
    declaredOutlines settings enumerations announcements ++
      placePoint (knowsPoint (declaredOutlines settings enumerations announcements))
        ((announcements.any (·.denotesPoint (Schema.aliases schemas)), []) ::
          outcomes.map fun outcome => ((Schema.aliases schemas).denotesPoint outcome.reference,
            outcome.outlines definition.registry))
  functions_eq : definition.functions = outcomes.flatMap (·.functions)

namespace Metadata

namespace Typing

variable {settings : Settings} (typing : Typing settings)

theorem outline_stubs :
    typing.stubs.outline = declaredOutlines settings typing.enumerations typing.announcements := by
  rw [typing.declares.stubs_eq, Registry.outline_append_stubs]

/-- Where the name of the point record is free, it is used exactly if a reference denotes it. -/
theorem any_uses_eq (hKnown : knowsPoint typing.stubs.outline = false) :
    (typing.contents.any (·.uses typing.stubs.pointId)) =
      typing.announcements.any (·.denotesPoint (Schema.aliases typing.schemas)) := by
  rw [Bool.eq_iff_iff, List.any_eq_true, List.any_eq_true]
  constructor
  · rintro ⟨content, hContent, hUses⟩
    obtain ⟨a, ha, _, _, hReads⟩ := typing.exists_announcement hContent
    obtain ⟨reference, hReference, hRefer⟩ := hReads.uses_iff_refer.1 hUses
    refine ⟨a, ha, List.any_eq_true.2 ⟨reference, hReference, ?_⟩⟩
    rcases Registry.refer_eq_named.1 hRefer with ⟨hDenotes, _⟩ | ⟨_, _, _, _, hFound⟩
    · exact hDenotes
    · rw [knowsPoint, ← Registry.isSome_lookup] at hKnown
      obtain ⟨_, hType, _⟩ := Registry.get?_of_lookup hFound
      have hLt := Registry.lt_size_of_get? hType
      rcases typing.stubs.withPoint_cases with ⟨_, hSome, _⟩ | ⟨_, hNext, _⟩
      · rw [hSome] at hKnown
        cases hKnown
      · change typing.stubs.pointId.index < typing.stubs.size at hLt
        rw [hNext] at hLt
        exact absurd hLt (Nat.lt_irrefl _)
  · rintro ⟨a, ha, hDenotes⟩
    obtain ⟨reference, hReference, hPoint⟩ := List.any_eq_true.1 hDenotes
    obtain ⟨content, hContent, _, _, hReads⟩ := typing.exists_content ha
    exact ⟨content, hContent, hReads.uses_iff_refer.2
      ⟨reference, hReference, Registry.refer_eq_named.2 (.inl ⟨hPoint, rfl⟩)⟩⟩

/-- Once all structures are linked, the point record stands behind the announced ones exactly if it
was not known and one of them refers to it. -/
theorem outline_linked_eq :
    typing.linked.outline = typing.stubs.outline ++
      if !knowsPoint typing.stubs.outline &&
          typing.announcements.any (·.denotesPoint (Schema.aliases typing.schemas)) then
        [pointOutline] else [] := by
  rw [outline_linked, outline_completed, Content.settle]
  cases hKnown : knowsPoint typing.stubs.outline with
  | true =>
      split
      · rw [Registry.outline_withPoint, hKnown]
        rfl
      · simp
  | false =>
      rw [typing.any_uses_eq hKnown]
      cases typing.announcements.any (·.denotesPoint (Schema.aliases typing.schemas)) with
      | true => simp [Registry.outline_withPoint, hKnown]
      | false => simp

end Typing

namespace Reading

variable {settings : Settings} {document : Xml.Document} (reading : Reading settings document)

/-- The outcomes of a reading describe its members. -/
theorem describes (location : Location) :
    List.Forall₂ (MemberOutcome.Describes settings (Schema.aliases reading.schemas)
      (reading.definition location)) (reading.schemas.flatMap Schema.members) reading.outcomes := by
  apply (reading.derives.forall₂ reading.distinct_linked).imp
  intro node outcome h
  obtain ⟨before, after, hDerives, hDistinct, hKeeps⟩ := h
  obtain ⟨entity, hEntity, hNext, _⟩ := hDerives.exists_entity hDistinct
  have hBound : outcome.bound.Keeps reading.final.registry :=
    Registry.Keeps.trans (hNext ▸ Registry.keeps_append _ _) hKeeps
  refine ⟨Markup.required_eq_ok.1 hDerives.name_read, Markup.required_eq_ok.1
    hDerives.reference_read, hDerives.namespace_eq, hDerives.kind_eq, ?_, ?_,
    hDerives.capabilities_read, ⟨_, hDerives.generated, hKeeps⟩⟩
  · exact (hDerives.keeps_bound.trans hBound).refer reading.distinct_final
      (fun hPoint => hDerives.pointId_later hPoint hBound reading.distinct_final) hDerives.refer_eq
  · exact hBound.isSome_structure? (Option.isSome_iff_exists.2 ⟨entity, hEntity⟩)

/-- A definition that is derived from members lists all that the document declares and all that
members add, each at its place. -/
theorem lists (location : Location) :
    (reading.definition location).Lists settings reading.schemas reading.enumerations
      reading.announcements reading.outcomes where
  enumerations_read := reading.declares.enumerations_read
  announcements_read := reading.declares.announcements_read
  members_described := reading.describes location
  registry_eq := by
    have hKnown : knowsPoint reading.linked.outline = (knowsPoint reading.stubs.outline ||
        reading.announcements.any (·.denotesPoint (Schema.aliases reading.schemas))) := by
      rw [reading.outline_linked_eq, knowsPoint_append]
      cases knowsPoint reading.stubs.outline <;>
        cases reading.announcements.any (·.denotesPoint (Schema.aliases reading.schemas)) <;> rfl
    have hFinal := reading.derives.outline_eq reading.distinct_linked reading.linked_sound
    rw [hKnown, reading.outline_linked_eq, List.append_assoc] at hFinal
    rw [← reading.outline_stubs, placePoint_cons, List.append_nil]
    exact hFinal
  functions_eq := reading.derives.functions_eq

end Reading

end Metadata

/-- Each type is an enumeration or a structure, so the counts of both make up that of all types. -/
theorem length_enumerations_add_structures (types : List NamedType) :
    (types.filterMap NamedType.enumeration?).length +
      (types.filterMap NamedType.structure?).length = types.length := by
  induction types with
  | nil => rfl
  | cons type types ih =>
      cases type <;>
        simp only [List.filterMap_cons, NamedType.enumeration?, NamedType.structure?,
          List.length_cons] <;> omega

/-- A document defines the types that it declares, the point record if it is denoted, and what its
members give, each exactly once and in their order; and the summary of the definition counts them
all. -/
theorem Metadata.lists_of_walk {settings : Settings} {location : Location}
    {document : Xml.Document} {definition : Definition}
    (h : (walk settings location document).result = .ok definition) :
    ∃ schemas enumerations announcements outcomes,
      Metadata.schemas document.root = .ok schemas ∧
      definition.Lists settings schemas enumerations announcements outcomes ∧
      definition.registry.Distinct ∧
      definition.summary.enumerations + definition.summary.structures = definition.registry.size ∧
      definition.summary.functions = definition.functions.length ∧
      definition.summary.navigations = definition.navigations.length := by
  obtain ⟨reading, rfl⟩ := walk_eq_ok.1 h
  refine ⟨reading.schemas, reading.enumerations, reading.announcements, reading.outcomes,
    reading.schemas_read, reading.lists location, reading.distinct_final, ?_, rfl, rfl⟩
  have hLength := length_enumerations_add_structures reading.final.registry.types.toList
  rw [Array.length_toList] at hLength
  exact hLength

/-- The sample is accepted, and its summary has the counts of what it lists. -/
theorem Metadata.lists_of_sample :
    ∃ definition schemas enumerations announcements outcomes,
      (walk {} ⟨"https", "localhost", "/"⟩ sample).result = .ok definition ∧
      Metadata.schemas sample.root = .ok schemas ∧
      definition.Lists {} schemas enumerations announcements outcomes ∧
      definition.summary = ⟨1, 5, 3, 2, 2⟩ := by
  obtain ⟨definition, hDefinition, hSummary⟩ := walk_sample
  obtain ⟨schemas, enumerations, announcements, outcomes, hSchemas, hLists, _⟩ :=
    lists_of_walk hDefinition
  exact ⟨definition, schemas, enumerations, announcements, outcomes, hDefinition, hSchemas, hLists,
    hSummary⟩

end Csdl
