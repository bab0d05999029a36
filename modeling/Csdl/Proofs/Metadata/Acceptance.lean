import Csdl.Proofs.Metadata.Evaluation
import Csdl.Proofs.Metadata.Resolution

/-! Which documents are accepted. Where all references can be resolved, deriving a member fails only
if the name of one of its extensions is taken, and no member takes the name of another one's
extension; so all that can be in the way is a declared type. -/
namespace Csdl

open Query (bind_eq_ok)

namespace Member

theorem map_key_outlines (member : Member) (flags : CapabilityFlags) (id : String)
    (keyed : Bool) :
    (member.outlines flags id keyed).map NamedType.key =
      (suffixes flags keyed).map fun suffix => (member.namespaceName, member.name ++ suffix) := by
  unfold outlines suffixes
  cases flags.insertable <;> cases (flags.updatable && keyed) <;> rfl

/-- Names that end like those of extensions are the same only if they begin alike. -/
theorem eq_of_append_eq {name name' suffix suffix' : String}
    (h : suffix ∈ ["Insert", "Select", "Update"]) (h' : suffix' ∈ ["Insert", "Select", "Update"])
    (hEq : name ++ suffix = name' ++ suffix') : name = name' ∧ suffix = suffix' := by
  have hLength : ∀ s ∈ ["Insert", "Select", "Update"], s.toList.length = 6 := by decide
  have hChars := congrArg String.toList hEq
  rw [String.toList_append, String.toList_append] at hChars
  obtain ⟨hName, hSuffix⟩ :=
    List.append_inj' hChars ((hLength suffix h).trans (hLength suffix' h').symm)
  exact ⟨String.toList_inj.1 hName, String.toList_inj.1 hSuffix⟩

end Member

namespace MemberNode

/-- What can be done with a member, as its element says. -/
def capabilities (node : MemberNode) : Capabilities :=
  Capabilities.capabilitiesOf ⟨[], node.node⟩ node.kind

/-- A member of a name that is bound to a type. -/
def member (node : MemberNode) (name : String) (entity : TypeId) : Member :=
  ⟨name, node.namespaceName, entity, node.kind⟩

/-- The primary key of the type whose name a member refers to. -/
def key? (registry : Registry) (aliases : AliasTable) (node : MemberNode) : Option Field := do
  let reference ← node.node.attribute? node.kind.typeAttribute
  let (space, leaf) ← aliases.target? reference
  registry.primaryKey? (← registry.lookup space leaf)

/-- The names of the extensions that a member is to get. -/
def extensionKeys (registry : Registry) (aliases : AliasTable) (node : MemberNode) :
    List (String × String) :=
  (node.node.attribute? "Name").toList.flatMap fun name =>
    (Member.suffixes node.capabilities.flags
      (node.key? registry aliases).isSome).map fun suffix => (node.namespaceName, name ++ suffix)

/-- A member whose reference denotes a structure, now and in all later states of a registry. -/
structure Bound (start : Registry) (aliases : AliasTable) (node : MemberNode) (name : String)
    (entity : TypeId) : Prop where
  name_eq : node.node.attribute? "Name" = some name
  reference_eq : ∃ reference, node.node.attribute? node.kind.typeAttribute = some reference ∧
    (∃ key ∈ aliases.target? reference, start.lookup key.1 key.2 = some entity) ∧
    ∀ {r : Registry}, start.Keeps r → r.Distinct →
      r.refer aliases reference = .ok (.named entity)
  structured : (start.structure? entity).isSome

theorem Bound.lt_size {start : Registry} {aliases : AliasTable} {node : MemberNode}
    {name : String} {entity : TypeId} (h : node.Bound start aliases name entity) :
    entity.index < start.size := by
  obtain ⟨s, hStructure⟩ := Option.isSome_iff_exists.1 h.structured
  exact Registry.lt_size_of_get? (Registry.structure?_eq_some.1 hStructure)

/-- The names that a bound member registers are its own with the suffixes of what it is capable
of. -/
theorem Bound.extensionKeys_eq {start : Registry} {aliases : AliasTable} {node : MemberNode}
    {name : String} {entity : TypeId} (h : node.Bound start aliases name entity) :
    node.extensionKeys start aliases =
      (Member.suffixes node.capabilities.flags
        (start.primaryKey? entity).isSome).map fun suffix =>
          (node.namespaceName, name ++ suffix) := by
  obtain ⟨reference, hReference, ⟨key, hTarget, hFound⟩, _⟩ := h.reference_eq
  have hKey : node.key? start aliases = start.primaryKey? entity := by
    simp only [key?, hReference, Option.mem_def.1 hTarget, hFound, Option.bind_eq_bind,
      Option.bind_some]
  rw [extensionKeys, h.name_eq, Option.toList_some, List.flatMap_singleton, hKey]

end MemberNode

/-- A later state of a registry, in which types are still distinct. -/
structure Registry.Follows (start later : Registry) : Prop where
  keeps : start.Keeps later
  retains : start.Retains later
  distinct : later.Distinct

namespace Registry

theorem Distinct.follows {r : Registry} (h : r.Distinct) : r.Follows r :=
  ⟨.refl r, .refl r, h⟩

theorem extendFor_of_lt {r : Registry} {id : TypeId} (h : id.index < r.size) :
    r.extendFor (.named id) = r := by
  apply if_neg
  rintro ⟨⟩
  exact Nat.lt_irrefl _ h

end Registry

namespace Derivation

section Step

variable {settings : Settings} {aliases : AliasTable} {navigations : List Navigation}
  {start : Registry} {state next : Derivation} {node : MemberNode} {outcome : MemberOutcome}
  {name : String} {entity : TypeId}

theorem Derives.follows (h : Derives settings aliases navigations state node outcome next)
    (hFollows : start.Follows state.registry) : start.Follows next.registry :=
  ⟨hFollows.keeps.trans (h.keeps hFollows.distinct),
    hFollows.retains.trans (h.retains hFollows.distinct), h.distinct hFollows.distinct⟩

/-- The extensions of a bound member have the names that it is to get. -/
theorem map_key_append_extensions (hBound : node.Bound start aliases name entity)
    (hSound : start.Sound navigations) {bound : Registry} (hRetains : start.Retains bound)
    (expansions : List Expansion) (s : Structure) :
    (bound.append ((Member.extensions navigations expansions node.capabilities
      (node.member name entity) s (bound.primaryKey? entity)).map .structured)).outline.map
        NamedType.key =
      bound.outline.map NamedType.key ++ node.extensionKeys start aliases := by
  have hKey : bound.primaryKey? entity = start.primaryKey? entity :=
    hRetains.primaryKey? hSound.base_lt_size hBound.lt_size
  have hKeys := Member.map_key_outlines (node.member name entity) node.capabilities.flags s.id
    (start.primaryKey? entity).isSome
  rw [← Member.map_outline_extensions navigations expansions, List.map_map] at hKeys
  rw [Registry.outline_append, List.map_append, List.map_map, List.map_map, hKey,
    hBound.extensionKeys_eq]
  exact congrArg (_ ++ ·) hKeys

/-- A bound member is derived as what it is. -/
theorem Derives.of_bound (h : Derives settings aliases navigations state node outcome next)
    (hBound : node.Bound start aliases name entity) (hFollows : start.Follows state.registry) :
    outcome.member = node.member name entity ∧ outcome.capabilities = node.capabilities := by
  obtain ⟨reference, hReference, _, hRefer⟩ := hBound.reference_eq
  have hName : outcome.member.name = name :=
    Option.some.inj ((Markup.required_eq_ok.1 h.name_read).symm.trans hBound.name_eq)
  have hRead : outcome.reference = reference :=
    Option.some.inj ((Markup.required_eq_ok.1 h.reference_read).symm.trans hReference)
  have hEntity : outcome.member.entity = entity := by
    have hType := h.refer_eq
    rw [hRead, hRefer hFollows.keeps hFollows.distinct] at hType
    exact (TypeRef.named.inj (Except.ok.inj hType)).symm
  constructor
  · rw [MemberNode.member, ← hName, ← h.namespace_eq, ← hEntity, ← h.kind_eq]
  · exact Except.ok.inj (h.capabilities_read.symm.trans (ownCapabilities_eq node))

/-- What deriving a bound member adds to the names in the registry. -/
theorem Derives.map_key_outline
    (h : Derives settings aliases navigations state node outcome next)
    (hBound : node.Bound start aliases name entity) (hSound : start.Sound navigations)
    (hFollows : start.Follows state.registry) :
    next.registry.outline.map NamedType.key =
      state.registry.outline.map NamedType.key ++ node.extensionKeys start aliases := by
  obtain ⟨hMember, hCapabilities⟩ := h.of_bound hBound hFollows
  obtain ⟨s, _, hNext, _⟩ := h.exists_entity hFollows.distinct
  have hSize : entity.index < state.registry.size :=
    Nat.lt_of_lt_of_le hBound.lt_size hFollows.keeps.size_le
  have hOutline : outcome.bound.outline = state.registry.outline := by
    rw [h.outline_bound, hMember]
    exact congrArg Registry.outline (Registry.extendFor_of_lt hSize)
  rw [hNext, MemberOutcome.extensions, hMember, hCapabilities, ← hOutline]
  exact map_key_append_extensions hBound hSound (hFollows.retains.trans h.retains_bound) _ s

/-- A bound member can be derived exactly if the names of its extensions are free. -/
theorem exists_derives_iff (hBound : node.Bound start aliases name entity)
    (hSound : start.Sound navigations) (hFollows : start.Follows state.registry) :
    (∃ outcome next, Derives settings aliases navigations state node outcome next) ↔
      (state.registry.outline.map NamedType.key ++ node.extensionKeys start aliases).Nodup := by
  constructor
  · rintro ⟨outcome, next, h⟩
    rw [← h.map_key_outline hBound hSound hFollows]
    exact Registry.distinct_iff_nodup.1 (h.distinct hFollows.distinct)
  · intro hNodup
    obtain ⟨reference, hReference, _, hRefer⟩ := hBound.reference_eq
    have hSize : entity.index < state.registry.size :=
      Nat.lt_of_lt_of_le hBound.lt_size hFollows.keeps.size_le
    obtain ⟨old, hOld⟩ :=
      Option.isSome_iff_exists.1 (hFollows.keeps.isSome_structure? hBound.structured)
    obtain ⟨bound, hEdit⟩ := Registry.exists_edit_of_structure? hOld (nameCollection name)
    have hOutline : bound.outline = state.registry.outline :=
      Registry.outline_of_edit hEdit fun _ => rfl
    have hDistinct : bound.Distinct := by
      rw [Registry.distinct_iff_nodup, hOutline]
      exact Registry.distinct_iff_nodup.1 hFollows.distinct
    obtain ⟨s, hEntity, _⟩ := (Registry.Keeps.of_outline_eq hOutline).structure? hOld
    have hRetains : start.Retains bound :=
      hFollows.retains.trans (Registry.retains_of_edit hEdit)
    obtain ⟨registry, hRegistry⟩ : ∃ registry, registry = bound.append
        ((Member.extensions navigations settings.expansions node.capabilities
          (node.member name entity) s (bound.primaryKey? entity)).map .structured) := ⟨_, rfl⟩
    have hNext : registry.Distinct := by
      rw [Registry.distinct_iff_nodup, hRegistry,
        map_key_append_extensions hBound hSound hRetains, hOutline]
      exact hNodup
    have hGenerated := (Member.generate_eq_ok hDistinct).2
      ⟨s, hEntity, hRegistry, hNext, rfl⟩
    refine ⟨⟨node.member name entity, reference, node.capabilities, bound, _⟩,
      ⟨registry, _, _⟩, Markup.required_eq_ok.2 hBound.name_eq,
      Markup.required_eq_ok.2 hReference, rfl, rfl, hRefer hFollows.keeps hFollows.distinct,
      ?_, ownCapabilities_eq node, hGenerated, rfl, rfl⟩
    exact (congrArg (Registry.edit · entity _) (Registry.extendFor_of_lt hSize)).trans hEdit

end Step

/-- Bound members can be derived one after the other exactly if no name of an extension is taken or
given twice. -/
theorem exists_derivesAll_iff {settings : Settings} {aliases : AliasTable}
    {navigations : List Navigation} {start : Registry} {state : Derivation}
    {nodes : List MemberNode}
    (hBound : ∀ node ∈ nodes, ∃ name entity, node.Bound start aliases name entity)
    (hSound : start.Sound navigations) (hFollows : start.Follows state.registry) :
    (∃ outcomes last, DerivesAll settings aliases navigations state nodes outcomes last) ↔
      (state.registry.outline.map NamedType.key ++
        nodes.flatMap (·.extensionKeys start aliases)).Nodup := by
  induction nodes generalizing state with
  | nil =>
      rw [List.flatMap_nil, List.append_nil]
      exact ⟨fun _ => Registry.distinct_iff_nodup.1 hFollows.distinct,
        fun _ => ⟨[], state, .nil state⟩⟩
  | cons node nodes ih =>
      obtain ⟨name, entity, hHead⟩ := hBound node List.mem_cons_self
      have hTail : ∀ other ∈ nodes, ∃ name entity, other.Bound start aliases name entity :=
        fun other hOther => hBound other (List.mem_cons_of_mem _ hOther)
      rw [List.flatMap_cons, ← List.append_assoc]
      constructor
      · rintro ⟨_, last, h⟩
        cases h with
        | cons first rest =>
            rw [← first.map_key_outline hHead hSound hFollows]
            exact (ih hTail (first.follows hFollows)).1 ⟨_, last, rest⟩
      · intro hNodup
        obtain ⟨outcome, middle, first⟩ :=
          (exists_derives_iff hHead hSound hFollows).2 (List.nodup_append.1 hNodup).1
        rw [← first.map_key_outline hHead hSound hFollows] at hNodup
        obtain ⟨outcomes, last, rest⟩ := (ih hTail (first.follows hFollows)).2 hNodup
        exact ⟨outcome :: outcomes, last, .cons first rest⟩

end Derivation

namespace MemberNode

variable {registry : Registry} {aliases : AliasTable}

theorem mem_extensionKeys {node : MemberNode} {key : String × String} :
    key ∈ node.extensionKeys registry aliases ↔ ∃ name, node.node.attribute? "Name" = some name ∧
      ∃ suffix ∈ Member.suffixes node.capabilities.flags (node.key? registry aliases).isSome,
        (node.namespaceName, name ++ suffix) = key := by
  simp only [extensionKeys, List.mem_flatMap, Option.mem_toList, List.mem_map]

/-- No extension has the name of the point record. -/
theorem ne_point_of_mem_extensionKeys {node : MemberNode} {key : String × String}
    (h : key ∈ node.extensionKeys registry aliases) :
    key ≠ (EdmType.edmNamespace, EdmType.pointName) := by
  obtain ⟨name, _, suffix, hSuffix, rfl⟩ := mem_extensionKeys.1 h
  intro hEq
  exact Member.append_ne_pointName name ((Member.suffixes_sublist _ _).subset hSuffix)
    (congrArg Prod.snd hEq)

/-- Members of different names have no extension of the same name. -/
theorem nodup_extensionKeys {nodes : List MemberNode}
    (h : (nodes.filterMap fun node =>
      (node.node.attribute? "Name").map (node.namespaceName, ·)).Nodup) :
    (nodes.flatMap (·.extensionKeys registry aliases)).Nodup := by
  rw [List.nodup_flatMap]
  constructor
  · intro node _
    rw [extensionKeys]
    cases node.node.attribute? "Name" with
    | none => exact List.nodup_nil
    | some name =>
        have hSuffixes : ["Insert", "Select", "Update"].Nodup := by decide
        rw [Option.toList_some, List.flatMap_singleton]
        refine (hSuffixes.sublist (Member.suffixes_sublist _ _)).map_on ?_
        intro suffix hSuffix suffix' hSuffix' hEq
        exact (Member.eq_of_append_eq ((Member.suffixes_sublist _ _).subset hSuffix)
          ((Member.suffixes_sublist _ _).subset hSuffix') (congrArg Prod.snd hEq)).2
  · rw [List.Nodup, List.pairwise_filterMap] at h
    refine h.imp fun {node node'} hDiffer => ?_
    intro key hKey hKey'
    obtain ⟨name, hName, suffix, hSuffix, rfl⟩ := mem_extensionKeys.1 hKey
    obtain ⟨name', hName', suffix', hSuffix', hEq⟩ := mem_extensionKeys.1 hKey'
    obtain ⟨hSpace, hText⟩ := Prod.mk.inj hEq
    obtain ⟨hSame, _⟩ := Member.eq_of_append_eq ((Member.suffixes_sublist _ _).subset hSuffix')
      ((Member.suffixes_sublist _ _).subset hSuffix) hText
    refine hDiffer (node.namespaceName, name) (by rw [hName]; rfl) (node'.namespaceName, name')
      (by rw [hName']; rfl) ?_
    rw [hSpace, hSame]

end MemberNode

namespace Metadata

/-- The elements of a document that are schemas. -/
def schemaNodes (root : Xml.Node) : List Xml.Node :=
  (root.childrenNamed Markup.edmx "DataServices").flatMap (Markup.children · "Schema")

/-- The schemas of a document that have a namespace. -/
def namedSchemas (root : Xml.Node) : List Schema :=
  (schemaNodes root).filterMap fun node =>
    (node.attribute? "Namespace").map fun space => ⟨space, node⟩

end Metadata

/-- A document that says all that has to be said: every attribute that is required is there, no name
is given twice, wrappers are closed, and references lead to types of the right kind. -/
@[mk_iff]
structure Xml.Document.Resolvable (document : Xml.Document) : Prop where
  root_eq : document.root.label = "Edmx"
  has_services : document.root.childrenNamed Markup.edmx "DataServices" ≠ []
  schemas_named : ∀ node ∈ Metadata.schemaNodes document.root, node.Has ["Namespace"]
  schemas_resolvable : Schema.Resolvable (Metadata.namedSchemas document.root)

instance (document : Xml.Document) : Decidable document.Resolvable :=
  decidable_of_iff' _ (Xml.Document.resolvable_iff document)

namespace Metadata

theorem schemas_eq_mapM {root : Xml.Node}
    (hServices : root.childrenNamed Markup.edmx "DataServices" ≠ []) :
    schemas root = (schemaNodes root).mapM Schema.ofNode := by
  rw [schemas, schemaNodes]
  cases hCases : root.childrenNamed Markup.edmx "DataServices" with
  | nil => exact absurd hCases hServices
  | cons service services => rfl

/-- What is read of the schemas of a document are those that have a namespace. -/
theorem namedSchemas_eq_of_mapM {root : Xml.Node} {found : List Schema}
    (h : (schemaNodes root).mapM Schema.ofNode = .ok found) : namedSchemas root = found := by
  have hSame : namedSchemas root = found.filterMap some := by
    apply filterMap_eq_of_mapM h
    intro node _ schema hRead
    obtain ⟨space, hSpace, hEq⟩ := bind_eq_ok.1 hRead
    cases hEq
    rw [Markup.required_eq_ok.1 hSpace]
    rfl
  rwa [List.filterMap_some] at hSame

theorem namedSchemas_eq {root : Xml.Node} {found : List Schema}
    (h : schemas root = .ok found) : namedSchemas root = found := by
  have hServices : root.childrenNamed Markup.edmx "DataServices" ≠ [] := by
    intro hNone
    rw [schemas, hNone] at h
    cases h
  exact namedSchemas_eq_of_mapM ((schemas_eq_mapM hServices).symm.trans h)

/-- All schemas are read if there are any services and each schema has its namespace. -/
theorem schemas_eq_ok {root : Xml.Node}
    (hServices : root.childrenNamed Markup.edmx "DataServices" ≠ [])
    (hNamed : ∀ node ∈ schemaNodes root, node.Has ["Namespace"]) :
    schemas root = .ok (namedSchemas root) := by
  obtain ⟨found, hFound⟩ : ∃ found, (schemaNodes root).mapM Schema.ofNode = .ok found :=
    exists_mapM_eq_ok fun node hNode => by
      obtain ⟨space, hSpace⟩ := (hNamed node hNode).exists_required List.mem_cons_self
      exact ⟨_, bind_eq_ok.2 ⟨space, hSpace, rfl⟩⟩
  rw [schemas_eq_mapM hServices, namedSchemas_eq_of_mapM hFound, hFound]

namespace Typing

variable {settings : Settings} (typing : Typing settings)

/-- Links change no primary key, so they change no name of an extension. -/
theorem extensionKeys_linked (node : MemberNode) (aliases : AliasTable) :
    node.extensionKeys typing.linked aliases = node.extensionKeys typing.completed aliases := by
  have hKey : node.key? typing.linked aliases = node.key? typing.completed aliases := by
    unfold MemberNode.key?
    refine bind_congr fun reference => bind_congr fun ⟨space, leaf⟩ => ?_
    dsimp only
    rw [Registry.lookup_eq_of_outline_eq typing.outline_linked]
    cases hFound : typing.completed.lookup space leaf with
    | none => rfl
    | some id =>
        obtain ⟨_, hType, _⟩ := Registry.get?_of_lookup hFound
        exact typing.primaryKey?_linked (Registry.lt_size_of_get? hType)
  rw [MemberNode.extensionKeys, hKey]
  rfl

/-- What members of resolvable schemas refer to is there when they are derived. -/
theorem exists_bound (h : Schema.Resolvable typing.schemas) {node : MemberNode}
    (hNode : node ∈ typing.schemas.flatMap Schema.members) :
    ∃ name entity, node.Bound typing.linked (Schema.aliases typing.schemas) name entity := by
  have hTyped := h.members_typed node hNode
  obtain ⟨name, hName⟩ := hTyped.exists_required List.mem_cons_self
  obtain ⟨reference, hReference⟩ :=
    hTyped.exists_required (List.mem_cons_of_mem _ List.mem_cons_self)
  rw [Markup.required_eq_ok] at hName hReference
  obtain ⟨key, hTarget, id, s, hFound, hStub, hRefer⟩ :=
    typing.declares.exists_refer_structure (h.members_resolve node hNode reference hReference)
  have hKeeps : typing.stubs.Keeps typing.linked :=
    typing.keeps_completed.trans typing.keeps_linked
  exact ⟨name, id, hName, ⟨reference, hReference,
    ⟨key, hTarget, hKeeps.lookup typing.distinct_linked hFound⟩,
    fun hLater => hRefer (hKeeps.trans hLater)⟩,
    hKeeps.isSome_structure? (Option.isSome_iff_exists.2 ⟨s, hStub⟩)⟩

/-- The names in the registry when members are derived: those of declared types, and perhaps the
one of the point record. -/
theorem mem_map_key_linked {key : String × String} :
    (key ∈ Schema.declaredKeys typing.schemas → key ∈ typing.linked.outline.map NamedType.key) ∧
    (key ∈ typing.linked.outline.map NamedType.key → key ∈ Schema.declaredKeys typing.schemas ∨
      key = (EdmType.edmNamespace, EdmType.pointName)) := by
  rw [typing.outline_linked_eq, List.map_append, typing.declares.map_key_outline]
  refine ⟨List.mem_append_left _, fun hKey => (List.mem_append.1 hKey).imp_right ?_⟩
  intro hPoint
  split at hPoint
  · exact List.mem_singleton.1 hPoint
  · cases hPoint

end Typing

/-- A document in which all references can be resolved is read up to the members of its containers,
and it is accepted exactly if no extension of a member has the name of a declared type. -/
theorem walk_of_resolvable {settings : Settings} {location : Location} {document : Xml.Document}
    (h : document.Resolvable) :
    ∃ completed, Completes settings (namedSchemas document.root) completed ∧
      ((∃ definition, (walk settings location document).result = .ok definition) ↔
        ∀ node ∈ (namedSchemas document.root).flatMap Schema.members,
          ∀ key ∈ node.extensionKeys completed (Schema.aliases (namedSchemas document.root)),
            key ∉ Schema.declaredKeys (namedSchemas document.root)) := by
  obtain ⟨typing, hSchemas⟩ := exists_typing settings h.schemas_resolvable
  have hRead := schemas_eq_ok h.has_services h.schemas_named
  have hResolvable := h.schemas_resolvable
  rw [← hSchemas] at hRead hResolvable ⊢
  refine ⟨typing.completed, typing.completes, ?_⟩
  rw [exists_walk_iff typing h.root_eq hRead, Derivation.exists_derivesAll_iff
    (fun node hNode => typing.exists_bound hResolvable hNode) typing.linked_sound
    typing.distinct_linked.follows, List.nodup_append]
  simp only [typing.extensionKeys_linked]
  constructor
  · rintro ⟨_, _, hDiffer⟩ node hNode key hKey hDeclared
    exact hDiffer key (typing.mem_map_key_linked.1 hDeclared) key
      (List.mem_flatMap.2 ⟨node, hNode, hKey⟩) rfl
  · intro hFree
    refine ⟨Registry.distinct_iff_nodup.1 typing.distinct_linked,
      MemberNode.nodup_extensionKeys hResolvable.members_distinct, ?_⟩
    rintro key hTaken _ hKey rfl
    obtain ⟨node, hNode, hMem⟩ := List.mem_flatMap.1 hKey
    rcases typing.mem_map_key_linked.2 hTaken with hDeclared | hPoint
    · exact hFree node hNode key hMem hDeclared
    · exact MemberNode.ne_point_of_mem_extensionKeys hMem hPoint

/-- All references of the sample can be resolved. -/
theorem walk_of_resolvable_sample :
    sample.Resolvable ∧ ∃ completed, Completes {} (namedSchemas sample.root) completed ∧
      ((∃ definition, (walk {} ⟨"https", "localhost", "/"⟩ sample).result = .ok definition) ↔
        ∀ node ∈ (namedSchemas sample.root).flatMap Schema.members,
          ∀ key ∈ node.extensionKeys completed (Schema.aliases (namedSchemas sample.root)),
            key ∉ Schema.declaredKeys (namedSchemas sample.root)) := by
  have hSample : sample.Resolvable := by decide +kernel
  exact ⟨hSample, walk_of_resolvable hSample⟩

/-- The sample with one more entity type, of the name that an extension of its member gets. -/
def sampleWithClash : Xml.Document :=
  sampleDocument [sampleOrder, sampleRecord, sampleColor,
    sampleElement "EntityType" [("Name", "LatestSelect")] [], sampleContainer]

/-- A document is not accepted although all its references can be resolved. -/
theorem walk_of_clash :
    sampleWithClash.Resolvable ∧
      (walk {} ⟨"https", "localhost", "/"⟩ sampleWithClash).result =
        .error (.format (.declaredTwice "Shop" "LatestSelect")) := by
  refine ⟨by decide +kernel, ?_⟩
  rw [result_walk]
  decide +kernel

end Metadata

end Csdl
