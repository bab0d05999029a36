import Csdl.Proofs.Metadata.Progress
import Csdl.Proofs.Renaming.Registry

/-! Members among renamed places. A member asks for the navigations of one owner at a time and adds
its extensions at the end, so it is derived to the same extensions and functions in registries that
are each other's renaming. -/
namespace Csdl

section Rename

variable (σ : Equiv.Perm TypeId)

/-- The member with the place of its type renamed. -/
def Member.rename (member : Member) : Member :=
  { member with entity := σ member.entity }

/-- Two lists of navigations in which each owner has the same ones, in the same order. -/
def SameNavigations (navigations navigations' : List Navigation) : Prop :=
  ∀ id, ownNavigations navigations' (σ id) =
    (ownNavigations navigations id).map (Navigation.rename σ)

end Rename

namespace Member

section Extensions

variable {σ : Equiv.Perm TypeId} {navigations navigations' : List Navigation}
  (hNavigations : SameNavigations σ navigations navigations')

include hNavigations

/-- The type that is read of a renamed member is the renamed type, field by field. -/
theorem selectExtension_rename (expansions : List Expansion) (member : Member)
    (entity : Structure) :
    selectExtension navigations' expansions (member.rename σ) (entity.rename σ) =
      (selectExtension navigations expansions member entity).rename σ := by
  have hFields : expandedFields navigations' expansions (member.rename σ) (entity.rename σ) =
      (expandedFields navigations expansions member entity).map (Field.rename σ) := by
    unfold expandedFields
    dsimp only
    rw [Member.rename, hNavigations, List.filter_map, List.map_map, List.map_map]
    rfl
  rw [selectExtension, hFields, List.map_map]
  rfl

/-- The type that is written to a renamed member is the renamed type, with the same fields left
out. -/
theorem payloadExtension_rename (capabilities : Capabilities) (member : Member)
    (entity : Structure) (suffix : String) (properties names : List String) :
    payloadExtension navigations' capabilities (member.rename σ) (entity.rename σ) suffix
        properties names =
      (payloadExtension navigations capabilities member entity suffix properties names).rename
        σ := by
  have hFields : ∀ ns : List Navigation,
      (ns.map (Navigation.rename σ)).flatMap (writtenFields capabilities) =
        (ns.flatMap (writtenFields capabilities)).map (Field.rename σ) := by
    intro ns
    rw [List.flatMap_map, List.map_flatMap]
    rfl
  unfold payloadExtension
  dsimp only
  rw [Member.rename, hNavigations, List.filter_map, hFields]
  rfl

/-- The types that a renamed member registers are the renamed types, in the same order. -/
theorem extensions_rename (expansions : List Expansion) (capabilities : Capabilities)
    (member : Member) (entity : Structure) (key : Option Field) :
    extensions navigations' expansions capabilities (member.rename σ) (entity.rename σ)
        (key.map (Field.rename σ)) =
      (extensions navigations expansions capabilities member entity key).map
        (Structure.rename σ) := by
  unfold extensions
  rw [selectExtension_rename hNavigations, insertExtension, insertExtension, updateExtension,
    updateExtension, payloadExtension_rename hNavigations, payloadExtension_rename hNavigations,
    Option.isSome_map, List.map_append, List.map_append, apply_ite (List.map _),
    apply_ite (List.map _)]
  rfl

end Extensions

section Functions

variable (σ : Equiv.Perm TypeId)

theorem createFunction_rename (member : Member) (insert : TypeId) (key : Option Field) :
    (member.rename σ).createFunction (σ insert) (key.map (Field.rename σ)) =
      (member.createFunction insert key).rename σ := by
  cases key <;> rfl

theorem rename_of_plain {field : Field} (h : IsPlain field) : field.rename σ = field := by
  obtain ⟨⟨kind, hKind⟩, _⟩ := h
  cases field
  cases hKind
  rfl

theorem listFunction_rename (member : Member) (select : TypeId) (flags : CapabilityFlags) :
    (member.rename σ).listFunction (σ select) flags =
      (member.listFunction select flags).rename σ := by
  obtain ⟨hInput, hOutput⟩ :=
    map_fields_listFunction (fun _ => rename_of_plain σ) member select flags
  simp only [ServiceFunction.rename, Structure.rename, hInput, hOutput]
  rfl

theorem keyFunctions_rename (member : Member) (flags : CapabilityFlags) (select : TypeId)
    (key : Field) :
    (member.rename σ).keyFunctions flags (σ select) (key.rename σ) =
      (member.keyFunctions flags select key).map (ServiceFunction.rename σ) := by
  rw [keyFunctions, keyFunctions, List.map_append, apply_ite (List.map _), apply_ite (List.map _)]
  rfl

theorem updateFunction_rename (member : Member) (update : TypeId) (key : Field) :
    (member.rename σ).updateFunction (σ update) (key.rename σ) =
      (member.updateFunction update key).rename σ :=
  rfl

/-- Functions refer to the places of the extensions and to what keys refer to. -/
theorem functionsAt_rename (member : Member) (flags : CapabilityFlags) (key : Option Field)
    {place place' : Nat}
    (hPlaces : ∀ i, i < flags.insertable.toNat + 1 + (flags.updatable && key.isSome).toNat →
      σ ⟨place + i⟩ = ⟨place' + i⟩) :
    (member.rename σ).functionsAt flags (key.map (Field.rename σ)) place' =
      (member.functionsAt flags key place).map (ServiceFunction.rename σ) := by
  have hSelect : σ ⟨place + if flags.insertable then 1 else 0⟩ =
      ⟨place' + if flags.insertable then 1 else 0⟩ := by
    apply hPlaces
    cases flags.insertable with
    | false =>
        rw [if_neg Bool.false_ne_true]
        omega
    | true =>
        rw [if_pos rfl, Bool.toNat_true]
        omega
  unfold functionsAt
  rw [List.map_append, List.map_append, apply_ite (List.map _), apply_ite (List.map _),
    List.map_singleton, List.map_singleton, ← createFunction_rename, ← listFunction_rename,
    show σ ⟨place⟩ = ⟨place'⟩ from hPlaces 0 (by omega), hSelect]
  apply congrArg _
  cases key with
  | none => rfl
  | some key =>
      simp only [Option.map_some, List.map_append, ← keyFunctions_rename, hSelect]
      apply congrArg
      cases hUpdatable : flags.updatable with
      | false => rfl
      | true =>
          have hUpdate : σ ⟨place + (if flags.insertable then 1 else 0) + 1⟩ =
              ⟨place' + (if flags.insertable then 1 else 0) + 1⟩ := by
            rw [Nat.add_assoc, Nat.add_assoc]
            apply hPlaces
            rw [hUpdatable]
            cases flags.insertable <;> simp
          rw [if_pos rfl, if_pos rfl, List.map_singleton, ← updateFunction_rename, hUpdate]

end Functions

/-- A member is generated to the same extensions and functions in both registries. -/
theorem generate_rename {σ : Equiv.Perm TypeId} {r r' next : Registry}
    (hRenamed : r.Renamed σ r') (hDistinct : r.Distinct)
    {navigations navigations' : List Navigation}
    (hNavigations : SameNavigations σ navigations navigations') {expansions : List Expansion}
    {member : Member} {capabilities : Capabilities} {functions : List ServiceFunction}
    (h : (generate r navigations expansions member capabilities).result = .ok (functions, next)) :
    ∃ next', (generate r' navigations' expansions (member.rename σ) capabilities).result =
        .ok (functions.map (ServiceFunction.rename σ), next') ∧ next.Renamed σ next' := by
  obtain ⟨entity, hEntity, rfl, hNext, rfl⟩ := (generate_eq_ok hDistinct).1 h
  have hKey : r'.primaryKey? (member.rename σ).entity =
      (r.primaryKey? member.entity).map (Field.rename σ) := hRenamed.primaryKey?_eq member.entity
  have hLater := hRenamed.append ((extensions navigations expansions capabilities member entity
    (r.primaryKey? member.entity)).map NamedType.structured)
  have hTypes : ((extensions navigations expansions capabilities member entity
        (r.primaryKey? member.entity)).map NamedType.structured).map (NamedType.rename σ) =
      (extensions navigations' expansions capabilities (member.rename σ) (entity.rename σ)
        (r'.primaryKey? (member.rename σ).entity)).map NamedType.structured := by
    rw [hKey, extensions_rename hNavigations, List.map_map, List.map_map]
    rfl
  rw [hTypes] at hLater
  refine ⟨_, (generate_eq_ok (hRenamed.distinct hDistinct)).2
    ⟨entity.rename σ, ?_, rfl, hLater.distinct hNext, ?_⟩, hLater⟩
  · rw [Member.rename, hRenamed.structure?_eq, hEntity]
    rfl
  · rw [hKey, hRenamed.size_eq]
    exact (functionsAt_rename σ member _ _ fun i _ => hRenamed.fixed _ (Nat.le_add_right _ i)).symm

end Member

/-- What has been made for the member of an outcome. -/
def MemberOutcome.made (outcome : MemberOutcome) : Member × List ServiceFunction :=
  (outcome.member, outcome.functions)

/-- What has been made for a member, with all places renamed. -/
def renameMade (σ : Equiv.Perm TypeId) (made : Member × List ServiceFunction) :
    Member × List ServiceFunction :=
  (made.1.rename σ, made.2.map (ServiceFunction.rename σ))

/-- Members that make renamed functions each make them together in the same order. -/
theorem flatMap_functions_rename {σ : Equiv.Perm TypeId} {outcomes outcomes' : List MemberOutcome}
    (h : outcomes'.map MemberOutcome.made = (outcomes.map MemberOutcome.made).map (renameMade σ)) :
    outcomes'.flatMap (·.functions) =
      (outcomes.flatMap (·.functions)).map (ServiceFunction.rename σ) := by
  have hAll := congrArg (List.flatMap (·.2)) h
  rw [List.flatMap_map, List.flatMap_map, List.flatMap_map] at hAll
  rw [List.map_flatMap]
  exact hAll

namespace Derivation

variable {σ : Equiv.Perm TypeId} {settings : Settings} {aliases : AliasTable}
  {navigations navigations' : List Navigation}

/-- A member that can be derived in one registry can be derived in the other. -/
theorem Derives.rename {state state' next : Derivation} {node : MemberNode}
    {outcome : MemberOutcome} (hNavigations : SameNavigations σ navigations navigations')
    (hRenamed : state.registry.Renamed σ state'.registry) (hDistinct : state.registry.Distinct)
    (h : Derives settings aliases navigations state node outcome next) :
    ∃ outcome' next', Derives settings aliases navigations' state' node outcome' next' ∧
      next.registry.Renamed σ next'.registry ∧ outcome'.made = renameMade σ outcome.made := by
  have hExtended := hRenamed.extendFor hDistinct (.named outcome.member.entity)
  have hCommutes : ∀ s : Structure, nameCollection outcome.member.name (s.rename σ) =
      (nameCollection outcome.member.name s).rename σ := fun _ => rfl
  obtain ⟨bound', hEdit', hBound⟩ := hExtended.edit hCommutes h.bound_eq
  obtain ⟨registry', hGenerate, hNext⟩ :=
    Member.generate_rename hBound (h.distinct_bound hDistinct) hNavigations h.generated
  refine ⟨⟨outcome.member.rename σ, outcome.reference, outcome.capabilities, bound',
      outcome.functions.map (ServiceFunction.rename σ)⟩,
    ⟨registry', state'.functions ++ outcome.functions.map (ServiceFunction.rename σ), _⟩,
    ⟨h.name_read, h.reference_read, h.namespace_eq, h.kind_eq, ?_, hEdit', h.capabilities_read,
      hGenerate, rfl, rfl⟩, hNext, rfl⟩
  rw [hRenamed.refer_eq hDistinct, h.refer_eq]
  rfl

/-- Members that can be derived from one registry on can be derived from the other. -/
theorem DerivesAll.rename {state state' last : Derivation} {nodes : List MemberNode}
    {outcomes : List MemberOutcome}
    (hNavigations : SameNavigations σ navigations navigations')
    (hRenamed : state.registry.Renamed σ state'.registry) (hDistinct : state.registry.Distinct)
    (h : DerivesAll settings aliases navigations state nodes outcomes last) :
    ∃ outcomes' last', DerivesAll settings aliases navigations' state' nodes outcomes' last' ∧
      last.registry.Renamed σ last'.registry ∧
      outcomes'.map MemberOutcome.made = (outcomes.map MemberOutcome.made).map (renameMade σ) := by
  induction h generalizing state' with
  | nil state => exact ⟨[], state', .nil _, hRenamed, rfl⟩
  | cons first rest ih =>
      obtain ⟨outcome', middle', hFirst, hMiddle, hMade⟩ :=
        first.rename hNavigations hRenamed hDistinct
      obtain ⟨outcomes', last', hRest, hLast, hAll⟩ := ih hMiddle (first.distinct hDistinct)
      refine ⟨outcome' :: outcomes', last', .cons hFirst hRest, hLast, ?_⟩
      rw [List.map_cons, List.map_cons, List.map_cons, hMade, hAll]

end Derivation

end Csdl
