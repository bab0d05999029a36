import Csdl.Proofs.Member.Generation

/-! What is read of a member: beside all that its type has, the fields of those of its navigations
that expansions ask for. Only what the expansions for a type ask for together counts, so it does not
matter how they are spelled, in which order they come, or how often. -/
namespace Csdl

/-- An expansion is for an entity type if it has its id or its qualified name. -/
def Expansion.IsFor (entity : Structure) (expansion : Expansion) : Prop :=
  expansion.entity = entity.id ∨ expansion.entity = entity.qualifiedName

/-- Some expansion for an entity type asks for a navigation. -/
def Expansion.Asks (expansions : List Expansion) (entity : Structure) (name : String) : Prop :=
  ∃ expansion ∈ expansions, expansion.IsFor entity ∧ name ∈ expansion.navigations

/-- Lists of expansions that differ in nothing that matters to an entity type, which has navigations
of some names. Expansions may change places, be repeated, merged or split; what is for another type
and what is no navigation may be left out. -/
inductive Expansion.Rearranged (entity : Structure) (names : List String) :
    List Expansion → List Expansion → Prop where
  | reordered {expansions expansions' : List Expansion} (hPerm : expansions.Perm expansions') :
      Rearranged entity names expansions expansions'
  | repeated {expansion : Expansion} {expansions : List Expansion}
      (hMem : expansion ∈ expansions) :
      Rearranged entity names (expansion :: expansions) expansions
  | merged {first second : Expansion} (hSame : first.IsFor entity ↔ second.IsFor entity)
      (expansions : List Expansion) :
      Rearranged entity names (first :: second :: expansions)
        (⟨first.entity, first.navigations ++ second.navigations⟩ :: expansions)
  | ignored {expansion : Expansion} (hOther : ¬ expansion.IsFor entity)
      (expansions : List Expansion) :
      Rearranged entity names (expansion :: expansions) expansions
  | unknown {name : String} (hName : name ∉ names) (spelling : String)
      (before after : List String) (expansions : List Expansion) :
      Rearranged entity names (⟨spelling, before ++ name :: after⟩ :: expansions)
        (⟨spelling, before ++ after⟩ :: expansions)
  | symm {expansions expansions' : List Expansion}
      (h : Rearranged entity names expansions expansions') :
      Rearranged entity names expansions' expansions
  | trans {expansions middle expansions' : List Expansion}
      (first : Rearranged entity names expansions middle)
      (second : Rearranged entity names middle expansions') :
      Rearranged entity names expansions expansions'

namespace Expansion

instance (entity : Structure) (expansion : Expansion) : Decidable (expansion.IsFor entity) :=
  inferInstanceAs (Decidable (_ ∨ _))

instance (expansions : List Expansion) (entity : Structure) (name : String) :
    Decidable (Asks expansions entity name) :=
  inferInstanceAs (Decidable (∃ expansion ∈ expansions, _))

variable {entity : Structure} {name : String}

theorem asks_cons {expansion : Expansion} {expansions : List Expansion} :
    Asks (expansion :: expansions) entity name ↔
      (expansion.IsFor entity ∧ name ∈ expansion.navigations) ∨ Asks expansions entity name := by
  simp only [Asks, List.exists_mem_cons_iff]

/-- Rearranged expansions ask for the same navigations of an entity type. -/
theorem Rearranged.asks_iff {names : List String} {expansions expansions' : List Expansion}
    (h : Rearranged entity names expansions expansions') (hName : name ∈ names) :
    Asks expansions entity name ↔ Asks expansions' entity name := by
  induction h with
  | reordered hPerm =>
      exact exists_congr fun expansion => and_congr_left fun _ => hPerm.mem_iff
  | @repeated expansion expansions hMem =>
      rw [asks_cons, or_iff_right_iff_imp]
      exact fun hAsks => ⟨expansion, hMem, hAsks⟩
  | @merged first second hSame expansions =>
      have hFirst : IsFor entity ⟨first.entity, first.navigations ++ second.navigations⟩ ↔
        first.IsFor entity := Iff.rfl
      rw [asks_cons, asks_cons, asks_cons, hFirst, ← hSame, List.mem_append, and_or_left, or_assoc]
  | @ignored expansion hOther expansions =>
      rw [asks_cons, or_iff_right_iff_imp]
      exact fun hAsks => absurd hAsks.1 hOther
  | @unknown other hOther spelling before after expansions =>
      have hNe : name ≠ other := fun hSame => hOther (hSame ▸ hName)
      have hFor : IsFor entity ⟨spelling, before ++ other :: after⟩ ↔
        IsFor entity ⟨spelling, before ++ after⟩ := Iff.rfl
      rw [asks_cons, asks_cons, hFor, List.mem_append, List.mem_append, List.mem_cons,
        or_iff_right hNe]
  | symm _ ih => exact ih.symm
  | trans _ _ ih ih' => exact ih.trans ih'

end Expansion

/-- A structure that is read of a member. It has the fields of those navigations of the entity type
that are asked for, and notes that they are duplicates. -/
structure Member.Reads (navigations : List Navigation) (expansions : List Expansion)
    (member : Member) (entity s : Structure) : Prop where
  id_eq : s.id = entity.id ++ "Select"
  base_eq : s.base = some member.entity
  collectionName_eq : s.collectionName = entity.collectionName
  restricted_eq : s.restricted = []
  fields_eq : s.fields = (navigations.filter fun navigation =>
      navigation.owner = member.entity ∧
        Expansion.Asks expansions entity navigation.name).map fun navigation =>
    { navigation.field with duplicate := true }
  duplicates_eq : s.duplicates = s.fields.map (·.name)

namespace Member

variable {navigations : List Navigation} {expansions expansions' : List Expansion}
  {member : Member} {entity : Structure}

theorem contains_expandedNames {name : String} :
    (expandedNames expansions entity).contains name =
      decide (Expansion.Asks expansions entity name) := by
  rw [Bool.eq_iff_iff, List.contains_iff_mem, decide_eq_true_iff]
  simp only [expandedNames, List.mem_flatMap, List.mem_filter, Expansion.appliesTo,
    Bool.or_eq_true, decide_eq_true_iff, Expansion.Asks, Expansion.IsFor, and_assoc]

/-- The fields that are expanded, by what is asked for. -/
theorem expandedFields_eq (navigations : List Navigation) (expansions : List Expansion)
    (member : Member) (entity : Structure) :
    expandedFields navigations expansions member entity = (navigations.filter fun navigation =>
        navigation.owner = member.entity ∧
          Expansion.Asks expansions entity navigation.name).map fun navigation =>
      { navigation.field with duplicate := true } := by
  rw [expandedFields, ownNavigations, List.filter_filter]
  simp only [contains_expandedNames, Bool.decide_and, Bool.and_comm]

theorem reads_selectExtension (navigations : List Navigation) (expansions : List Expansion)
    (member : Member) (entity : Structure) :
    member.Reads navigations expansions entity
      (selectExtension navigations expansions member entity) :=
  ⟨rfl, rfl, rfl, rfl, expandedFields_eq navigations expansions member entity, rfl⟩

/-- What is read does not change if expansions are rearranged. -/
theorem selectExtension_of_rearranged
    (h : Expansion.Rearranged entity ((ownNavigations navigations member.entity).map (·.name))
      expansions expansions') :
    selectExtension navigations expansions member entity =
      selectExtension navigations expansions' member entity := by
  have hKept : ∀ navigation ∈ ownNavigations navigations member.entity,
      (expandedNames expansions entity).contains navigation.name =
        (expandedNames expansions' entity).contains navigation.name := by
    intro navigation hMem
    rw [contains_expandedNames, contains_expandedNames,
      decide_eq_decide.2 (h.asks_iff (List.mem_map_of_mem hMem))]
  rw [selectExtension, selectExtension, expandedFields, expandedFields, List.filter_congr hKept]

/-- Generation takes nothing from expansions but what is read. -/
theorem generate_of_rearranged {r : Registry} (capabilities : Capabilities)
    (h : ∀ entity, r.structure? member.entity = some entity →
      Expansion.Rearranged entity ((ownNavigations navigations member.entity).map (·.name))
        expansions expansions') :
    generate r navigations expansions member capabilities =
      generate r navigations expansions' member capabilities := by
  cases hEntity : r.structure? member.entity with
  | none =>
      have hFound : Logged.ofExcept (member.entityType r) =
          .fail (.format (.noEntityType member.name)) := by
        rw [entityType, hEntity]
        rfl
      have hFails : ∀ (error : Error) (next : Structure → Logged (List ServiceFunction × Registry)),
          Logged.fail error >>= next = .fail error := fun _ _ => rfl
      simp only [generate, hFound, hFails]
  | some entity =>
      have hFound : Logged.ofExcept (member.entityType r) = pure entity :=
        congrArg Logged.ofExcept (entityType_eq_ok.2 hEntity)
      simp only [generate, hFound, pure_bind, selectExtension_of_rearranged (h entity hEntity)]

/-- If generation succeeds, the structure that is read is found by its name, which was free. -/
theorem exists_reads_of_generate {r r' : Registry} {capabilities : Capabilities}
    (hEntity : r.structure? member.entity = some entity) {functions : List ServiceFunction}
    (h : (generate r navigations expansions member capabilities).result = .ok (functions, r')) :
    ∃ id s, r.lookup member.namespaceName (member.name ++ "Select") = none ∧
      r'.lookup member.namespaceName (member.name ++ "Select") = some id ∧
      r'.structure? id = some s ∧ member.Reads navigations expansions entity s := by
  obtain ⟨found, hFound, hRegisters, _⟩ := generate_eq_ok_iff_registers.1 h
  obtain rfl : found = entity := Option.some.inj (hFound.symm.trans hEntity)
  have hMem : selectExtension navigations expansions member found ∈ extensions navigations
      expansions capabilities member found (r.primaryKey? member.entity) := by
    simp [extensions]
  obtain ⟨i, hPlace⟩ := List.getElem?_of_mem (List.mem_map_of_mem (f := NamedType.structured) hMem)
  obtain ⟨hFree, hLookup⟩ := hRegisters.lookup hPlace
  exact ⟨_, _, hFree, hLookup, Registry.structure?_eq_some.2 (hRegisters.get? hPlace),
    reads_selectExtension navigations expansions member found⟩

end Member

end Csdl
