import Csdl.Proofs.Metadata.Naming
import Csdl.Proofs.Metadata.Payload

/-! How structures get collection names. A member gives its own name to whatever structure it is
bound to, and what is read of it gets a name too; nothing else that is registered has one. So the
places of entities are known step by step, and they can be counted. -/
namespace Csdl

/-- Counting what a list holds is counting the places where it holds it. -/
theorem countP_eq_length_places {α : Type} {p : α → Bool} {xs : List α} {places : List Nat}
    (hNodup : places.Nodup) (hPlaces : ∀ i, i ∈ places ↔ ∃ x, xs[i]? = some x ∧ p x = true) :
    xs.countP p = places.length := by
  have hSome : (List.range xs.length).map (xs[·]?) = xs.map some := by
    refine List.ext_getElem (by simp) fun i _ hi => ?_
    rw [List.length_map] at hi
    simp [hi]
  have hCount : xs.countP p = ((List.range xs.length).filter fun i => (xs[i]?).any p).length := by
    rw [← List.countP_eq_length_filter, ← Function.comp_def (fun x : Option α => x.any p),
      ← List.countP_map, hSome, List.countP_map]
    rfl
  rw [hCount]
  refine List.Perm.length_eq ((List.perm_ext_iff_of_nodup (List.nodup_range.filter _) hNodup).2 ?_)
  intro i
  rw [hPlaces, List.mem_filter, List.mem_range, Option.any_eq_true]
  constructor
  · rintro ⟨_, x, hx, hp⟩
    exact ⟨x, hx, hp⟩
  · rintro ⟨x, hx, hp⟩
    exact ⟨(List.getElem?_eq_some_iff.1 hx).1, x, hx, hp⟩

namespace Registry

/-- A place of a structure with a collection name. -/
def Persists (r : Registry) (id : TypeId) : Prop :=
  ∃ s, r.structure? id = some s ∧ s.isEntity = true

variable {r r' : Registry} {id : TypeId}

theorem Persists.lt_size (h : r.Persists id) : id.index < r.size := by
  obtain ⟨s, hStructure, _⟩ := h
  exact lt_size_of_get? (structure?_eq_some.1 hStructure)

/-- The point record has no collection name. -/
theorem persists_withPoint : r.withPoint.Persists id ↔ r.Persists id := by
  rcases r.withPoint_cases with ⟨_, _, _, hEq⟩ | ⟨_, _, hEq⟩
  · rw [hEq]
  · rw [hEq, Persists, Persists]
    refine exists_congr fun s => and_congr_left fun hEntity => ?_
    rw [structure?_eq_some, structure?_eq_some, get?_push]
    split
    · next hNext =>
        constructor
        · intro hPoint
          obtain rfl := NamedType.structured.inj (Option.some.inj hPoint)
          cases hEntity
        · intro hOld
          have hLt := lt_size_of_get? hOld
          rw [hNext] at hLt
          exact absurd hLt (Nat.lt_irrefl _)
    · rfl

theorem persists_extendFor {type : TypeRef} : (r.extendFor type).Persists id ↔ r.Persists id := by
  unfold extendFor
  split
  · exact persists_withPoint
  · rfl

/-- A structure that is given a collection name has one, and nothing else changes. -/
theorem persists_of_edit {bound : TypeId} {name : String}
    (h : r.edit bound (Derivation.nameCollection name) = .ok r') :
    r'.Persists id ↔ r.Persists id ∨ id = bound := by
  obtain ⟨s, hStructure, hGet⟩ := get?_of_edit h
  unfold Persists
  by_cases hId : id = bound
  · refine iff_of_true ⟨_, structure?_eq_some.2 ((hGet id).trans (if_pos hId)), rfl⟩ (.inr hId)
  · simp only [structure?_eq_some, hGet, hId, or_false, if_false]

/-- What is added behind a registry is there besides what it holds. -/
theorem persists_append {structures : List Structure} :
    (r.append (structures.map .structured)).Persists id ↔ r.Persists id ∨
      ∃ s ∈ structures, s.isEntity = true ∧
        (r.append (structures.map .structured)).structure? id = some s := by
  constructor
  · rintro ⟨s, hStructure, hEntity⟩
    have hHere := structure?_eq_some.1 hStructure
    by_cases hSize : id.index < r.size
    · rw [get?_append_of_lt hSize] at hHere
      exact .inl ⟨s, structure?_eq_some.2 hHere, hEntity⟩
    · rw [get?_append_of_le (Nat.le_of_not_lt hSize)] at hHere
      obtain ⟨extension, hMem, hEq⟩ := List.mem_map.1 (List.mem_of_getElem? hHere)
      obtain rfl := NamedType.structured.inj hEq
      exact .inr ⟨extension, hMem, hEntity, hStructure⟩
  · rintro (⟨s, hStructure, hEntity⟩ | ⟨s, _, hEntity, hStructure⟩)
    · have hHere := structure?_eq_some.1 hStructure
      refine ⟨s, structure?_eq_some.2 ?_, hEntity⟩
      rwa [get?_append_of_lt (lt_size_of_get? hHere)]
    · exact ⟨s, hStructure, hEntity⟩

end Registry

/-- Entities are counted by listing their places once. -/
theorem Definition.entityTypes_eq_length {definition : Definition} {places : List TypeId}
    (hNodup : places.Nodup)
    (hPlaces : ∀ id, id ∈ places ↔ definition.registry.Persists id) :
    definition.summary.entityTypes = places.length := by
  have hCount : definition.summary.entityTypes =
      definition.registry.types.toList.countP fun type => type.structure?.any Structure.isEntity := by
    rw [summary, ← List.countP_eq_length_filter, List.countP_filterMap]
    exact List.countP_congr fun type _ => by cases type <;> rfl
  have hInjective : Function.Injective TypeId.index := fun a b hEq => by
    cases a
    exact congrArg TypeId.mk hEq
  rw [hCount, ← List.length_map TypeId.index]
  refine countP_eq_length_places (hNodup.map hInjective) fun i => ?_
  constructor
  · intro hMem
    obtain ⟨id, hId, rfl⟩ := List.mem_map.1 hMem
    obtain ⟨s, hStructure, hEntity⟩ := (hPlaces id).1 hId
    refine ⟨.structured s, ?_, hEntity⟩
    rw [← Registry.get?_eq_getElem?]
    exact Registry.structure?_eq_some.1 hStructure
  · rintro ⟨type, hType, hAny⟩
    obtain ⟨s, hStructure, hEntity⟩ := (Option.any_eq_true _ _).1 hAny
    refine List.mem_map.2 ⟨⟨i⟩, (hPlaces ⟨i⟩).2 ⟨s, ?_, hEntity⟩, rfl⟩
    rw [Registry.structure?, Registry.get?_eq_getElem?, hType]
    exact hStructure

/-- The place of the extension of a member with a suffix. -/
def MemberOutcome.place? (registry : Registry) (suffix : String) (outcome : MemberOutcome) :
    Option TypeId :=
  registry.lookup outcome.member.namespaceName (outcome.member.name ++ suffix)

/-- The place of an extension of a member that is there to be inserted or updated. -/
def MemberOutcome.WritesAt (registry : Registry) (outcome : MemberOutcome) (id : TypeId) : Prop :=
  ∃ suffix ∈ Member.suffixes outcome.capabilities.flags
      (registry.primaryKey? outcome.member.entity).isSome,
    suffix ≠ "Select" ∧ outcome.place? registry suffix = some id

namespace Derivation

variable {settings : Settings} {aliases : AliasTable} {navigations : List Navigation}

section Step

variable {state next : Derivation} {node : MemberNode} {outcome : MemberOutcome}
  (h : Derives settings aliases navigations state node outcome next)
  (hDistinct : state.registry.Distinct)

include h hDistinct

/-- An extension of a member is found by its name, behind all that was there before it. -/
theorem Derives.exists_place {entity : Structure}
    (hEntity : outcome.bound.structure? outcome.member.entity = some entity) {suffix : String}
    (hSuffix : suffix ∈ Member.suffixes outcome.capabilities.flags
      (outcome.bound.primaryKey? outcome.member.entity).isSome) :
    ∃ id, outcome.place? next.registry suffix = some id ∧ state.registry.size ≤ id.index ∧
      ∃ s, next.registry.structure? id = some s ∧
        (suffix = "Select" → s.collectionName = entity.collectionName) := by
  obtain ⟨found, hFound, hNext, hNextDistinct, _⟩ := h.exists_entity hDistinct
  obtain rfl : found = entity := Option.some.inj (hFound.symm.trans hEntity)
  have hExtension : ∃ s ∈ outcome.extensions navigations settings.expansions found,
      s.namespaceName = outcome.member.namespaceName ∧ s.name = outcome.member.name ++ suffix ∧
        (suffix = "Select" → s.collectionName = found.collectionName) := by
    simp only [Member.suffixes, List.append_assoc, List.mem_append, List.mem_ite_nil_right,
      List.mem_singleton] at hSuffix
    rcases hSuffix with ⟨hInsertable, rfl⟩ | rfl | ⟨hUpdatable, rfl⟩
    · exact ⟨Member.insertExtension navigations outcome.capabilities outcome.member found,
        by simp [MemberOutcome.extensions, Member.extensions, hInsertable], rfl, rfl,
        fun hSelect => absurd hSelect (by decide)⟩
    · exact ⟨Member.selectExtension navigations settings.expansions outcome.member found,
        by simp [MemberOutcome.extensions, Member.extensions], rfl, rfl, fun _ => rfl⟩
    · exact ⟨Member.updateExtension navigations outcome.capabilities outcome.member found,
        by simp [MemberOutcome.extensions, Member.extensions, hUpdatable], rfl, rfl,
        fun hSelect => absurd hSelect (by decide)⟩
  obtain ⟨s, hMem, hSpace, hName, hSelect⟩ := hExtension
  obtain ⟨i, hPlace⟩ := List.getElem?_of_mem hMem
  have hHere : next.registry.get? ⟨outcome.bound.size + i⟩ = some (.structured s) := by
    rw [hNext, Registry.get?_append_of_le (Nat.le_add_right _ _)]
    simp [hPlace]
  have hKey : (NamedType.structured s).key =
      (outcome.member.namespaceName, outcome.member.name ++ suffix) := by
    rw [← hSpace, ← hName]
    rfl
  exact ⟨_, hNextDistinct.lookup_eq_some_iff.2 ⟨_, hHere, hKey⟩,
    Nat.le_trans h.keeps_bound.size_le (Nat.le_add_right _ _), s,
    Registry.structure?_eq_some.2 hHere, hSelect⟩

/-- What is read of a member is there, with a collection name. -/
theorem Derives.exists_select :
    ∃ id, outcome.place? next.registry "Select" = some id ∧ next.registry.Persists id ∧
      state.registry.size ≤ id.index := by
  obtain ⟨entity, hEntity, _⟩ := h.exists_entity hDistinct
  have hName : entity.isEntity = true := by
    rw [Structure.isEntity, h.collectionName_eq hEntity]
    rfl
  have hSuffix : "Select" ∈ Member.suffixes outcome.capabilities.flags
      (outcome.bound.primaryKey? outcome.member.entity).isSome := by
    simp [Member.suffixes]
  obtain ⟨id, hPlace, hSize, s, hStructure, hSelect⟩ := h.exists_place hDistinct hEntity hSuffix
  refine ⟨id, hPlace, ⟨s, hStructure, ?_⟩, hSize⟩
  rw [Structure.isEntity, hSelect rfl]
  exact hName

/-- Deriving a member gives a collection name to its type and to what is read of it. -/
theorem Derives.persists_iff {id : TypeId} :
    next.registry.Persists id ↔ state.registry.Persists id ∨ outcome.member.entity = id ∨
      outcome.place? next.registry "Select" = some id := by
  obtain ⟨entity, hEntity, hNext, hNextDistinct, _⟩ := h.exists_entity hDistinct
  have hBound : outcome.bound.Persists id ↔
      state.registry.Persists id ∨ outcome.member.entity = id := by
    rw [Registry.persists_of_edit h.bound_eq, Registry.persists_extendFor, eq_comm (a := id)]
  obtain ⟨select, hSelect, hMarked, _⟩ := h.exists_select hDistinct
  rw [← or_assoc, ← hBound]
  constructor
  · intro hPersists
    rw [hNext, Registry.persists_append, ← hNext] at hPersists
    rcases hPersists with hOld | ⟨s, hMem, hMarked, hStructure⟩
    · exact .inl hOld
    · right
      rcases Member.eq_of_mem_extensions hMem with rfl | rfl | rfl
      · cases hMarked
      · exact hNextDistinct.lookup_eq_some_iff.2
          ⟨_, Registry.structure?_eq_some.1 hStructure, rfl⟩
      · cases hMarked
  · rintro (hOld | hFound)
    · rw [hNext]
      exact Registry.persists_append.2 (.inl hOld)
    · rwa [← Option.some.inj (hSelect.symm.trans hFound)]

end Step

section Run

variable {state last : Derivation} {nodes : List MemberNode} {outcomes : List MemberOutcome}
  (h : DerivesAll settings aliases navigations state nodes outcomes last)
  (hDistinct : state.registry.Distinct)

include h hDistinct

/-- Deriving members gives collection names to their types and to what is read of them. -/
theorem DerivesAll.persists_iff {id : TypeId} :
    last.registry.Persists id ↔ state.registry.Persists id ∨ ∃ outcome ∈ outcomes,
      outcome.member.entity = id ∨ outcome.place? last.registry "Select" = some id := by
  induction h with
  | nil state => simp
  | @cons state middle last node nodes outcome outcomes first rest ih =>
      have hMiddle := first.distinct hDistinct
      have hSelect : outcome.place? middle.registry "Select" =
          outcome.place? last.registry "Select" := by
        obtain ⟨_, hPlace, _⟩ := first.exists_select hDistinct
        rw [hPlace]
        exact ((rest.keeps hMiddle).lookup (rest.distinct hMiddle) hPlace).symm
      rw [ih hMiddle, first.persists_iff hDistinct, hSelect, List.exists_mem_cons_iff, or_assoc]

/-- What is read of members is found by their names, each behind what was there at first. -/
theorem DerivesAll.exists_selects :
    ∃ selects : List TypeId,
      List.Forall₂ (fun outcome id => outcome.place? last.registry "Select" = some id)
        outcomes selects ∧
      selects.Nodup ∧ ∀ id ∈ selects, state.registry.size ≤ id.index := by
  induction h with
  | nil state => exact ⟨[], .nil, List.nodup_nil, fun _ hMem => nomatch hMem⟩
  | cons first rest ih =>
      have hMiddle := first.distinct hDistinct
      obtain ⟨selects, hSelects, hNodup, hSizes⟩ := ih hMiddle
      obtain ⟨id, hPlace, hPersists, hSize⟩ := first.exists_select hDistinct
      have hLater := (rest.keeps hMiddle).lookup (rest.distinct hMiddle) hPlace
      refine ⟨id :: selects, .cons hLater hSelects, List.nodup_cons.2 ⟨fun hMem => ?_, hNodup⟩,
        List.forall_mem_cons.2 ⟨hSize, fun other hMem => ?_⟩⟩
      · exact absurd hPersists.lt_size (Nat.not_lt.2 (hSizes id hMem))
      · exact Nat.le_trans (first.keeps hDistinct).size_le (hSizes other hMem)

/-- What is written for members stands behind what was there at first. -/
theorem DerivesAll.size_le_of_writesAt (hSound : state.registry.Sound navigations)
    {outcome : MemberOutcome} (hMem : outcome ∈ outcomes) {id : TypeId}
    (hWrites : outcome.WritesAt last.registry id) : state.registry.size ≤ id.index := by
  induction h with
  | nil state => cases hMem
  | @cons state middle last node nodes head outcomes first rest ih =>
      have hMiddle := first.distinct hDistinct
      rcases List.mem_cons.1 hMem with rfl | hRest
      · obtain ⟨suffix, hSuffix, _, hFound⟩ := hWrites
        obtain ⟨entity, hEntity, hNext, _⟩ := first.exists_entity hDistinct
        have hRetains : outcome.bound.Retains last.registry :=
          (hNext ▸ Registry.retains_append _ _ : outcome.bound.Retains middle.registry).trans
            (rest.retains hMiddle)
        rw [hRetains.primaryKey? (first.bound_sound hSound).base_lt_size
          (Registry.lt_size_of_get? (Registry.structure?_eq_some.1 hEntity))] at hSuffix
        obtain ⟨place, hPlace, hSize, _⟩ := first.exists_place hDistinct hEntity hSuffix
        have hLater := (rest.keeps hMiddle).lookup (rest.distinct hMiddle) hPlace
        rwa [← Option.some.inj (hLater.symm.trans hFound)]
      · exact Nat.le_trans (first.keeps hDistinct).size_le
          (ih hMiddle (first.sound hDistinct hSound).1 hRest hWrites)

end Run

end Derivation

end Csdl
