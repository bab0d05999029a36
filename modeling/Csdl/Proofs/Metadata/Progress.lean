import Csdl.Proofs.Metadata.Derivation
import Csdl.Proofs.Metadata.Filling
import Csdl.Proofs.Registry.Inheritance

/-! What deriving members keeps. Types stay where they are, and structures stay as they are except
for their collection names; so bases, fields and primary keys are those that the links have left. -/
namespace Csdl

/-- A type without the collection name, the one part of it that members change. -/
def NamedType.lasting : NamedType → NamedType :=
  mapStructure fun s => { s with collectionName := none }

namespace Registry

/-- A later state of a registry in which collection names may differ. -/
def Retains (r r' : Registry) : Prop :=
  ∀ id type, r.get? id = some type → ∃ later, r'.get? id = some later ∧ later.lasting = type.lasting

theorem Retains.refl (r : Registry) : r.Retains r :=
  fun _ type h => ⟨type, h, rfl⟩

theorem Retains.trans {r r' r'' : Registry} (h : r.Retains r') (h' : r'.Retains r'') :
    r.Retains r'' := by
  intro id type hType
  obtain ⟨later, hLater, hSame⟩ := h id type hType
  obtain ⟨last, hLast, hLasting⟩ := h' id later hLater
  exact ⟨last, hLast, hLasting.trans hSame⟩

theorem retains_append (r : Registry) (types : List NamedType) : r.Retains (r.append types) := by
  intro id type hType
  refine ⟨type, ?_, rfl⟩
  rwa [get?_append_of_lt (lt_size_of_get? hType)]

/-- The point record is added behind all else, which stays as it is. -/
theorem retains_withPoint (r : Registry) : r.Retains r.withPoint := by
  rcases r.withPoint_cases with ⟨_, _, _, hEq⟩ | ⟨_, _, hEq⟩
  · rw [hEq]
    exact Retains.refl r
  · rw [hEq, ← append_singleton]
    exact retains_append r _

theorem retains_extendFor (r : Registry) (type : TypeRef) : r.Retains (r.extendFor type) := by
  unfold extendFor
  split
  · exact retains_withPoint r
  · exact Retains.refl r

/-- A collection name that is set leaves all else as it is. -/
theorem retains_of_edit {r r' : Registry} {id : TypeId} {name : String}
    (h : r.edit id (Derivation.nameCollection name) = .ok r') : r.Retains r' := by
  obtain ⟨s, hStructure, hGet⟩ := get?_of_edit h
  intro j type hType
  by_cases hId : j = id
  · rw [hId, structure?_eq_some.1 hStructure, Option.some.injEq] at hType
    exact ⟨_, (hGet j).trans (if_pos hId), hType ▸ rfl⟩
  · exact ⟨type, (hGet j).trans ((if_neg hId).trans hType), rfl⟩

theorem Retains.size_le {r r' : Registry} (h : r.Retains r') : r.size ≤ r'.size := by
  by_contra hLt
  obtain ⟨type, hType⟩ := exists_get?_of_lt (Nat.lt_of_not_le hLt)
  obtain ⟨later, hLater, _⟩ := h _ type hType
  exact absurd (lt_size_of_get? hLater) (Nat.lt_irrefl _)

/-- A structure stays what it is except for its collection name. -/
theorem Retains.structure? {r r' : Registry} (h : r.Retains r') {id : TypeId} {s : Structure}
    (hStructure : r.structure? id = some s) :
    ∃ name, r'.structure? id = some { s with collectionName := name } := by
  obtain ⟨later, hLater, hLasting⟩ := h id _ (structure?_eq_some.1 hStructure)
  cases later with
  | enumeration value => cases hLasting
  | structured later =>
      refine ⟨later.collectionName, structure?_eq_some.2 ?_⟩
      rw [hLater, Option.some.injEq, NamedType.structured.injEq]
      simp only [NamedType.lasting, NamedType.mapStructure, NamedType.structured.injEq,
        Structure.mk.injEq] at hLasting
      cases later
      cases s
      simp only [Structure.mk.injEq]
      exact ⟨hLasting.1, hLasting.2.1, hLasting.2.2.1, hLasting.2.2.2.1, trivial,
        hLasting.2.2.2.2.2⟩

/-- A place that holds no structure keeps what it holds. -/
theorem Retains.structure?_eq_none {r r' : Registry} (h : r.Retains r') {id : TypeId}
    (hSize : id.index < r.size) (hNone : r.structure? id = none) : r'.structure? id = none := by
  obtain ⟨type, hType⟩ := exists_get?_of_lt hSize
  obtain ⟨later, hLater, hLasting⟩ := h id type hType
  cases type with
  | structured s => rw [structure?_eq_some.2 hType] at hNone; cases hNone
  | enumeration value =>
      cases later with
      | structured later => cases hLasting
      | enumeration later => rw [Registry.structure?, hLater]; rfl

/-- A structure of a later state is new, or it was there and may have had another collection name. -/
theorem Retains.structure?_cases {r r' : Registry} (h : r.Retains r') {id : TypeId} {s : Structure}
    (hStructure : r'.structure? id = some s) :
    r.size ≤ id.index ∨
      ∃ old name, r.structure? id = some old ∧ s = { old with collectionName := name } := by
  refine or_iff_not_imp_left.2 fun hSize => ?_
  cases hOld : r.structure? id with
  | none =>
      rw [h.structure?_eq_none (Nat.lt_of_not_le hSize) hOld] at hStructure
      cases hStructure
  | some old =>
      obtain ⟨name, hLater⟩ := h.structure? hOld
      exact ⟨old, name, rfl, Option.some.inj (hStructure.symm.trans hLater)⟩

/-- A structure that is new with the point record is the point record. -/
theorem eq_pointRecord_of_withPoint {r : Registry} {id : TypeId} {s : Structure}
    (hSize : r.size ≤ id.index) (h : r.withPoint.structure? id = some s) : s = pointRecord := by
  rw [structure?_eq_some] at h
  rcases r.withPoint_cases with ⟨_, _, _, hEq⟩ | ⟨_, _, hEq⟩
  · rw [hEq] at h
    exact absurd hSize (Nat.not_le.2 (lt_size_of_get? h))
  · rw [hEq, get?_push] at h
    split at h
    · exact (NamedType.structured.inj (Option.some.inj h)).symm
    · exact absurd hSize (Nat.not_le.2 (lt_size_of_get? h))

/-- What a structure says about keys and bases stays as it is. -/
theorem Retains.keyPart {r r' : Registry} (h : r.Retains r') (id : TypeId)
    (hSize : id.index < r.size) :
    (r'.structure? id).map Structure.keyPart = (r.structure? id).map Structure.keyPart := by
  cases hStructure : r.structure? id with
  | none => rw [h.structure?_eq_none hSize hStructure]
  | some s =>
      obtain ⟨name, hLater⟩ := h.structure? hStructure
      rw [hLater]
      rfl

/-- Primary keys last, if the bases are registered. -/
theorem Retains.primaryKey? {r r' : Registry} (h : r.Retains r')
    (hBases : ∀ id s base, r.structure? id = some s → s.base = some base → base.index < r.size)
    {id : TypeId} (hId : id.index < r.size) : r'.primaryKey? id = r.primaryKey? id :=
  primaryKey?_eq_of_keyPart h.size_le hBases h.keyPart hId

end Registry

/-- The extensions of an entity type that an outcome has registered. -/
def MemberOutcome.extensions (navigations : List Navigation) (expansions : List Expansion)
    (outcome : MemberOutcome) (entity : Structure) : List Structure :=
  Member.extensions navigations expansions outcome.capabilities outcome.member entity
    (outcome.bound.primaryKey? outcome.member.entity)

namespace Derivation

section Step

variable {settings : Settings} {aliases : AliasTable} {navigations : List Navigation}
  {state next : Derivation} {node : MemberNode} {outcome : MemberOutcome}

theorem Derives.outline_bound (h : Derives settings aliases navigations state node outcome next) :
    outcome.bound.outline = (state.registry.extendFor (.named outcome.member.entity)).outline :=
  Registry.outline_of_edit h.bound_eq fun _ => rfl

theorem Derives.keeps_bound (h : Derives settings aliases navigations state node outcome next) :
    state.registry.Keeps outcome.bound :=
  (Registry.keeps_extendFor _ _).trans (.of_outline_eq h.outline_bound)

theorem Derives.retains_bound (h : Derives settings aliases navigations state node outcome next) :
    state.registry.Retains outcome.bound :=
  (Registry.retains_extendFor _ _).trans (Registry.retains_of_edit h.bound_eq)

/-- The type of a member has the name of the member when its extensions are made. -/
theorem Derives.collectionName_eq
    (h : Derives settings aliases navigations state node outcome next) {entity : Structure}
    (hEntity : outcome.bound.structure? outcome.member.entity = some entity) :
    entity.collectionName = some outcome.member.name := by
  obtain ⟨_, _, hGet⟩ := Registry.get?_of_edit h.bound_eq
  have hHere := Registry.structure?_eq_some.1 hEntity
  rw [hGet, if_pos rfl, Option.some.injEq, NamedType.structured.injEq] at hHere
  exact hHere ▸ rfl

theorem Derives.distinct_bound (h : Derives settings aliases navigations state node outcome next)
    (hDistinct : state.registry.Distinct) : outcome.bound.Distinct := by
  apply Registry.distinct_iff_nodup.2
  rw [h.outline_bound]
  exact Registry.distinct_iff_nodup.1 (hDistinct.extendFor _)

/-- Deriving a member registers the extensions of the type it is bound to. -/
theorem Derives.exists_entity (h : Derives settings aliases navigations state node outcome next)
    (hDistinct : state.registry.Distinct) :
    ∃ entity, outcome.bound.structure? outcome.member.entity = some entity ∧
      next.registry = outcome.bound.append
        ((outcome.extensions navigations settings.expansions entity).map .structured) ∧
      next.registry.Distinct ∧
      outcome.functions = outcome.member.functionsAt outcome.capabilities.flags
        (outcome.bound.primaryKey? outcome.member.entity) outcome.bound.size :=
  (Member.generate_eq_ok (h.distinct_bound hDistinct)).1 h.generated

/-- A structure that is new behind a member is an extension of the type it is bound to. -/
theorem Derives.mem_extensions (h : Derives settings aliases navigations state node outcome next)
    (hDistinct : state.registry.Distinct) {entity : Structure}
    (hEntity : outcome.bound.structure? outcome.member.entity = some entity) {id : TypeId}
    {s : Structure} (hSize : outcome.bound.size ≤ id.index)
    (hNew : next.registry.structure? id = some s) :
    s ∈ outcome.extensions navigations settings.expansions entity := by
  obtain ⟨found, hFound, hNext, _⟩ := h.exists_entity hDistinct
  obtain rfl := Option.some.inj (hFound.symm.trans hEntity)
  rw [Registry.structure?_eq_some, hNext, Registry.get?_append_of_le hSize] at hNew
  obtain ⟨extension, hExtension, hEq⟩ := List.mem_map.1 (List.mem_of_getElem? hNew)
  exact NamedType.structured.inj hEq ▸ hExtension

/-- A member changes nothing of what is there but a collection name. -/
theorem Derives.retains (h : Derives settings aliases navigations state node outcome next)
    (hDistinct : state.registry.Distinct) : state.registry.Retains next.registry := by
  obtain ⟨entity, _, hNext, _⟩ := h.exists_entity hDistinct
  rw [hNext]
  exact h.retains_bound.trans (Registry.retains_append _ _)

theorem Derives.keeps (h : Derives settings aliases navigations state node outcome next)
    (hDistinct : state.registry.Distinct) : state.registry.Keeps next.registry := by
  obtain ⟨entity, _, hNext, _⟩ := h.exists_entity hDistinct
  rw [hNext]
  exact h.keeps_bound.trans (Registry.keeps_append _ _)

/-- Names stay distinct while a member is derived. -/
theorem Derives.distinct (h : Derives settings aliases navigations state node outcome next)
    (hDistinct : state.registry.Distinct) : next.registry.Distinct := by
  obtain ⟨_, _, _, hNext, _⟩ := h.exists_entity hDistinct
  exact hNext

end Step

section Run

variable {settings : Settings} {aliases : AliasTable} {navigations : List Navigation}
  {state last : Derivation} {nodes : List MemberNode} {outcomes : List MemberOutcome}

/-- Names stay distinct while all members are derived. -/
theorem DerivesAll.distinct
    (h : DerivesAll settings aliases navigations state nodes outcomes last)
    (hDistinct : state.registry.Distinct) : last.registry.Distinct := by
  induction h with
  | nil state => exact hDistinct
  | cons first rest ih => exact ih (first.distinct hDistinct)

/-- Members change nothing of what is there but collection names. -/
theorem DerivesAll.retains
    (h : DerivesAll settings aliases navigations state nodes outcomes last)
    (hDistinct : state.registry.Distinct) : state.registry.Retains last.registry := by
  induction h with
  | nil state => exact Registry.Retains.refl _
  | cons first rest ih =>
      exact (first.retains hDistinct).trans (ih (first.distinct hDistinct))

/-- Types stay at their places while all members are derived. -/
theorem DerivesAll.keeps
    (h : DerivesAll settings aliases navigations state nodes outcomes last)
    (hDistinct : state.registry.Distinct) : state.registry.Keeps last.registry := by
  induction h with
  | nil state => exact Registry.Keeps.refl _
  | cons first rest ih =>
      exact (first.keeps hDistinct).trans (ih (first.distinct hDistinct))

end Run

end Derivation

end Csdl
