import Csdl.Proofs.Metadata.Integrity
import Csdl.Proofs.Renaming.Content
import Csdl.Proofs.Renaming.Members

/-! Renamings one after the other, and renamings that leave alone whatever refers to the types of a
registry. -/
namespace Csdl

section Composition

variable (σ τ : Equiv.Perm TypeId)

theorem TypeRef.rename_trans (type : TypeRef) :
    type.rename (σ.trans τ) = (type.rename σ).rename τ := by
  cases type <;> rfl

theorem Field.rename_trans (field : Field) :
    field.rename (σ.trans τ) = (field.rename σ).rename τ := by
  simp only [rename, TypeRef.rename_trans]

theorem Structure.rename_trans (s : Structure) :
    s.rename (σ.trans τ) = (s.rename σ).rename τ := by
  simp only [rename, Option.map_map, List.map_map, Equiv.coe_trans]
  congr 2
  funext field
  exact Field.rename_trans σ τ field

theorem NamedType.rename_trans (type : NamedType) :
    type.rename (σ.trans τ) = (type.rename σ).rename τ := by
  cases type with
  | enumeration value => rfl
  | structured s => exact congrArg structured (s.rename_trans σ τ)

theorem Field.rename_refl (field : Field) : field.rename (Equiv.refl TypeId) = field := by
  cases field with
  | mk name type => cases type <;> rfl

theorem Structure.rename_refl (s : Structure) : s.rename (Equiv.refl TypeId) = s := by
  have hFields : s.fields.map (Field.rename (Equiv.refl TypeId)) = s.fields :=
    (List.map_congr_left fun field _ => field.rename_refl).trans (List.map_id _)
  have hBase : s.base.map (Equiv.refl TypeId) = s.base := by
    cases s.base <;> rfl
  rw [rename, hFields, hBase]

theorem NamedType.rename_refl (type : NamedType) : type.rename (Equiv.refl TypeId) = type := by
  cases type with
  | enumeration value => rfl
  | structured s => exact congrArg structured s.rename_refl

theorem ServiceFunction.rename_trans (f : ServiceFunction) :
    f.rename (σ.trans τ) = (f.rename σ).rename τ := by
  simp only [rename, Structure.rename_trans]

/-- Places that stay as they are leave what a member makes as it is. -/
theorem renameMade_refl (made : Member × List ServiceFunction) :
    renameMade (Equiv.refl TypeId) made = made := by
  have hFunctions : made.2.map (ServiceFunction.rename (Equiv.refl TypeId)) = made.2 := by
    refine (List.map_congr_left fun f _ => ?_).trans (List.map_id _)
    rw [ServiceFunction.rename, Structure.rename_refl, Structure.rename_refl]
    rfl
  rw [renameMade, hFunctions]
  rfl

/-- What a member makes is renamed twice as by both renamings together. -/
theorem renameMade_trans (made : Member × List ServiceFunction) :
    renameMade (σ.trans τ) made = renameMade τ (renameMade σ made) := by
  have hEach : ServiceFunction.rename (σ.trans τ) =
      ServiceFunction.rename τ ∘ ServiceFunction.rename σ :=
    funext fun f => f.rename_trans σ τ
  simp only [renameMade, List.map_map, hEach]
  rfl

/-- A renaming of what has been made can be undone. -/
theorem map_renameMade_symm {made made' : List (Member × List ServiceFunction)}
    (h : made' = made.map (renameMade σ.symm)) : made = made'.map (renameMade σ) := by
  rw [h, List.map_map]
  refine (List.map_id _).symm.trans (List.map_congr_left fun part _ => ?_)
  rw [Function.comp_apply, ← renameMade_trans, Equiv.symm_trans_self, renameMade_refl]
  rfl

end Composition

/-- A renaming that leaves all types of a registry in their places. -/
def Registry.FixedBy (σ : Equiv.Perm TypeId) (r : Registry) : Prop :=
  ∀ id : TypeId, id.index < r.size → σ id = id

section Fixed

variable {σ : Equiv.Perm TypeId} {r : Registry} {navigations : List Navigation}

theorem Registry.FixedBy.of_size_le {r' : Registry} (h : r'.FixedBy σ) (hSize : r.size ≤ r'.size) :
    r.FixedBy σ :=
  fun id hLt => h id (Nat.lt_of_lt_of_le hLt hSize)

/-- Two renamings that leave the places of a registry leave them together. -/
theorem Registry.FixedBy.trans {τ : Equiv.Perm TypeId} (h : r.FixedBy σ) (h' : r.FixedBy τ) :
    r.FixedBy (σ.trans τ) := by
  intro id hLt
  rw [Equiv.trans_apply, h id hLt, h' id hLt]

theorem Registry.FixedBy.symm (h : r.FixedBy σ) : r.FixedBy σ.symm :=
  fun id hLt => σ.symm_apply_eq.2 (h id hLt).symm

/-- A renaming that leaves the places of a registry leaves each type that is valid in it. -/
theorem TypeRef.ValidIn.rename_eq {type : TypeRef} (h : type.ValidIn r) (hFixed : r.FixedBy σ) :
    type.rename σ = type := by
  cases type with
  | primitive kind => rfl
  | named id => exact congrArg named (hFixed id (h id rfl))

theorem Field.rename_eq {field : Field} (h : field.type.ValidIn r) (hFixed : r.FixedBy σ) :
    field.rename σ = field := by
  rw [rename, h.rename_eq hFixed]

/-- A structure that is sound among types that stay in their places stays what it is. -/
theorem Structure.SoundIn.rename_eq {s : Structure} {id : TypeId}
    (h : s.SoundIn r navigations id) (hFixed : r.FixedBy σ) : s.rename σ = s := by
  have hFields : s.fields.map (Field.rename σ) = s.fields :=
    (List.map_congr_left fun field hField =>
      field.rename_eq (h.types_valid field hField) hFixed).trans (List.map_id _)
  have hBase : s.base.map σ = s.base := by
    cases hSome : s.base with
    | none => rfl
    | some base =>
        obtain ⟨t, hStructure⟩ := Option.isSome_iff_exists.1 (h.base_structured base hSome)
        have hLt := Registry.lt_size_of_get? (Registry.structure?_eq_some.1 hStructure)
        exact congrArg some (hFixed base hLt)
  rw [rename, hFields, hBase]

/-- A renaming that leaves the places of a sound registry leaves all types in it, since they refer
to nothing else. -/
theorem Registry.Sound.rename_eq (h : r.Sound navigations) (hFixed : r.FixedBy σ) {id : TypeId}
    {type : NamedType} (hType : r.get? id = some type) : type.rename σ = type := by
  cases type with
  | enumeration value => rfl
  | structured s =>
      exact congrArg NamedType.structured
        ((h.structures id s (structure?_eq_some.2 hType)).rename_eq hFixed)

/-- Navigations between types that stay in their places stay the same for each owner. -/
theorem sameNavigations_of_fixed (hFixed : r.FixedBy σ)
    (hOwners : ∀ n ∈ navigations, n.owner.index < r.size)
    (hSame : ∀ n ∈ navigations, n.rename σ = n) : SameNavigations σ navigations navigations := by
  intro id
  have hMap : (ownNavigations navigations id).map (Navigation.rename σ) =
      ownNavigations navigations id :=
    (List.map_congr_left fun n hn => hSame n (List.mem_filter.1 hn).1).trans (List.map_id _)
  rw [hMap]
  refine List.filter_congr fun n hn => decide_eq_decide.2 ?_
  constructor
  · intro hOwner
    exact σ.injective ((hFixed _ (hOwners n hn)).trans hOwner)
  · intro hOwner
    rw [← hOwner, hFixed _ (hOwners n hn)]

end Fixed

namespace Registry.Renamed

variable {σ τ : Equiv.Perm TypeId} {r r' r'' : Registry}

/-- A registry is renamed to itself. -/
theorem refl (r : Registry) : Renamed (Equiv.refl TypeId) r r where
  size_eq := rfl
  fixed _ _ := rfl
  get?_eq id := by
    rw [Equiv.refl_apply]
    cases r.get? id with
    | none => rfl
    | some type => exact congrArg some type.rename_refl.symm

/-- Renamings of a registry can be made one after the other. -/
theorem trans (h : Renamed σ r r') (h' : Renamed τ r' r'') : Renamed (σ.trans τ) r r'' where
  size_eq := h'.size_eq.trans h.size_eq
  fixed id hSize := by
    rw [Equiv.trans_apply, h.fixed id hSize, h'.fixed id (h.size_eq.symm ▸ hSize)]
  get?_eq id := by
    rw [Equiv.trans_apply, h'.get?_eq, h.get?_eq, Option.map_map]
    exact congrFun (congrArg Option.map (funext fun type => (type.rename_trans σ τ).symm)) _

/-- A renaming can be taken back. -/
theorem symm (h : Renamed σ r r') : Renamed σ.symm r' r where
  size_eq := h.size_eq.symm
  fixed id hSize := σ.symm_apply_eq.2 (h.fixed id (h.size_eq ▸ hSize)).symm
  get?_eq id := by
    have hUndo : ∀ type : NamedType, (type.rename σ).rename σ.symm = type := by
      intro type
      rw [← NamedType.rename_trans, Equiv.self_trans_symm]
      exact type.rename_refl
    have hHere := h.get?_eq (σ.symm id)
    rw [Equiv.apply_symm_apply] at hHere
    rw [hHere, Option.map_map]
    cases r.get? (σ.symm id) with
    | none => rfl
    | some type => exact congrArg some (hUndo type).symm

end Registry.Renamed

/-- What has been made for a member does not change with places behind the next registry. -/
theorem Derivation.Derives.renameMade_eq {σ : Equiv.Perm TypeId} {settings : Settings}
    {aliases : AliasTable} {navigations : List Navigation} {state next : Derivation}
    {node : MemberNode} {outcome : MemberOutcome}
    (h : Derives settings aliases navigations state node outcome next)
    (hDistinct : state.registry.Distinct) (hSound : state.registry.Sound navigations)
    (hFixed : next.registry.FixedBy σ) : renameMade σ outcome.made = outcome.made := by
  obtain ⟨entity, hEntity, hNext, _, hFunctions⟩ := h.exists_entity hDistinct
  have hBound : outcome.bound.FixedBy σ :=
    hFixed.of_size_le (hNext ▸ (Registry.keeps_append _ _).size_le)
  have hMember : outcome.member.rename σ = outcome.member := by
    have hLt := Registry.lt_size_of_get? (Registry.structure?_eq_some.1 hEntity)
    rw [Member.rename, hBound _ hLt]
  have hKey : (outcome.bound.primaryKey? outcome.member.entity).map (Field.rename σ) =
      outcome.bound.primaryKey? outcome.member.entity := by
    cases hKey : outcome.bound.primaryKey? outcome.member.entity with
    | none => rfl
    | some key =>
        exact congrArg some
          (key.rename_eq ((h.bound_sound hSound).primaryKey_valid hKey) hBound)
  have hAll : (outcome.member.rename σ).functionsAt outcome.capabilities.flags
      ((outcome.bound.primaryKey? outcome.member.entity).map (Field.rename σ)) outcome.bound.size =
        outcome.functions.map (ServiceFunction.rename σ) := by
    rw [hFunctions]
    refine Member.functionsAt_rename σ _ _ _ fun i hi => hFixed _ ?_
    rw [hNext, Registry.size_append, List.length_map, MemberOutcome.extensions,
      Member.length_extensions]
    exact Nat.add_lt_add_left hi _
  rw [hMember, hKey, ← hFunctions] at hAll
  rw [renameMade, MemberOutcome.made, hMember, ← hAll]

namespace Metadata.Typing

variable {settings : Settings} (typing : Typing settings)

/-- The owner of a navigation is at a place of the linked registry. -/
theorem owner_lt_size {n : Navigation} (hn : n ∈ Content.navigations typing.contents) :
    n.owner.index < typing.linked.size := by
  obtain ⟨s, hOwner, _⟩ := (typing.linked_sound.navigations n hn).owner_structured
  exact Registry.lt_size_of_get? (Registry.structure?_eq_some.1 hOwner)

/-- Navigations are between types that are there before the members. -/
theorem navigation_rename_eq {σ : Equiv.Perm TypeId} (hFixed : typing.linked.FixedBy σ)
    {n : Navigation} (hn : n ∈ Content.navigations typing.contents) : n.rename σ = n := by
  have hField := n.field.rename_eq (typing.linked_sound.navigations n hn).type_valid hFixed
  have hOwner := hFixed _ (typing.owner_lt_size hn)
  obtain ⟨content, hContent, relation, hRelation, rfl⟩ := Content.mem_navigations.1 hn
  obtain ⟨node, field, id, target, constraints, _, _, rfl, _⟩ :=
    typing.exists_target hContent hRelation
  simp only [Content.declaredRelation] at hField hOwner ⊢
  rw [Navigation.rename, hField, hOwner, Content.mappingOf_rename]

/-- Renamings that leave alone the types before the members leave alone all navigations. -/
theorem sameNavigations {σ : Equiv.Perm TypeId} (hFixed : typing.linked.FixedBy σ) :
    SameNavigations σ (Content.navigations typing.contents)
      (Content.navigations typing.contents) :=
  sameNavigations_of_fixed hFixed (fun _ => typing.owner_lt_size)
    fun _ => typing.navigation_rename_eq hFixed

end Metadata.Typing

end Csdl
