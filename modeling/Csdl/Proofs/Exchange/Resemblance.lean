import Csdl.Proofs.Exchange.Recollection
import Csdl.Proofs.Renaming.Composition

/-! Registries that differ in the places of their types and in some collection names. This is what
is left of the order in which members are derived. -/
namespace Csdl

theorem NamedType.lasting_rename (σ : Equiv.Perm TypeId) (type : NamedType) :
    (type.rename σ).lasting = type.lasting.rename σ := by
  cases type <;> rfl

namespace Registry

/-- Two registries of the same types, each at its renamed place in the second, where the types at
some places may have other collection names. -/
structure Resembles (σ : Equiv.Perm TypeId) (Differs : TypeId → Prop) (r r' : Registry) :
    Prop where
  size_eq : r'.size = r.size
  fixed : ∀ id, r.size ≤ id.index → σ id = id
  lasting_eq : ∀ id, (r'.get? (σ id)).map NamedType.lasting =
    (r.get? id).map fun type => type.lasting.rename σ
  get?_eq : ∀ id, ¬ Differs id → r'.get? (σ id) = (r.get? id).map (NamedType.rename σ)

variable {σ τ : Equiv.Perm TypeId} {Differs Differs' : TypeId → Prop} {r r' r'' : Registry}

theorem Renamed.resembles (h : r.Renamed σ r') : r.Resembles σ Differs r' where
  size_eq := h.size_eq
  fixed := h.fixed
  lasting_eq id := by
    rw [h.get?_eq, Option.map_map]
    exact congrFun (congrArg Option.map (funext fun type => type.lasting_rename σ)) _
  get?_eq id _ := h.get?_eq id

namespace Resembles

theorem imp (h : r.Resembles σ Differs r') (hDiffers : ∀ id, Differs id → Differs' id) :
    r.Resembles σ Differs' r' where
  size_eq := h.size_eq
  fixed := h.fixed
  lasting_eq := h.lasting_eq
  get?_eq id hSame := h.get?_eq id fun hId => hSame (hDiffers id hId)

/-- Other collection names, where they may differ, leave registries alike. -/
theorem recollect (h : r.Resembles σ Differs r')
    (h' : r'.Recollected (fun id => Differs (σ.symm id)) r'') : r.Resembles σ Differs r'' where
  size_eq := (size_eq_of_outline_eq h'.outline_eq).trans h.size_eq
  fixed := h.fixed
  lasting_eq id := (h'.lasting_eq _).trans (h.lasting_eq id)
  get?_eq id hSame := by
    rw [h'.get?_eq, h.get?_eq id hSame]
    rwa [Equiv.symm_apply_apply]

/-- Registries that are alike one after the other are alike, with one renaming behind the other. -/
theorem trans (h : r.Resembles σ Differs r')
    (h' : r'.Resembles τ (fun id => Differs (σ.symm id)) r'') :
    r.Resembles (σ.trans τ) Differs r'' where
  size_eq := h'.size_eq.trans h.size_eq
  fixed id hSize := by
    rw [Equiv.trans_apply, h.fixed id hSize, h'.fixed id (h.size_eq.symm ▸ hSize)]
  lasting_eq id := by
    have hLater : ∀ type : Option NamedType, (type.map fun t => t.lasting.rename τ) =
        (type.map NamedType.lasting).map (NamedType.rename τ) := fun type =>
      (Option.map_map ..).symm
    rw [Equiv.trans_apply, h'.lasting_eq, hLater, h.lasting_eq, Option.map_map]
    exact congrFun (congrArg Option.map
      (funext fun type => (type.lasting.rename_trans σ τ).symm)) _
  get?_eq id hSame := by
    rw [Equiv.trans_apply, h'.get?_eq, h.get?_eq id hSame, Option.map_map]
    · exact congrFun (congrArg Option.map (funext fun type => (type.rename_trans σ τ).symm)) _
    · rwa [Equiv.symm_apply_apply]

/-- Types of the same names are at renamed places. -/
theorem map_key_eq (h : r.Resembles σ Differs r') (id : TypeId) :
    (r'.get? (σ id)).map NamedType.key = (r.get? id).map NamedType.key := by
  have hKey : ∀ type : NamedType, type.lasting.key = type.key := fun type => by
    cases type <;> rfl
  have hSame := congrArg (Option.map NamedType.key) (h.lasting_eq id)
  simpa only [Option.map_map, Function.comp_def, hKey, NamedType.key_rename] using hSame

/-- Names lead to renamed places in a registry that is alike, since collection names play no part in
it. -/
theorem lookup_eq (h : r.Resembles σ Differs r') (hDistinct : r.Distinct)
    (hDistinct' : r'.Distinct) (namespaceName name : String) :
    r'.lookup namespaceName name = (r.lookup namespaceName name).map σ := by
  have hFound : ∀ id, r'.lookup namespaceName name = some (σ id) ↔
      r.lookup namespaceName name = some id := by
    intro id
    have hKeys := h.map_key_eq id
    rw [hDistinct.lookup_eq_some_iff, hDistinct'.lookup_eq_some_iff]
    simp only [← Option.map_eq_some_iff, hKeys]
  cases hHere : r.lookup namespaceName name with
  | some id => exact (hFound id).2 hHere
  | none =>
      cases hThere : r'.lookup namespaceName name with
      | none => rfl
      | some id =>
          rw [← σ.apply_symm_apply id, hFound, hHere] at hThere
          cases hThere

end Resembles

end Registry

/-- How many members are bound to the type at a place. -/
def boundTimes (outcomes : List MemberOutcome) (id : TypeId) : Nat :=
  (outcomes.map (·.member.entity)).count id

/-- A type is bound as often as its renamed place is, in whatever order members are taken. -/
theorem boundTimes_eq_of_perm {σ : Equiv.Perm TypeId} {outcomes outcomes' : List MemberOutcome}
    (h : (outcomes'.map MemberOutcome.made).Perm
      ((outcomes.map MemberOutcome.made).map (renameMade σ))) (id : TypeId) :
    boundTimes outcomes' (σ id) = boundTimes outcomes id := by
  have hEntities := (h.map fun made => made.1.entity).count_eq (σ id)
  rw [List.map_map, List.map_map, List.map_map] at hEntities
  have hRenamed : outcomes.map ((fun made => made.1.entity) ∘ renameMade σ ∘ MemberOutcome.made) =
      (outcomes.map (·.member.entity)).map σ := by
    rw [List.map_map]
    rfl
  have hCount := List.count_map_of_injective (outcomes.map (·.member.entity)) σ σ.injective id
  rw [boundTimes, boundTimes, ← hCount, ← hRenamed]
  exact hEntities

end Csdl
