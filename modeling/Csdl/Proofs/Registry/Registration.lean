import Csdl.Proofs.Registry.Tables

/-! Registrations in a row. Each type is registered under a name that is free by then, so it is found
by that name at its own place, and what was there before is found where it was. -/
namespace Csdl.Registry

/-- Types that are registered one after the other, each under a name that no type before it has. -/
inductive Registers : Registry → List NamedType → Registry → Prop where
  | nil (r : Registry) : Registers r [] r
  | cons {r r' : Registry} {type : NamedType} {types : List NamedType}
      (hFree : r.lookup type.namespaceName type.name = none)
      (rest : Registers (r.push type) types r') : Registers r (type :: types) r'

variable {r r' : Registry} {types : List NamedType}

theorem Registers.eq_append (h : r.Registers types r') : r' = r.append types := by
  induction h with
  | nil r => exact (append_nil r).symm
  | cons _ _ ih => rw [ih, append_cons]

theorem registers_nil : r.Registers [] r' ↔ r' = r := by
  constructor
  · intro h
    cases h
    rfl
  · rintro rfl
    exact .nil r'

/-- One type is registered exactly if its name is free. -/
theorem registers_singleton {type : NamedType} :
    r.Registers [type] r' ↔
      r.lookup type.namespaceName type.name = none ∧ r' = r.push type := by
  constructor
  · intro h
    cases h with
    | cons hFree rest => exact ⟨hFree, registers_nil.1 rest⟩
  · rintro ⟨hFree, rfl⟩
    exact .cons hFree (.nil _)

/-- Types are registered in two groups exactly if they are registered in one row. -/
theorem registers_append {first second : List NamedType} :
    r.Registers (first ++ second) r' ↔
      ∃ middle, r.Registers first middle ∧ middle.Registers second r' := by
  induction first generalizing r with
  | nil => simp [registers_nil]
  | cons type first ih =>
      constructor
      · intro h
        cases h with
        | cons hFree rest =>
            obtain ⟨middle, hFirst, hSecond⟩ := ih.1 rest
            exact ⟨middle, .cons hFree hFirst, hSecond⟩
      · rintro ⟨middle, hFirst, hSecond⟩
        cases hFirst with
        | cons hFree rest => exact .cons hFree (ih.2 ⟨middle, rest, hSecond⟩)

/-- A type that is registered stands behind what was there, in the order of registration. -/
theorem Registers.get? (h : r.Registers types r') {i : Nat} {type : NamedType}
    (hType : types[i]? = some type) : r'.get? ⟨r.size + i⟩ = some type := by
  rw [h.eq_append, get?_append_of_le (Nat.le_add_right _ _), Nat.add_sub_cancel_left, hType]

/-- What was found before is found where it was. -/
theorem Registers.lookup_of_some (h : r.Registers types r') {space name : String} {id : TypeId}
    (hFound : r.lookup space name = some id) : r'.lookup space name = some id := by
  induction h with
  | nil r => exact hFound
  | cons _ _ ih =>
      apply ih
      rw [lookup_push, hFound]
      rfl

/-- A type that is registered is found at its own place, by a name that was free. -/
theorem Registers.lookup (h : r.Registers types r') {i : Nat} {type : NamedType}
    (hType : types[i]? = some type) :
    r.lookup type.namespaceName type.name = none ∧
      r'.lookup type.namespaceName type.name = some ⟨r.size + i⟩ := by
  induction h generalizing i with
  | nil r => simp at hType
  | @cons r r' first types hFree rest ih =>
      cases i with
      | zero =>
          obtain rfl := Option.some.inj hType
          refine ⟨hFree, rest.lookup_of_some ?_⟩
          rw [lookup_push, hFree]
          exact if_pos rfl
      | succ i =>
          obtain ⟨hNone, hPlace⟩ := ih hType
          rw [lookup_push, Option.or_eq_none_iff] at hNone
          rw [size_push] at hPlace
          exact ⟨hNone.1, hPlace.trans (by rw [Nat.add_assoc, Nat.add_comm 1 i])⟩

/-- Among distinct types, registering types is adding types that are distinct from them and from each
other. -/
theorem Distinct.registers_iff (hDistinct : r.Distinct) :
    r.Registers types r' ↔ r' = r.append types ∧ r'.Distinct := by
  induction types generalizing r with
  | nil =>
      rw [registers_nil, append_nil]
      constructor
      · rintro rfl
        exact ⟨rfl, hDistinct⟩
      · exact And.left
  | cons type types ih =>
      rw [append_cons]
      constructor
      · intro h
        cases h with
        | cons hFree rest => exact (ih (hDistinct.push hFree)).1 rest
      · rintro ⟨rfl, hLater⟩
        have hPush : (r.push type).Distinct := (keeps_append _ types).distinct hLater
        exact .cons (hDistinct.push_iff.1 hPush) ((ih hPush).2 ⟨rfl, hLater⟩)

end Csdl.Registry
