import Csdl.Types.Reference
import Csdl.Proofs.Outcome

/-! Places and names in a registry. A type keeps its place for good, and no two types share
namespace and name, so a name leads to the one place that holds a type of that name. -/
namespace Csdl

open Query (bind_eq_ok)

namespace NamedType

/-- The namespace and the name of a type, by which it is looked up. -/
def key (type : NamedType) : String × String :=
  (type.namespaceName, type.name)

/-- What registration fixes of a type: all of an enumeration, and the names and the id of a
structure. -/
def outline : NamedType → NamedType
  | enumeration value => .enumeration value
  | structured value =>
    .structured { namespaceName := value.namespaceName, name := value.name, id := value.id }

theorem key_outline (type : NamedType) : type.outline.key = type.key := by
  cases type <;> rfl

theorem hasName_iff {type : NamedType} {namespaceName name : String} :
    type.hasName namespaceName name = true ↔ type.key = (namespaceName, name) := by
  simp [hasName, key, and_comm]

end NamedType

namespace Registry

/-- Two types of a registry never share namespace and name. -/
def Distinct (r : Registry) : Prop :=
  ∀ i j s t, r.get? i = some s → r.get? j = some t → s.key = t.key → i = j

/-- What registration fixed of all types, in their order. -/
def outline (r : Registry) : List NamedType :=
  r.types.toList.map NamedType.outline

/-- The registry with more types at its end. -/
def append (r : Registry) (types : List NamedType) : Registry :=
  ⟨r.types ++ types.toArray⟩

theorem get?_eq_getElem? (r : Registry) (id : TypeId) :
    r.get? id = r.types.toList[id.index]? := by
  simp [get?]

theorem get?_eq_none_iff {r : Registry} {id : TypeId} :
    r.get? id = none ↔ r.size ≤ id.index := by
  simp [get?, size]

/-- A type is only at a place of the registry. -/
theorem lt_size_of_get? {r : Registry} {id : TypeId} {type : NamedType}
    (h : r.get? id = some type) : id.index < r.size := by
  by_contra hSize
  rw [get?_eq_none_iff.2 (Nat.le_of_not_lt hSize)] at h
  cases h

theorem exists_get?_of_lt {r : Registry} {i : Nat} (h : i < r.size) :
    ∃ type, r.get? ⟨i⟩ = some type :=
  ⟨r.types[i], Array.getElem?_eq_getElem h⟩

/-- A structure is at a place exactly if the type at it is this structure. -/
theorem structure?_eq_some {r : Registry} {id : TypeId} {s : Structure} :
    r.structure? id = some s ↔ r.get? id = some (.structured s) := by
  cases h : r.get? id with
  | none => simp [structure?, h]
  | some type => cases type <;> simp [structure?, h, NamedType.structure?]

@[simp]
theorem get?_empty (id : TypeId) : ({} : Registry).get? id = none := rfl

@[simp]
theorem size_empty : ({} : Registry).size = 0 := rfl

/-- One more type is at the next place, and all others stay at theirs. -/
theorem get?_push (r : Registry) (type : NamedType) (id : TypeId) :
    (r.push type).get? id = if id = r.nextId then some type else r.get? id := by
  obtain ⟨i⟩ := id
  simp only [get?, push, Array.getElem?_push, nextId, size, TypeId.mk.injEq]

@[simp]
theorem append_nil (r : Registry) : r.append [] = r := by
  simp [append]

theorem append_cons (r : Registry) (type : NamedType) (types : List NamedType) :
    r.append (type :: types) = (r.push type).append types := by
  simp [append, push]

theorem append_append (r : Registry) (first second : List NamedType) :
    (r.append first).append second = r.append (first ++ second) := by
  simp [append]

theorem append_singleton (r : Registry) (type : NamedType) : r.append [type] = r.push type := by
  simp [append, push]

@[simp]
theorem size_append (r : Registry) (types : List NamedType) :
    (r.append types).size = r.size + types.length := by
  simp [append, size]

/-- Further types leave the earlier ones at their places. -/
theorem get?_append_of_lt {r : Registry} {types : List NamedType} {id : TypeId}
    (h : id.index < r.size) : (r.append types).get? id = r.get? id := by
  simp only [get?_eq_getElem?, append, Array.toList_append]
  exact List.getElem?_append_left h

/-- Further types are at the next places, in their order. -/
theorem get?_append_of_le {r : Registry} {types : List NamedType} {id : TypeId}
    (h : r.size ≤ id.index) : (r.append types).get? id = types[id.index - r.size]? := by
  simp only [get?_eq_getElem?, append, Array.toList_append]
  exact List.getElem?_append_right h

theorem outline_append (r : Registry) (types : List NamedType) :
    (r.append types).outline = r.outline ++ types.map NamedType.outline := by
  simp [outline, append]

theorem outline_push (r : Registry) (type : NamedType) :
    (r.push type).outline = r.outline ++ [type.outline] := by
  simp [outline, push]

/-- A name leads to a type that has it. -/
theorem get?_of_lookup {r : Registry} {namespaceName name : String} {id : TypeId}
    (h : r.lookup namespaceName name = some id) :
    ∃ type, r.get? id = some type ∧ type.key = (namespaceName, name) := by
  obtain ⟨i, hFound, rfl⟩ := Option.map_eq_some_iff.1 h
  obtain ⟨hSize, hName, _⟩ := Array.findIdx?_eq_some_iff_getElem.1 hFound
  exact ⟨r.types[i], Array.getElem?_eq_getElem hSize, NamedType.hasName_iff.1 hName⟩

/-- A place is found by one name only. -/
theorem key_unique {r : Registry} {space space' name name' : String} {id : TypeId}
    (h : r.lookup space name = some id) (h' : r.lookup space' name' = some id) :
    (space, name) = (space', name') := by
  obtain ⟨_, hType, hKey⟩ := get?_of_lookup h
  obtain ⟨_, hSame, hKey'⟩ := get?_of_lookup h'
  rw [hType, Option.some.injEq] at hSame
  exact hKey.symm.trans ((congrArg NamedType.key hSame).trans hKey')

/-- No place is found for a name exactly if no type has it. -/
theorem lookup_eq_none_iff {r : Registry} {namespaceName name : String} :
    r.lookup namespaceName name = none ↔
      ∀ id type, r.get? id = some type → type.key ≠ (namespaceName, name) := by
  rw [lookup, Option.map_eq_none_iff, Array.findIdx?_eq_none_iff]
  constructor
  · intro h id type hType hKey
    have hMem : type ∈ r.types := Array.mem_of_getElem? hType
    exact absurd (NamedType.hasName_iff.2 hKey) (by simp [h type hMem])
  · intro h type hMem
    obtain ⟨i, hSize, rfl⟩ := Array.getElem_of_mem hMem
    by_contra hName
    exact h ⟨i⟩ _ (Array.getElem?_eq_getElem hSize)
      (NamedType.hasName_iff.1 (by simpa using hName))

/-- Among distinct types a name leads exactly to the type that has it. -/
theorem Distinct.lookup_eq_some_iff {r : Registry} (hDistinct : r.Distinct)
    {namespaceName name : String} {id : TypeId} :
    r.lookup namespaceName name = some id ↔
      ∃ type, r.get? id = some type ∧ type.key = (namespaceName, name) := by
  refine ⟨get?_of_lookup, ?_⟩
  rintro ⟨type, hType, hKey⟩
  cases hFound : r.lookup namespaceName name with
  | none => exact absurd hKey (lookup_eq_none_iff.1 hFound id type hType)
  | some other =>
      obtain ⟨found, hOther, hOtherKey⟩ := get?_of_lookup hFound
      rw [hDistinct other id found type hOther hType (hOtherKey.trans hKey.symm)]

theorem distinct_empty : ({} : Registry).Distinct := by
  intro i j s t h
  simp at h

/-- Registration adds a type at the next place, unless its name is taken. -/
theorem register_eq_ok {r r' : Registry} {type : NamedType} {id : TypeId} :
    (r.register type).result = .ok (id, r') ↔
      r.lookup type.namespaceName type.name = none ∧ id = r.nextId ∧ r' = r.push type := by
  rw [result_register]
  cases h : r.lookup type.namespaceName type.name <;> simp [eq_comm]

/-- One more type of a free name leaves names distinct. -/
theorem Distinct.push {r : Registry} (hDistinct : r.Distinct) {type : NamedType}
    (hFresh : r.lookup type.namespaceName type.name = none) : (r.push type).Distinct := by
  have hNew := lookup_eq_none_iff.1 hFresh
  intro i j s t hi hj hKey
  rw [get?_push] at hi hj
  split at hi <;> split at hj
  · next hLeft hRight => rw [hLeft, hRight]
  · cases hi
    exact absurd hKey.symm (hNew j t hj)
  · cases hj
    exact absurd hKey (hNew i s hi)
  · exact hDistinct i j s t hi hj hKey

end Registry

end Csdl
