import Csdl.Proofs.Registry.Lookup
import Mathlib.Data.List.Nodup

/-! How a registry changes: types are added at its end, and structures are edited in place. Neither
moves a type nor changes what registration fixed of it, so what has once been found stays where
it is. -/
namespace Csdl

open Query (bind_eq_ok)

namespace Registry

/-- What an edit leaves at each place. -/
theorem get?_of_edit {r r' : Registry} {id : TypeId} {change : Structure → Structure}
    (h : r.edit id change = .ok r') :
    ∃ s, r.structure? id = some s ∧
      ∀ j, r'.get? j = if j = id then some (.structured (change s)) else r.get? j := by
  unfold edit at h
  cases hStructure : r.structure? id with
  | none => simp [hStructure] at h
  | some s =>
      simp only [hStructure, Except.ok.injEq] at h
      subst h
      refine ⟨s, rfl, fun j => ?_⟩
      have hSize : id.index < r.types.size := lt_size_of_get? (structure?_eq_some.1 hStructure)
      obtain ⟨i⟩ := id
      obtain ⟨j⟩ := j
      simp only [get?, Array.getElem?_setIfInBounds, TypeId.mk.injEq]
      split
      · next hEq => simp [hEq]
      · next hNe => rw [if_neg (Ne.symm hNe)]

/-- An edit is made wherever a structure is. -/
theorem exists_edit_of_structure? {r : Registry} {id : TypeId} {s : Structure}
    (h : r.structure? id = some s) (change : Structure → Structure) :
    ∃ r', r.edit id change = .ok r' := by
  simp [edit, h]

theorem size_of_edit {r r' : Registry} {id : TypeId} {change : Structure → Structure}
    (h : r.edit id change = .ok r') : r'.size = r.size := by
  unfold edit at h
  split at h
  · cases h
  · cases h
    simp [size]

/-- An edit that keeps names and id keeps the outline. -/
theorem outline_of_edit {r r' : Registry} {id : TypeId} {change : Structure → Structure}
    (h : r.edit id change = .ok r')
    (hChange : ∀ s, (NamedType.structured (change s)).outline = (NamedType.structured s).outline) :
    r'.outline = r.outline := by
  obtain ⟨s, hStructure, hGet⟩ := get?_of_edit h
  refine List.ext_getElem? fun i => ?_
  have hPlace := hGet ⟨i⟩
  simp only [get?_eq_getElem?] at hPlace
  simp only [outline, List.getElem?_map, hPlace]
  split
  · next hEq =>
      have hOld := structure?_eq_some.1 hStructure
      rw [← hEq, get?_eq_getElem?] at hOld
      rw [hOld, Option.map_some, Option.map_some, hChange]
  · rfl

theorem outline_getElem? (r : Registry) (id : TypeId) :
    r.outline[id.index]? = (r.get? id).map NamedType.outline := by
  rw [outline, List.getElem?_map, get?_eq_getElem?]

theorem length_outline (r : Registry) : r.outline.length = r.size := by
  simp [outline, size]

/-- Names lead to places by the outline alone. -/
theorem lookup_eq_findIdx? (r : Registry) (namespaceName name : String) :
    r.lookup namespaceName name =
      (r.outline.findIdx? (·.hasName namespaceName name)).map TypeId.mk := by
  have hNames : (fun type : NamedType => type.hasName namespaceName name) ∘ NamedType.outline =
      fun type => type.hasName namespaceName name := by
    funext type
    cases type <;> rfl
  rw [lookup, outline, List.findIdx?_map, hNames, ← List.findIdx?_toArray, Array.toArray_toList]

theorem lookup_eq_of_outline_eq {r r' : Registry} (h : r'.outline = r.outline)
    (namespaceName name : String) : r'.lookup namespaceName name = r.lookup namespaceName name := by
  rw [lookup_eq_findIdx?, lookup_eq_findIdx?, h]

/-- Distinctness depends on names alone. -/
theorem distinct_iff_nodup {r : Registry} :
    r.Distinct ↔ (r.outline.map NamedType.key).Nodup := by
  have hKeys : ∀ id : TypeId,
      (r.outline.map NamedType.key)[id.index]? = (r.get? id).map NamedType.key := fun id => by
    rw [List.getElem?_map, outline_getElem?, Option.map_map]
    exact congrFun (congrArg Option.map (funext NamedType.key_outline)) _
  rw [List.nodup_iff_getElem?_ne_getElem?]
  constructor
  · intro h i j hij hj hEq
    rw [hKeys ⟨i⟩, hKeys ⟨j⟩] at hEq
    have hSize : j < r.size := by simpa [outline, size] using hj
    obtain ⟨t, ht⟩ := exists_get?_of_lt hSize
    rw [ht] at hEq
    obtain ⟨s, hs, hKey⟩ := Option.map_eq_some_iff.1 hEq
    have := congrArg TypeId.index (h ⟨i⟩ ⟨j⟩ s t hs ht hKey)
    simp at this
    omega
  · intro h i j s t hs ht hKey
    have hEq : (r.outline.map NamedType.key)[i.index]? =
        (r.outline.map NamedType.key)[j.index]? := by
      rw [hKeys, hKeys, hs, ht, Option.map_some, Option.map_some, hKey]
    have hLength : (r.outline.map NamedType.key).length = r.size := by
      rw [List.length_map, length_outline]
    have hi := lt_size_of_get? hs
    have hj := lt_size_of_get? ht
    rcases Nat.lt_trichotomy i.index j.index with hLt | hSame | hGt
    · exact absurd hEq (h _ _ hLt (hLength ▸ hj))
    · exact congrArg TypeId.mk hSame
    · exact absurd hEq.symm (h _ _ hGt (hLength ▸ hi))

/-- A later state of a registry: all types are still at their places. -/
def Keeps (r r' : Registry) : Prop :=
  r.outline <+: r'.outline

theorem Keeps.refl (r : Registry) : r.Keeps r := List.prefix_refl _

theorem Keeps.trans {r r' r'' : Registry} (h : r.Keeps r') (h' : r'.Keeps r'') : r.Keeps r'' :=
  List.IsPrefix.trans h h'

theorem Keeps.of_outline_eq {r r' : Registry} (h : r'.outline = r.outline) : r.Keeps r' := by
  unfold Keeps
  exact h ▸ List.prefix_refl r'.outline

theorem keeps_append (r : Registry) (types : List NamedType) : r.Keeps (r.append types) := by
  rw [Keeps, outline_append]
  exact List.prefix_append _ _

/-- A type stays at its place, with what registration fixes of it. -/
theorem Keeps.get? {r r' : Registry} (h : r.Keeps r') {id : TypeId} {type : NamedType}
    (hType : r.get? id = some type) :
    ∃ later, r'.get? id = some later ∧ later.outline = type.outline := by
  have hHere : r.outline[id.index]? = some type.outline := by rw [outline_getElem?, hType]; rfl
  obtain ⟨hLt, hEq⟩ := List.getElem?_eq_some_iff.1 hHere
  have hThere := List.prefix_iff_getElem?.1 h id.index hLt
  rw [hEq, outline_getElem?] at hThere
  exact Option.map_eq_some_iff.1 hThere

/-- A structure stays one, with its names and its id. -/
theorem Keeps.structure? {r r' : Registry} (h : r.Keeps r') {id : TypeId} {s : Structure}
    (hStructure : r.structure? id = some s) :
    ∃ later, r'.structure? id = some later ∧ later.namespaceName = s.namespaceName ∧
      later.name = s.name ∧ later.id = s.id := by
  obtain ⟨later, hLater, hOutline⟩ := h.get? (structure?_eq_some.1 hStructure)
  cases later with
  | enumeration value => cases hOutline
  | structured later =>
      simp only [NamedType.outline, NamedType.structured.injEq, Structure.mk.injEq] at hOutline
      exact ⟨later, structure?_eq_some.2 hLater, hOutline.1, hOutline.2.1, hOutline.2.2.1⟩

/-- Registries of one outline have the same kinds of types in their places. -/
theorem isSome_structure?_of_outline_eq {r r' : Registry} (h : r'.outline = r.outline)
    {id : TypeId} (hStructure : (r.structure? id).isSome) : (r'.structure? id).isSome := by
  obtain ⟨s, hs⟩ := Option.isSome_iff_exists.1 hStructure
  obtain ⟨later, hLater, _⟩ := (Keeps.of_outline_eq h).structure? hs
  rw [hLater]
  rfl

theorem Keeps.size_le {r r' : Registry} (h : r.Keeps r') : r.size ≤ r'.size := by
  rw [← length_outline, ← length_outline]
  exact List.IsPrefix.length_le h

/-- Names that have been found are found again. -/
theorem Keeps.lookup {r r' : Registry} (h : r.Keeps r') (hDistinct : r'.Distinct)
    {namespaceName name : String} {id : TypeId}
    (hFound : r.lookup namespaceName name = some id) :
    r'.lookup namespaceName name = some id := by
  obtain ⟨type, hType, hKey⟩ := get?_of_lookup hFound
  obtain ⟨later, hLater, hOutline⟩ := h.get? hType
  refine hDistinct.lookup_eq_some_iff.2 ⟨later, hLater, ?_⟩
  rw [← NamedType.key_outline, hOutline, NamedType.key_outline, hKey]

/-- A name that leads to a type still does in each later registry. -/
theorem Keeps.isSome_lookup {r r' : Registry} (h : r.Keeps r') (hDistinct : r'.Distinct)
    {namespaceName name : String} (hFound : (r.lookup namespaceName name).isSome) :
    (r'.lookup namespaceName name).isSome := by
  obtain ⟨id, hId⟩ := Option.isSome_iff_exists.1 hFound
  rw [h.lookup hDistinct hId]
  rfl

/-- Names that are distinct later are distinct earlier. -/
theorem Keeps.distinct {r r' : Registry} (h : r.Keeps r') (hDistinct : r'.Distinct) :
    r.Distinct := by
  rw [distinct_iff_nodup] at hDistinct ⊢
  exact hDistinct.sublist (List.IsPrefix.sublist (List.IsPrefix.map _ h))

/-- One more type leaves names distinct exactly if its name is free. -/
theorem Distinct.push_iff {r : Registry} (hDistinct : r.Distinct) {type : NamedType} :
    (r.push type).Distinct ↔ r.lookup type.namespaceName type.name = none := by
  refine ⟨fun h => ?_, hDistinct.push⟩
  rw [lookup_eq_none_iff]
  intro id old hOld hKey
  have hLt := lt_size_of_get? hOld
  have hNe : id ≠ r.nextId := fun hEq => by simp [hEq, nextId] at hLt
  refine hNe (h id r.nextId old type ?_ ?_ hKey)
  · rw [get?_push, if_neg hNe, hOld]
  · rw [get?_push, if_pos rfl]

end Registry

end Csdl
