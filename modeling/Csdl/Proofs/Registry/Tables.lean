import Csdl.Proofs.Registry.Reference
import Std.Data.HashMap.Lemmas

/-! A registry with an index of names and an index of qualified ids. Both are filled when a type is
registered and left alone when a structure is edited. They lead where a search through the types
leads, whatever is done to the registry: nothing that was indexed is ever forgotten. -/
namespace Csdl

/-- What is done to a structure behind its registration. -/
inductive Edit where
  | base (id : Option TypeId)
  | fields (fields : List Field)
  | collectionName (name : Option String)
  deriving DecidableEq, Repr

/-- The structure behind an edit. Names and id stay as they are. -/
def Edit.apply : Edit → Structure → Structure
  | base id, s => { s with base := id }
  | fields found, s => { s with fields := found }
  | collectionName name, s => { s with collectionName := name }

/-- What is done to a registry. Any of these may fail but the use of the point record. -/
inductive Change where
  | register (type : NamedType)
  | usePoint
  | edit (id : TypeId) (edit : Edit)
  deriving DecidableEq, Repr

namespace Registry

/-- The place that a change is about, and the registry behind it. -/
def change (r : Registry) : Change → Except Error (TypeId × Registry)
  | .register type => (r.register type).result
  | .usePoint => .ok (r.pointId, r.withPoint)
  | .edit id edit => (r.edit id edit.apply).map fun later => (id, later)

/-- The registry behind a change. One that fails has no effect. -/
def step (r : Registry) (change : Change) : Registry :=
  match r.change change with
  | .ok (_, later) => later
  | .error _ => r

/-- The registry behind some changes, one after the other. -/
def run (r : Registry) (changes : List Change) : Registry :=
  changes.foldl step r

end Registry

/-- Types in the order of their registration, and indexes of their names and qualified ids. -/
structure Tables where
  types : Array NamedType := #[]
  names : Std.HashMap (String × String) TypeId := ∅
  ids : Std.HashMap String TypeId := ∅

namespace Tables

/-- The type at a place. -/
def get? (t : Tables) (id : TypeId) : Option NamedType :=
  t.types[id.index]?

/-- The place of a name by its index. -/
def lookup (t : Tables) (namespaceName name : String) : Option TypeId :=
  t.names[(namespaceName, name)]?

/-- The place of a qualified id by its index. -/
def lookupId (t : Tables) (id : String) : Option TypeId :=
  t.ids[id]?

/-- The index of ids with a type at a place. An id that has an owner keeps it. -/
def indexId (t : Tables) (type : NamedType) (place : TypeId) : Std.HashMap String TypeId :=
  match type.id? with
  | none => t.ids
  | some id => if t.ids.contains id then t.ids else t.ids.insert id place

/-- Registers a type in all three tables, unless its name is taken. -/
def register (t : Tables) (type : NamedType) : Except Error TypeId × Tables :=
  if t.names.contains type.key then
    (.error (.format (.declaredTwice type.namespaceName type.name)), t)
  else
    let place : TypeId := ⟨t.types.size⟩
    (.ok place, ⟨t.types.push type, t.names.insert type.key place, t.indexId type place⟩)

/-- Finds the point record, which is registered at its first use. -/
def usePoint (t : Tables) : Except Error TypeId × Tables :=
  match t.lookup EdmType.edmNamespace EdmType.pointName with
  | some id => (.ok id, t)
  | none => t.register (.structured Registry.pointRecord)

/-- Edits a structure in its place. Neither index is touched. -/
def edit (t : Tables) (id : TypeId) (edit : Edit) : Except Error TypeId × Tables :=
  match t.types[id.index]? with
  | some (.structured s) =>
    (.ok id, { t with types := t.types.setIfInBounds id.index (.structured (edit.apply s)) })
  | _ => (.error (.format (.notAStructure id.index)), t)

/-- What a change is about, and the tables behind it. -/
def change (t : Tables) : Change → Except Error TypeId × Tables
  | .register type => t.register type
  | .usePoint => t.usePoint
  | .edit id edit => t.edit id edit

/-- The tables behind some changes, one after the other. -/
def run (t : Tables) (changes : List Change) : Tables :=
  changes.foldl (fun t change => (t.change change).2) t

/-- Tables that hold the types of a registry and lead to the same places. -/
structure Represents (t : Tables) (r : Registry) : Prop where
  types_eq : t.types = r.types
  lookup_eq : ∀ namespaceName name, t.lookup namespaceName name = r.lookup namespaceName name
  lookupId_eq : ∀ id, t.lookupId id = r.lookupId id

end Tables

theorem NamedType.id?_outline (type : NamedType) : type.outline.id? = type.id? := by
  cases type <;> rfl

namespace Registry

variable {r r' : Registry}

/-- Qualified ids lead to places by the outline alone. -/
theorem lookupId_eq_findIdx? (r : Registry) (id : String) :
    r.lookupId id = (r.outline.findIdx? (·.id? == some id)).map TypeId.mk := by
  have hIds : (fun type : NamedType => type.id? == some id) ∘ NamedType.outline =
      fun type => type.id? == some id := by
    funext type
    exact congrArg (· == some id) type.id?_outline
  rw [lookupId, outline, List.findIdx?_map, hIds, ← List.findIdx?_toArray, Array.toArray_toList]

theorem id?_eq_some_iff {type : NamedType} {id : String} :
    type.id? = some id ↔ ∃ s, type = .structured s ∧ s.id = id := by
  cases type <;> simp [NamedType.id?]

/-- A qualified id leads to the first structure that has it. -/
theorem lookupId_eq_some_iff {id : String} {place : TypeId} :
    r.lookupId id = some place ↔
      (∃ s, r.get? place = some (.structured s) ∧ s.id = id) ∧
        ∀ other s, r.get? other = some (.structured s) → s.id = id →
          place.index ≤ other.index := by
  obtain ⟨i⟩ := place
  have hFound : r.lookupId id = some ⟨i⟩ ↔
      r.types.findIdx? (·.id? == some id) = some i := by
    rw [lookupId, Option.map_eq_some_iff]
    simp
  rw [hFound, Array.findIdx?_eq_some_iff_getElem]
  simp only [beq_iff_eq, id?_eq_some_iff]
  constructor
  · rintro ⟨hSize, ⟨s, hType, hId⟩, hFirst⟩
    refine ⟨⟨s, ?_, hId⟩, ?_⟩
    · rw [get?, Array.getElem?_eq_getElem hSize, hType]
    · intro other s hOther hId
      obtain ⟨hLt, hEq⟩ := Array.getElem?_eq_some_iff.1 hOther
      by_contra hBefore
      exact hFirst other.index (Nat.lt_of_not_le hBefore) ⟨s, hEq, hId⟩
  · rintro ⟨⟨s, hType, hId⟩, hFirst⟩
    obtain ⟨hSize, hEq⟩ := Array.getElem?_eq_some_iff.1 hType
    refine ⟨hSize, ⟨s, hEq, hId⟩, ?_⟩
    rintro j hBefore ⟨t, hOther, hSame⟩
    have hPlace : r.get? ⟨j⟩ = some (.structured t) := by
      rw [get?, Array.getElem?_eq_getElem (Nat.lt_trans hBefore hSize), hOther]
    exact absurd (hFirst ⟨j⟩ t hPlace hSame) (Nat.not_le_of_lt hBefore)

/-- Owners of ids stay owners. -/
theorem Keeps.lookupId (h : r.Keeps r') {id : String} {place : TypeId}
    (hFound : r.lookupId id = some place) : r'.lookupId id = some place := by
  obtain ⟨added, hAdded⟩ := h
  rw [lookupId_eq_findIdx?, Option.map_eq_some_iff] at hFound
  obtain ⟨i, hFirst, rfl⟩ := hFound
  rw [lookupId_eq_findIdx?, ← hAdded, List.findIdx?_append, hFirst]
  rfl

theorem lookupId_eq_of_outline_eq (h : r'.outline = r.outline) (id : String) :
    r'.lookupId id = r.lookupId id := by
  rw [lookupId_eq_findIdx?, lookupId_eq_findIdx?, h]

theorem lookup_push (r : Registry) (type : NamedType) (namespaceName name : String) :
    (r.push type).lookup namespaceName name = (r.lookup namespaceName name).or
      (if type.key = (namespaceName, name) then some r.nextId else none) := by
  rw [lookup, push, Array.findIdx?_push, Option.map_or]
  simp only [NamedType.hasName_iff]
  split <;> rfl

theorem lookupId_push (r : Registry) (type : NamedType) (id : String) :
    (r.push type).lookupId id = (r.lookupId id).or
      (if type.id? = some id then some r.nextId else none) := by
  rw [lookupId, push, Array.findIdx?_push, Option.map_or]
  simp only [beq_iff_eq]
  split <;> rfl

/-- Registering a type that is there already changes nothing; else the type is added. -/
theorem step_register (r : Registry) (type : NamedType) :
    r.step (.register type) =
      if (r.lookup type.namespaceName type.name).isSome then r else r.push type := by
  show (match (r.register type).result with | .ok (_, later) => later | .error _ => r) = _
  rw [result_register]
  by_cases hTaken : (r.lookup type.namespaceName type.name).isSome
  · simp only [if_pos hTaken]
  · simp only [if_neg hTaken]

/-- An edit that is refused changes nothing. -/
theorem step_edit (r : Registry) (id : TypeId) (edit : Edit) :
    r.step (.edit id edit) = match r.edit id edit.apply with
      | .ok later => later
      | .error _ => r := by
  show (match (r.edit id edit.apply).map fun later => (id, later) with
    | .ok (_, later) => later
    | .error _ => r) = _
  cases r.edit id edit.apply <;> rfl

/-- An edit changes neither names nor ids. -/
theorem outline_step_edit (r : Registry) (id : TypeId) (edit : Edit) :
    (r.step (.edit id edit)).outline = r.outline := by
  rw [step_edit]
  cases hEdit : r.edit id edit.apply with
  | error error => rfl
  | ok later => exact outline_of_edit hEdit fun s => by cases edit <;> rfl

end Registry

namespace Tables.Represents

variable {t : Tables} {r : Registry} (h : t.Represents r)

include h

/-- A type of a new name is added to all three tables. -/
theorem push {type : NamedType}
    (hFresh : r.lookup type.namespaceName type.name = none) :
    Represents ⟨t.types.push type, t.names.insert type.key r.nextId, t.indexId type r.nextId⟩
      (r.push type) where
  types_eq := by rw [h.types_eq, Registry.push]
  lookup_eq namespaceName name := by
    have hNames : t.names[(namespaceName, name)]? = r.lookup namespaceName name :=
      h.lookup_eq namespaceName name
    rw [Registry.lookup_push, Tables.lookup, Std.HashMap.getElem?_insert, hNames]
    by_cases hKey : type.key = (namespaceName, name)
    · obtain ⟨rfl, rfl⟩ := Prod.mk.inj hKey
      simp [hKey, hFresh]
    · simp [hKey]
  lookupId_eq id := by
    have hIds : ∀ id, t.ids[id]? = r.lookupId id := h.lookupId_eq
    rw [Registry.lookupId_push, Tables.lookupId]
    unfold indexId
    cases hType : type.id? with
    | none => simp [hIds]
    | some own =>
        dsimp only
        rw [Std.HashMap.contains_eq_isSome_getElem?, hIds own]
        cases hOwner : r.lookupId own with
        | some place =>
            by_cases hSame : own = id
            · simp [← hSame, hIds, hOwner]
            · simp [hSame, hIds]
        | none =>
            by_cases hSame : own = id
            · simp [← hSame, hOwner]
            · simp [hSame, hIds, Std.HashMap.getElem?_insert]

/-- Registering a type in the tables is registering it in the registry. -/
theorem register (type : NamedType) :
    (t.register type).1 = (r.register type).result.map Prod.fst ∧
      (t.register type).2.Represents (r.step (.register type)) := by
  have hTaken : t.names.contains type.key = (r.lookup type.namespaceName type.name).isSome := by
    rw [Std.HashMap.contains_eq_isSome_getElem?, ← h.lookup_eq]
    rfl
  have hNext : (⟨t.types.size⟩ : TypeId) = r.nextId := by
    rw [h.types_eq]
    rfl
  unfold Tables.register
  rw [hTaken, hNext, Registry.step_register, Registry.result_register]
  by_cases hFound : (r.lookup type.namespaceName type.name).isSome
  · simp only [if_pos hFound]
    exact ⟨rfl, h⟩
  · simp only [if_neg hFound]
    exact ⟨rfl, h.push (Option.not_isSome_iff_eq_none.1 hFound)⟩

/-- Asking the tables for the point record gives its place in the registry, and leaves tables of the
registry that has it. -/
theorem usePoint : (t.usePoint).1 = .ok r.pointId ∧ (t.usePoint).2.Represents r.withPoint := by
  unfold Tables.usePoint Registry.pointId Registry.withPoint
  rw [h.lookup_eq]
  cases hFound : r.lookup EdmType.edmNamespace EdmType.pointName with
  | some id => exact ⟨rfl, h⟩
  | none =>
      obtain ⟨hAnswer, hLater⟩ := h.register (.structured Registry.pointRecord)
      have hFree : ¬ (r.lookup (NamedType.structured Registry.pointRecord).namespaceName
          (NamedType.structured Registry.pointRecord).name).isSome :=
        Option.not_isSome_iff_eq_none.2 hFound
      rw [Registry.result_register, if_neg hFree] at hAnswer
      rw [Registry.step_register, if_neg hFree] at hLater
      exact ⟨hAnswer, hLater⟩

/-- An edit of the tables answers as an edit of the registry does, and leaves tables of the edited
registry. -/
theorem edit (id : TypeId) (edit : Edit) :
    (t.edit id edit).1 = (r.edit id edit.apply).map (fun _ => id) ∧
      (t.edit id edit).2.Represents (r.step (.edit id edit)) := by
  have hPlace : t.types[id.index]? = r.get? id := by rw [h.types_eq, Registry.get?]
  have hOutline := r.outline_step_edit id edit
  unfold Tables.edit
  cases hStructure : r.structure? id with
  | none =>
      have hEdit : r.edit id edit.apply = .error (.format (.notAStructure id.index)) := by
        rw [Registry.edit, hStructure]
      rw [hPlace, Registry.step_edit, hEdit]
      split
      · next hType =>
          rw [Registry.structure?_eq_some.2 hType] at hStructure
          cases hStructure
      · exact ⟨rfl, h⟩
  | some s =>
      have hEdit : r.edit id edit.apply =
          .ok ⟨r.types.setIfInBounds id.index (.structured (edit.apply s))⟩ := by
        rw [Registry.edit, hStructure]
      rw [Registry.step_edit, hEdit] at hOutline ⊢
      rw [hPlace, Registry.structure?_eq_some.1 hStructure]
      refine ⟨rfl, ?_, fun space name => ?_, fun own => ?_⟩
      · show t.types.setIfInBounds _ _ = r.types.setIfInBounds _ _
        rw [h.types_eq]
      · exact (h.lookup_eq space name).trans (Registry.lookup_eq_of_outline_eq hOutline ..).symm
      · exact (h.lookupId_eq own).trans (Registry.lookupId_eq_of_outline_eq hOutline own).symm

/-- A change of the tables is a change of the registry. -/
theorem change (change : Change) :
    (t.change change).1 = (r.change change).map Prod.fst ∧
      (t.change change).2.Represents (r.step change) := by
  cases change with
  | register type => exact h.register type
  | usePoint => exact h.usePoint
  | edit id edit =>
      obtain ⟨hAnswer, hLater⟩ := h.edit id edit
      refine ⟨hAnswer.trans ?_, hLater⟩
      rw [Registry.change]
      cases r.edit id edit.apply <;> rfl

omit h in
theorem empty : ({} : Tables).Represents {} where
  types_eq := rfl
  lookup_eq _ _ := by simp [Tables.lookup, Registry.lookup]
  lookupId_eq _ := by simp [Tables.lookupId, Registry.lookupId]

/-- Whatever is done, the tables lead to the same places as a search through the types. -/
theorem run (changes : List Change) : (t.run changes).Represents (r.run changes) := by
  induction changes generalizing t r with
  | nil => exact h
  | cons change changes ih => exact ih (h.change change).2

end Tables.Represents

namespace Registry

variable {r : Registry}

/-- A change leaves what is there at its place, whether it is made or refused. -/
theorem keeps_step (r : Registry) (change : Change) : r.Keeps (r.step change) := by
  cases change with
  | register type =>
      rw [step_register]
      split
      · exact .refl r
      · rw [← append_singleton]
        exact keeps_append r _
  | usePoint => exact keeps_withPoint r
  | edit id edit => exact .of_outline_eq (r.outline_step_edit id edit)

/-- A change leaves names distinct, since a name that is taken is not registered again. -/
theorem Distinct.step (h : r.Distinct) (change : Change) : (r.step change).Distinct := by
  cases change with
  | register type =>
      rw [step_register]
      split
      · exact h
      · next hFree => exact h.push (Option.not_isSome_iff_eq_none.1 hFree)
  | usePoint => exact h.withPoint
  | edit id edit => exact (Keeps.of_outline_eq (r.outline_step_edit id edit).symm).distinct h

theorem keeps_run (r : Registry) (changes : List Change) : r.Keeps (r.run changes) := by
  induction changes generalizing r with
  | nil => exact .refl r
  | cons change changes ih => exact (r.keeps_step change).trans (ih _)

theorem Distinct.run (h : r.Distinct) (changes : List Change) : (r.run changes).Distinct := by
  induction changes generalizing r with
  | nil => exact h
  | cons change changes ih => exact ih (h.step change)

theorem run_append (r : Registry) (first second : List Change) :
    r.run (first ++ second) = (r.run first).run second :=
  List.foldl_append

end Registry

namespace Tables

/-- Tables whose indexes lead exactly to the type of a name and to the first structure of an id. No
two types share namespace and name, and no enumeration owns an id. -/
structure Indexed (t : Tables) : Prop where
  lookup_iff : ∀ namespaceName name id, t.lookup namespaceName name = some id ↔
    ∃ type, t.get? id = some type ∧ type.namespaceName = namespaceName ∧ type.name = name
  distinct : ∀ id id' type type', t.get? id = some type → t.get? id' = some type' →
    type.namespaceName = type'.namespaceName → type.name = type'.name → id = id'
  lookupId_iff : ∀ own id, t.lookupId own = some id ↔
    (∃ s, t.get? id = some (.structured s) ∧ s.id = own) ∧
      ∀ other s, t.get? other = some (.structured s) → s.id = own → id.index ≤ other.index
  structured : ∀ own id value, t.lookupId own = some id → t.get? id ≠ some (.enumeration value)

/-- Later tables: each type is in its place with its names and its id, and what was found by name or
by id is found there again. -/
structure Extends (t later : Tables) : Prop where
  get? : ∀ id type, t.get? id = some type → ∃ type', later.get? id = some type' ∧
    type'.namespaceName = type.namespaceName ∧ type'.name = type.name ∧ type'.id? = type.id?
  lookup : ∀ namespaceName name id, t.lookup namespaceName name = some id →
    later.lookup namespaceName name = some id
  lookupId : ∀ own id, t.lookupId own = some id → later.lookupId own = some id

variable {t later : Tables} {r r' : Registry}

theorem Represents.get?_eq (h : t.Represents r) (id : TypeId) : t.get? id = r.get? id := by
  rw [Tables.get?, h.types_eq, Registry.get?]

/-- Tables of a registry with distinct names lead from each name and each id to the place of its
type. -/
theorem Represents.indexed (h : t.Represents r) (hDistinct : r.Distinct) : t.Indexed where
  lookup_iff namespaceName name id := by
    rw [h.lookup_eq, hDistinct.lookup_eq_some_iff, h.get?_eq]
    simp only [NamedType.key, Prod.mk.injEq]
  distinct id id' type type' hType hType' hSpace hName := by
    rw [h.get?_eq] at hType hType'
    exact hDistinct id id' type type' hType hType' (Prod.ext hSpace hName)
  lookupId_iff own id := by
    simp only [h.lookupId_eq, h.get?_eq]
    exact Registry.lookupId_eq_some_iff
  structured own id value hOwner hValue := by
    rw [h.lookupId_eq, Registry.lookupId_eq_some_iff] at hOwner
    obtain ⟨⟨s, hType, _⟩, _⟩ := hOwner
    rw [h.get?_eq, hType] at hValue
    cases hValue

/-- Tables of a later registry answer as before for all that was there earlier. -/
theorem Represents.extends (h : t.Represents r) (h' : later.Represents r') (hKeeps : r.Keeps r')
    (hDistinct : r'.Distinct) : t.Extends later where
  get? id type hType := by
    rw [h.get?_eq] at hType
    obtain ⟨type', hLater, hOutline⟩ := hKeeps.get? hType
    have hKey : type'.key = type.key := by
      rw [← NamedType.key_outline, hOutline, NamedType.key_outline]
    obtain ⟨hSpace, hName⟩ := Prod.mk.inj hKey
    refine ⟨type', (h'.get?_eq id).trans hLater, hSpace, hName, ?_⟩
    rw [← NamedType.id?_outline, hOutline, NamedType.id?_outline]
  lookup namespaceName name id hFound := by
    rw [h.lookup_eq] at hFound
    rw [h'.lookup_eq]
    exact hKeeps.lookup hDistinct hFound
  lookupId own id hFound := by
    rw [h.lookupId_eq] at hFound
    rw [h'.lookupId_eq]
    exact hKeeps.lookupId hFound

/-- A change that fails leaves all three tables as they are. -/
theorem change_eq_of_error {change : Change} {error : Error}
    (h : (t.change change).1 = .error error) : (t.change change).2 = t := by
  have hRegister : ∀ type, (t.register type).1 = .error error → (t.register type).2 = t := by
    intro type h
    unfold register at h ⊢
    split
    · rfl
    · next hFree =>
        rw [if_neg hFree] at h
        cases h
  cases change with
  | register type => exact hRegister type h
  | usePoint =>
      simp only [Tables.change, usePoint] at h ⊢
      split
      · rfl
      · next hNone =>
          rw [hNone] at h
          exact hRegister _ h
  | edit id edit =>
      simp only [Tables.change, Tables.edit] at h ⊢
      split
      · next hType =>
          rw [hType] at h
          cases h
      · rfl

end Tables

end Csdl
