import Csdl.Navigation
import Csdl.Operation
import Csdl.Proofs.Metadata.Filling
import Csdl.Proofs.Registry.Inheritance
import Mathlib.Logic.Equiv.Basic

/-! Registries that differ in the places of their types alone. A renaming takes each place to the
place of the same type in the other registry. All that is read from a registry and all that is done
to it commutes with renamings; new types have the same places in both registries. -/
namespace Csdl

section Rename

variable (σ : Equiv.Perm TypeId)

/-- The type with its place renamed. -/
def TypeRef.rename : TypeRef → TypeRef
  | .primitive kind => .primitive kind
  | .named id => .named (σ id)

/-- The field with the place of its type renamed. -/
def Field.rename (field : Field) : Field :=
  { field with type := field.type.rename σ }

/-- The structure with all places renamed. -/
def Structure.rename (s : Structure) : Structure :=
  { s with
    base := s.base.map σ
    fields := s.fields.map (Field.rename σ) }

/-- The type with all places renamed. -/
def NamedType.rename : NamedType → NamedType :=
  mapStructure (Structure.rename σ)

/-- The navigation with all places renamed. -/
def Navigation.rename (n : Navigation) : Navigation :=
  { n with
    owner := σ n.owner
    field := n.field.rename σ
    updateMapping := n.updateMapping.map (Structure.rename σ) }

/-- The function with all places renamed. -/
def ServiceFunction.rename (f : ServiceFunction) : ServiceFunction :=
  { f with
    input := f.input.rename σ
    output := f.output.rename σ }

theorem NamedType.key_rename (type : NamedType) : (type.rename σ).key = type.key := by
  cases type <;> rfl

/-- Two registries of the same types, each at its renamed place in the second. Places that are not
taken yet keep their names. -/
structure Registry.Renamed (r r' : Registry) : Prop where
  size_eq : r'.size = r.size
  fixed : ∀ id, r.size ≤ id.index → σ id = id
  get?_eq : ∀ id, r'.get? (σ id) = (r.get? id).map (NamedType.rename σ)

end Rename

namespace Registry.Renamed

variable {σ : Equiv.Perm TypeId} {r r' : Registry}

theorem rename_nextId (h : Renamed σ r r') : σ r.nextId = r.nextId :=
  h.fixed _ (Nat.le_refl _)

theorem nextId_eq (h : Renamed σ r r') : r'.nextId = r.nextId :=
  congrArg TypeId.mk h.size_eq

theorem structure?_eq (h : Renamed σ r r') (id : TypeId) :
    r'.structure? (σ id) = (r.structure? id).map (Structure.rename σ) :=
  structure?_of_get?_map (h.get?_eq id)

/-- Each type of the second registry is a type of the first. -/
theorem exists_get? (h : Renamed σ r r') {id : TypeId} {type : NamedType}
    (hType : r'.get? id = some type) :
    ∃ old, r.get? (σ.symm id) = some old ∧ type = old.rename σ := by
  have hHere := h.get?_eq (σ.symm id)
  rw [Equiv.apply_symm_apply, hType] at hHere
  obtain ⟨old, hOld, hEq⟩ := Option.map_eq_some_iff.1 hHere.symm
  exact ⟨old, hOld, hEq.symm⟩

theorem distinct (h : Renamed σ r r') (hDistinct : r.Distinct) : r'.Distinct := by
  intro i j s t hi hj hKey
  obtain ⟨s, hs, rfl⟩ := h.exists_get? hi
  obtain ⟨t, ht, rfl⟩ := h.exists_get? hj
  rw [NamedType.key_rename, NamedType.key_rename] at hKey
  exact σ.symm.injective (hDistinct _ _ s t hs ht hKey)

/-- Names lead to renamed places, since distinct names leave only one place for each. -/
theorem lookup_eq (h : Renamed σ r r') (hDistinct : r.Distinct) (namespaceName name : String) :
    r'.lookup namespaceName name = (r.lookup namespaceName name).map σ := by
  cases hFound : r.lookup namespaceName name with
  | none =>
      apply lookup_eq_none_iff.2
      intro id type hType hKey
      obtain ⟨old, hOld, rfl⟩ := h.exists_get? hType
      rw [NamedType.key_rename] at hKey
      exact lookup_eq_none_iff.1 hFound _ old hOld hKey
  | some id =>
      obtain ⟨type, hType, hKey⟩ := get?_of_lookup hFound
      refine (h.distinct hDistinct).lookup_eq_some_iff.2 ⟨type.rename σ, ?_, ?_⟩
      · rw [h.get?_eq, hType]
        rfl
      · rw [NamedType.key_rename, hKey]

theorem pointId_eq (h : Renamed σ r r') (hDistinct : r.Distinct) :
    r'.pointId = σ r.pointId := by
  rw [pointId, pointId, h.lookup_eq hDistinct, h.nextId_eq]
  cases r.lookup EdmType.edmNamespace EdmType.pointName with
  | none => exact h.rename_nextId.symm
  | some id => rfl

/-- A reference denotes the same type in both registries. -/
theorem refer_eq (h : Renamed σ r r') (hDistinct : r.Distinct) (aliases : AliasTable)
    (reference : String) :
    r'.refer aliases reference = (r.refer aliases reference).map (TypeRef.rename σ) := by
  cases hSplit : splitQualified? (Text.trim reference) with
  | none =>
      rw [refer_of_split_eq_none hSplit, refer_of_split_eq_none hSplit]
      rfl
  | some parts =>
      obtain ⟨space, leaf⟩ := parts
      cases hEdm : EdmType.isEdmName (aliases.resolve space ++ "." ++ leaf) with
      | true =>
          rw [refer_of_isEdmName hSplit hEdm, refer_of_isEdmName hSplit hEdm,
            h.pointId_eq hDistinct]
          cases EdmType.parse (aliases.resolve space ++ "." ++ leaf) with
          | error error => rfl
          | ok type => cases type <;> rfl
      | false =>
          rw [refer_of_not_isEdmName hSplit hEdm, refer_of_not_isEdmName hSplit hEdm,
            h.lookup_eq hDistinct]
          cases r.lookup (aliases.resolve space) leaf <;> rfl

/-- One more type on both sides keeps registries renamed. Its place is the same in both. -/
theorem push (h : Renamed σ r r') (type : NamedType) :
    Renamed σ (r.push type) (r'.push (type.rename σ)) where
  size_eq := by rw [size_push, size_push, h.size_eq]
  fixed id hSize := h.fixed id (by rw [size_push] at hSize; omega)
  get?_eq id := by
    rw [get?_push, get?_push, h.nextId_eq, h.get?_eq]
    by_cases hNext : id = r.nextId
    · rw [if_pos hNext, if_pos (hNext ▸ h.rename_nextId)]
      rfl
    · rw [if_neg hNext, if_neg]
      exact fun hEq => hNext (σ.injective (hEq.trans h.rename_nextId.symm))

/-- Further types on both sides keep registries renamed. -/
theorem append (h : Renamed σ r r') (types : List NamedType) :
    Renamed σ (r.append types) (r'.append (types.map (NamedType.rename σ))) := by
  induction types generalizing r r' with
  | nil =>
      rw [List.map_nil, append_nil, append_nil]
      exact h
  | cons type types ih =>
      rw [List.map_cons, append_cons, append_cons]
      exact ih (h.push type)

theorem withPoint (h : Renamed σ r r') (hDistinct : r.Distinct) :
    Renamed σ r.withPoint r'.withPoint := by
  unfold Registry.withPoint
  rw [h.lookup_eq hDistinct]
  cases r.lookup EdmType.edmNamespace EdmType.pointName with
  | none => exact h.push (.structured pointRecord)
  | some id => exact h

/-- A use of the point record keeps registries renamed, as it is there in both or in none. -/
theorem extendFor (h : Renamed σ r r') (hDistinct : r.Distinct) (type : TypeRef) :
    Renamed σ (r.extendFor type) (r'.extendFor (type.rename σ)) := by
  have hSame : type.rename σ = .named r'.nextId ↔ type = .named r.nextId := by
    rw [h.nextId_eq]
    cases type with
    | primitive kind => constructor <;> intro hEq <;> cases hEq
    | named id =>
        rw [TypeRef.rename, TypeRef.named.injEq, TypeRef.named.injEq]
        refine ⟨fun hEq => σ.injective (hEq.trans h.rename_nextId.symm), fun hEq => ?_⟩
        rw [hEq, h.rename_nextId]
  unfold Registry.extendFor
  by_cases hNext : type = .named r.nextId
  · rw [if_pos hNext, if_pos (hSame.2 hNext)]
    exact h.withPoint hDistinct
  · rw [if_neg hNext, if_neg (mt hSame.1 hNext)]
    exact h

/-- A change that commutes with the renaming can be made to both registries. -/
theorem edit (h : Renamed σ r r') {id : TypeId} {change change' : Structure → Structure}
    (hChange : ∀ s, change' (s.rename σ) = (change s).rename σ) {later : Registry}
    (hEdit : r.edit id change = .ok later) :
    ∃ later', r'.edit (σ id) change' = .ok later' ∧ Renamed σ later later' := by
  obtain ⟨s, hStructure, hGet⟩ := get?_of_edit hEdit
  have hThere : r'.structure? (σ id) = some (s.rename σ) := by
    rw [h.structure?_eq, hStructure]
    rfl
  obtain ⟨later', hEdit'⟩ := exists_edit_of_structure? hThere change'
  obtain ⟨s', hStructure', hGet'⟩ := get?_of_edit hEdit'
  obtain rfl := Option.some.inj (hThere.symm.trans hStructure')
  refine ⟨later', hEdit', ?_, fun j hSize => h.fixed j ?_, fun j => ?_⟩
  · rw [size_of_edit hEdit', size_of_edit hEdit, h.size_eq]
  · rwa [size_of_edit hEdit] at hSize
  · rw [hGet, hGet', h.get?_eq]
    by_cases hSame : j = id
    · rw [if_pos hSame, if_pos (congrArg σ hSame), hChange]
      rfl
    · rw [if_neg hSame, if_neg fun hEq => hSame (σ.injective hEq)]

/-- Chains lead through the same structures in both registries. -/
theorem chainFrom_eq (h : Renamed σ r r') (limit : Nat) (seen : List TypeId) (id : TypeId) :
    r'.chainFrom (seen.map σ) limit (σ id) =
      (r.chainFrom seen limit id).map fun member => (σ member.1, member.2.rename σ) := by
  induction limit generalizing seen id with
  | zero => rfl
  | succ limit ih =>
      have hSeen : σ id ∈ seen.map σ ↔ id ∈ seen := by
        rw [List.mem_map_of_injective σ.injective]
      rw [chainFrom, chainFrom, h.structure?_eq]
      by_cases hMem : id ∈ seen
      · rw [if_pos hMem, if_pos (hSeen.2 hMem)]
        rfl
      · rw [if_neg hMem, if_neg (mt hSeen.1 hMem)]
        cases r.structure? id with
        | none => rfl
        | some s =>
            cases hBase : s.base with
            | none => simp [Structure.rename, hBase]
            | some base => simpa [Structure.rename, hBase] using ih (id :: seen) base

/-- What is hidden on a chain depends on names alone. -/
theorem chainFields_rename (hidden : List String) (chain : List Structure) :
    chainFields hidden (chain.map (Structure.rename σ)) =
      (chainFields hidden chain).map (Field.rename σ) := by
  induction chain generalizing hidden with
  | nil => rfl
  | cons s farther ih =>
      simp only [List.map_cons, chainFields, Structure.rename, ih, List.map_append,
        List.filter_map]
      rfl

/-- A type has the same primary key in both registries. -/
theorem primaryKey?_eq (h : Renamed σ r r') (id : TypeId) :
    r'.primaryKey? (σ id) = (r.primaryKey? id).map (Field.rename σ) := by
  have hChain : r'.baseChain (σ id) =
      (r.baseChain id).map fun member => (σ member.1, member.2.rename σ) := by
    rw [baseChain, h.size_eq]
    exact h.chainFrom_eq r.size [] id
  have hFields : r'.allFields (σ id) = (r.allFields id).map (Field.rename σ) := by
    rw [allFields, allFields, hChain, ← chainFields_rename, List.map_map, List.map_map]
    rfl
  rw [primaryKey?, primaryKey?, hFields, List.find?_map]
  rfl

end Registry.Renamed

/-- The permutation of places that leaves the first place and permutes those behind it. -/
def shiftPerm (σ : Equiv.Perm ℕ) : Equiv.Perm ℕ where
  toFun
    | 0 => 0
    | i + 1 => σ i + 1
  invFun
    | 0 => 0
    | i + 1 => σ.symm i + 1
  left_inv i := by cases i <;> simp
  right_inv i := by cases i <;> simp

/-- A list in another order has its elements at permuted places. -/
theorem exists_perm_getElem? {α : Type} {xs ys : List α} (h : ys.Perm xs) :
    ∃ σ : Equiv.Perm ℕ, (∀ i, xs.length ≤ i → σ i = i) ∧ ∀ i, ys[σ i]? = xs[i]? := by
  induction h with
  | nil => exact ⟨Equiv.refl ℕ, fun _ _ => rfl, fun _ => rfl⟩
  | cons x _ ih =>
      obtain ⟨σ, hFixed, hGet⟩ := ih
      refine ⟨shiftPerm σ, fun i hi => ?_, fun i => ?_⟩
      · cases i with
        | zero => rfl
        | succ i => exact congrArg (· + 1) (hFixed i (Nat.le_of_succ_le_succ hi))
      · cases i with
        | zero => rfl
        | succ i => exact hGet i
  | swap x y l =>
      refine ⟨Equiv.swap 0 1, fun i hi => ?_, fun i => ?_⟩
      · have hLarge : 2 ≤ i := Nat.le_trans (by simp) hi
        exact Equiv.swap_apply_of_ne_of_ne (by omega) (by omega)
      · match i with
        | 0 => rfl
        | 1 => rfl
        | i + 2 => rw [Equiv.swap_apply_of_ne_of_ne (by omega) (by omega)]; rfl
  | trans _ second ih ih' =>
      obtain ⟨σ, hFixed, hGet⟩ := ih
      obtain ⟨τ, hFixed', hGet'⟩ := ih'
      refine ⟨τ.trans σ, fun i hi => ?_, fun i => ?_⟩
      · rw [Equiv.trans_apply, hFixed' i hi]
        exact hFixed i (second.length_eq ▸ hi)
      · rw [Equiv.trans_apply, hGet, hGet']

/-- A permutation of numbers as one of places. -/
def placePerm (σ : Equiv.Perm ℕ) : Equiv.Perm TypeId where
  toFun id := ⟨σ id.index⟩
  invFun id := ⟨σ.symm id.index⟩
  left_inv id := by simp
  right_inv id := by simp

/-- Registries that have been filled with the same types in another order. The types do not refer
to each other yet. -/
theorem Registry.exists_renamed_of_perm {types types' : List NamedType} (h : types'.Perm types)
    (hClosed : ∀ type ∈ types, ∀ σ, type.rename σ = type) :
    ∃ σ, (({} : Registry).append types).Renamed σ (({} : Registry).append types') := by
  obtain ⟨σ, hFixed, hGet⟩ := exists_perm_getElem? h
  refine ⟨placePerm σ, ?_, fun id hSize => ?_, fun id => ?_⟩
  · rw [size_append, size_append, h.length_eq]
  · rw [size_append, size_empty, Nat.zero_add] at hSize
    exact congrArg TypeId.mk (hFixed id.index hSize)
  · rw [get?_append_of_le (Nat.zero_le _), get?_append_of_le (Nat.zero_le _)]
    change types'[σ id.index - 0]? = (types[id.index - 0]?).map (NamedType.rename (placePerm σ))
    rw [Nat.sub_zero, Nat.sub_zero, hGet]
    cases hType : types[id.index]? with
    | none => rfl
    | some type =>
        exact congrArg some (hClosed type (List.mem_of_getElem? hType) (placePerm σ)).symm

end Csdl
