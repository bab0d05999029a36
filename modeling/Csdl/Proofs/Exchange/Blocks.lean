import Csdl.Proofs.Exchange.Recollection
import Csdl.Proofs.Renaming.Composition

/-! Blocks of types at the end of a registry that change places, and edits that are made in another
order. -/
namespace Csdl

/-- The permutation of places that exchanges two blocks behind the first places. -/
def blockPerm (before first second : ℕ) : Equiv.Perm ℕ where
  toFun i :=
    if i < before then i
    else if i < before + first then i + second
    else if i < before + first + second then i - first
    else i
  invFun i :=
    if i < before then i
    else if i < before + second then i + first
    else if i < before + second + first then i - second
    else i
  left_inv i := by
    dsimp only
    split_ifs <;> omega
  right_inv i := by
    dsimp only
    split_ifs <;> omega

theorem blockPerm_apply (before first second i : ℕ) :
    blockPerm before first second i =
      if i < before then i
      else if i < before + first then i + second
      else if i < before + first + second then i - first
      else i :=
  rfl

/-- Each element is where its block has been moved to. -/
theorem getElem?_blockPerm {α : Type} (xs ys zs : List α) (i : ℕ) :
    (xs ++ (zs ++ ys))[blockPerm xs.length ys.length zs.length i]? = (xs ++ (ys ++ zs))[i]? := by
  rw [blockPerm_apply]
  split_ifs with hBefore hFirst hSecond
  · rw [List.getElem?_append_left hBefore, List.getElem?_append_left hBefore]
  · rw [List.getElem?_append_right (by omega), List.getElem?_append_right (by omega),
      List.getElem?_append_right (by omega), List.getElem?_append_left (by omega)]
    congr 1
    omega
  · rw [List.getElem?_append_right (by omega), List.getElem?_append_left (by omega),
      List.getElem?_append_right (by omega), List.getElem?_append_right (by omega)]
    congr 1
    omega
  · rw [List.getElem?_eq_none (by simp; omega), List.getElem?_eq_none (by simp; omega)]

namespace Registry

section Exchange

variable (r : Registry) (first second : ℕ)

/-- The renaming that exchanges two blocks of types behind those of a registry. -/
def exchange : Equiv.Perm TypeId :=
  placePerm (blockPerm r.size first second)

theorem exchange_apply (i : ℕ) :
    r.exchange first second ⟨i⟩ = ⟨blockPerm r.size first second i⟩ :=
  rfl

theorem fixedBy_exchange : r.FixedBy (r.exchange first second) := by
  intro id hLt
  obtain ⟨i⟩ := id
  rw [exchange_apply, blockPerm_apply, if_pos hLt]

variable {first second}

theorem exchange_first {i : ℕ} (h : i < first) :
    r.exchange first second ⟨r.size + i⟩ = ⟨r.size + second + i⟩ := by
  rw [exchange_apply, blockPerm_apply, if_neg (by omega), if_pos (by omega), TypeId.mk.injEq]
  omega

theorem exchange_second {i : ℕ} (h : i < second) :
    r.exchange first second ⟨r.size + first + i⟩ = ⟨r.size + i⟩ := by
  rw [exchange_apply, blockPerm_apply, if_neg (by omega), if_neg (by omega), if_pos (by omega),
    TypeId.mk.injEq]
  omega

end Exchange

/-- Types that refer only to what is in front of them can be added in another order. -/
theorem renamed_exchange {r : Registry} (types types' : List NamedType)
    (hOld : ∀ id type, r.get? id = some type →
      type.rename (r.exchange types.length types'.length) = type)
    (hNew : ∀ type ∈ types ++ types', type.rename (r.exchange types.length types'.length) = type) :
    (r.append (types ++ types')).Renamed (r.exchange types.length types'.length)
      (r.append (types' ++ types)) := by
  refine ⟨?_, fun id hSize => ?_, fun id => ?_⟩
  · rw [size_append, size_append, List.length_append, List.length_append, Nat.add_comm types.length]
  · obtain ⟨i⟩ := id
    simp only [size_append, List.length_append] at hSize
    rw [exchange_apply, blockPerm_apply, if_neg (by omega), if_neg (by omega), if_neg (by omega)]
  · obtain ⟨i⟩ := id
    have hSame : (r.append (types' ++ types)).get? (r.exchange types.length types'.length ⟨i⟩) =
        (r.append (types ++ types')).get? ⟨i⟩ := by
      rw [get?_eq_getElem?, get?_eq_getElem?]
      simp only [append, Array.toList_append]
      have hPlaces := getElem?_blockPerm r.types.toList types types' i
      rwa [Array.length_toList] at hPlaces
    rw [hSame]
    cases hType : (r.append (types ++ types')).get? ⟨i⟩ with
    | none => rfl
    | some type =>
        refine congrArg some (Eq.symm ?_)
        by_cases hLt : i < r.size
        · rw [get?_append_of_lt hLt] at hType
          exact hOld _ type hType
        · rw [get?_append_of_le (Nat.le_of_not_lt hLt)] at hType
          exact hNew type (List.mem_of_getElem? hType)

/-- A structure can be edited before or after types are added. -/
theorem edit_append {r bound : Registry} {id : TypeId} {change : Structure → Structure}
    (h : r.edit id change = .ok bound) (types : List NamedType) :
    (r.append types).edit id change = .ok (bound.append types) := by
  obtain ⟨s, hStructure, _⟩ := get?_of_edit h
  have hLt : id.index < r.size := lt_size_of_get? (structure?_eq_some.1 hStructure)
  have hThere : (r.append types).structure? id = some s := by
    rw [structure?_eq_some, get?_append_of_lt hLt]
    exact structure?_eq_some.1 hStructure
  rw [edit, hStructure, Except.ok.injEq] at h
  rw [edit, hThere, ← h]
  simp only [append, Except.ok.injEq, Registry.mk.injEq]
  exact Array.setIfInBounds_append_left hLt

/-- An edit in front of added types is an edit of what they have been added to. -/
theorem exists_edit_of_append {r later : Registry} {types : List NamedType} {id : TypeId}
    {change : Structure → Structure} (hLt : id.index < r.size)
    (h : (r.append types).edit id change = .ok later) :
    ∃ bound, r.edit id change = .ok bound ∧ later = bound.append types := by
  obtain ⟨s, hStructure, _⟩ := get?_of_edit h
  rw [structure?_eq_some, get?_append_of_lt hLt, ← structure?_eq_some] at hStructure
  obtain ⟨bound, hEdit⟩ := exists_edit_of_structure? hStructure change
  exact ⟨bound, hEdit, Except.ok.inj (h.symm.trans (edit_append hEdit types))⟩

/-- Names that are given in another order differ only where both are given. -/
theorem recollected_of_edits {r first second both both' : Registry} {id id' : TypeId}
    {name name' : String} (hFirst : r.edit id (Derivation.nameCollection name) = .ok first)
    (hBoth : first.edit id' (Derivation.nameCollection name') = .ok both)
    (hSecond : r.edit id' (Derivation.nameCollection name') = .ok second)
    (hBoth' : second.edit id (Derivation.nameCollection name) = .ok both') :
    both.Recollected (fun place => place = id ∧ id = id') both' := by
  constructor
  · intro place
    rw [lasting_of_edit hBoth', lasting_of_edit hSecond, lasting_of_edit hBoth,
      lasting_of_edit hFirst]
  · intro place hPlace
    obtain ⟨s, hStructure, hGet⟩ := get?_of_edit hFirst
    obtain ⟨t, hThere, hGetBoth⟩ := get?_of_edit hBoth
    obtain ⟨t', hThere', hGet'⟩ := get?_of_edit hSecond
    obtain ⟨s', hStructure', hGetBoth'⟩ := get?_of_edit hBoth'
    rw [hGetBoth', hGet', hGetBoth, hGet]
    by_cases hSame : id = id'
    · have hOther : place ≠ id := fun hEq => hPlace ⟨hEq, hSame⟩
      rw [if_neg hOther, if_neg (hSame ▸ hOther), if_neg (hSame ▸ hOther), if_neg hOther]
    · -- each of the two structures is the same, whether the other one has been edited or not
      rw [structure?_eq_some] at hStructure hThere hThere' hStructure'
      rw [hGet, if_neg (Ne.symm hSame), hThere'] at hThere
      rw [hGet', if_neg hSame, hStructure] at hStructure'
      cases hThere
      cases hStructure'
      by_cases hHere : place = id
      · rw [if_pos hHere, if_pos hHere, if_neg (hHere ▸ hSame)]
      · rw [if_neg hHere, if_neg hHere]

end Registry

end Csdl
