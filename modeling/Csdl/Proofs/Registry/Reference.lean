import Csdl.Proofs.Registry.Growth

/-! What references denote. A reference denotes a scalar, a registered type of its name, or the
point record; only the point record can be denoted before it is registered. A reference denotes
the same in every later state of a registry. -/
namespace Csdl

open Query (bind_eq_ok)

/-- Whether a reference stands for the built-in point record once aliases are replaced. -/
def AliasTable.denotesPoint (aliases : AliasTable) (reference : String) : Bool :=
  match splitQualified? (Text.trim reference) with
  | none => false
  | some (space, leaf) => aliases.resolve space ++ "." ++ leaf = "Edm.GeographyPoint"

namespace EdmType

theorem isEdmName_iff {name : String} :
    isEdmName name = true ↔ ['E', 'd', 'm', '.'] <+: name.toList := by
  rw [isEdmName, Option.isSome_iff_exists]
  exact exists_congr fun rest => Text.cutStart?_eq_some_iff.trans eq_comm

theorem parse_eq_point {name : String} :
    parse name = .ok .geographyPoint ↔ name = "Edm.GeographyPoint" := by
  unfold parse ofName?
  by_cases h : name = "Edm.GeographyPoint"
  · simp [h]
  · cases primitiveNames.lookup name <;> simp [h]

/-- There is one dot only in the name of the point record. -/
theorem qualified_eq_point {space leaf : String} :
    space ++ "." ++ leaf = "Edm.GeographyPoint" ↔ space = edmNamespace ∧ leaf = pointName := by
  constructor
  · intro h
    have hSpace : '.' ∉ edmNamespace.toList := by decide
    have hLeaf : '.' ∉ pointName.toList := by decide
    have hParts := (List.append_cons_inj_of_notMem hSpace hLeaf).1
      (show edmNamespace.toList ++ '.' :: pointName.toList = space.toList ++ '.' :: leaf.toList by
        simpa [edmNamespace, pointName] using (congrArg String.toList h).symm)
    exact ⟨String.toList_inj.1 hParts.1.symm, String.toList_inj.1 hParts.2.2.symm⟩
  · rintro ⟨rfl, rfl⟩
    decide

end EdmType

namespace Registry

section Routes

variable {r : Registry} {aliases : AliasTable} {reference space leaf : String}

theorem refer_of_split_eq_none (h : splitQualified? (Text.trim reference) = none) :
    r.refer aliases reference = .error (.unknownReference (Text.trim reference)) := by
  simp only [refer, h]

/-- A built-in name denotes a scalar or the point record. -/
theorem refer_of_isEdmName
    (hSplit : splitQualified? (Text.trim reference) = some (space, leaf))
    (hEdm : EdmType.isEdmName (aliases.resolve space ++ "." ++ leaf) = true) :
    r.refer aliases reference =
      match EdmType.parse (aliases.resolve space ++ "." ++ leaf) with
      | .error error => .error error
      | .ok (.primitive kind) => .ok (.primitive kind)
      | .ok .geographyPoint => .ok (.named r.pointId) := by
  rw [refer, hSplit]
  exact if_pos hEdm

/-- Any other name denotes the registered type of that name. -/
theorem refer_of_not_isEdmName
    (hSplit : splitQualified? (Text.trim reference) = some (space, leaf))
    (hEdm : EdmType.isEdmName (aliases.resolve space ++ "." ++ leaf) = false) :
    r.refer aliases reference =
      match r.lookup (aliases.resolve space) leaf with
      | some id => .ok (.named id)
      | none => .error (.unknownReference (Text.trim reference)) := by
  rw [refer, hSplit]
  exact if_neg (Bool.eq_false_iff.1 hEdm)

theorem denotesPoint_of_split
    (hSplit : splitQualified? (Text.trim reference) = some (space, leaf)) :
    aliases.denotesPoint reference = true ↔
      EdmType.parse (aliases.resolve space ++ "." ++ leaf) = .ok .geographyPoint := by
  simp only [AliasTable.denotesPoint, hSplit, decide_eq_true_eq, EdmType.parse_eq_point]

end Routes

/-- The two ways for a reference to denote a registered type. -/
theorem refer_eq_named {r : Registry} {aliases : AliasTable} {reference : String} {id : TypeId} :
    r.refer aliases reference = .ok (.named id) ↔
      (aliases.denotesPoint reference = true ∧ id = r.pointId) ∨
      ∃ space leaf, splitQualified? (Text.trim reference) = some (space, leaf) ∧
        EdmType.isEdmName (aliases.resolve space ++ "." ++ leaf) = false ∧
        r.lookup (aliases.resolve space) leaf = some id := by
  cases hSplit : splitQualified? (Text.trim reference) with
  | none => simp [refer_of_split_eq_none hSplit, AliasTable.denotesPoint, hSplit]
  | some parts =>
      obtain ⟨space, leaf⟩ := parts
      rw [denotesPoint_of_split hSplit]
      -- a built-in name denotes the point record at most, and any other name never does
      cases hEdm : EdmType.isEdmName (aliases.resolve space ++ "." ++ leaf) with
      | true =>
          rw [refer_of_isEdmName hSplit hEdm]
          constructor
          · intro h
            cases hParse : EdmType.parse (aliases.resolve space ++ "." ++ leaf) with
            | error error => simp [hParse] at h
            | ok type =>
                cases type with
                | primitive kind => simp [hParse] at h
                | geographyPoint =>
                    simp only [hParse, Except.ok.injEq, TypeRef.named.injEq] at h
                    exact .inl ⟨rfl, h.symm⟩
          · rintro (⟨hParse, rfl⟩ | ⟨_, _, hEq, hNot, _⟩)
            · rw [hParse]
            · cases hEq
              rw [hEdm] at hNot
              cases hNot
      | false =>
          rw [refer_of_not_isEdmName hSplit hEdm]
          constructor
          · intro h
            cases hFound : r.lookup (aliases.resolve space) leaf with
            | none => simp [hFound] at h
            | some found =>
                simp only [hFound, Except.ok.injEq, TypeRef.named.injEq] at h
                exact .inr ⟨space, leaf, rfl, hEdm, h ▸ hFound⟩
          · rintro (⟨hParse, _⟩ | ⟨_, _, hEq, _, hFound⟩)
            · rw [EdmType.parse_eq_point.1 hParse] at hEdm
              exact absurd hEdm (by decide)
            · cases hEq
              rw [hFound]

/-- Scalars are denoted whatever is registered. -/
theorem refer_eq_primitive {r r' : Registry} {aliases : AliasTable} {reference : String}
    {kind : Primitive} (h : r.refer aliases reference = .ok (.primitive kind)) :
    r'.refer aliases reference = .ok (.primitive kind) := by
  cases hSplit : splitQualified? (Text.trim reference) with
  | none =>
      rw [refer_of_split_eq_none hSplit] at h
      cases h
  | some parts =>
      cases hEdm : EdmType.isEdmName (aliases.resolve parts.1 ++ "." ++ parts.2) with
      | true =>
          rw [refer_of_isEdmName hSplit hEdm] at h ⊢
          split at h
          · cases h
          · exact h
          · cases h
      | false =>
          rw [refer_of_not_isEdmName hSplit hEdm] at h
          split at h <;> cases h

theorem pointId_of_lookup {r : Registry} {id : TypeId}
    (h : r.lookup EdmType.edmNamespace EdmType.pointName = some id) : r.pointId = id := by
  rw [pointId, h]
  rfl

/-- Where the point record is not registered, it is added with the next place. -/
theorem withPoint_cases (r : Registry) :
    (∃ id, r.lookup EdmType.edmNamespace EdmType.pointName = some id ∧ r.pointId = id ∧
      r.withPoint = r) ∨
    (r.lookup EdmType.edmNamespace EdmType.pointName = none ∧ r.pointId = r.nextId ∧
      r.withPoint = r.push (.structured pointRecord)) := by
  unfold withPoint pointId
  cases r.lookup EdmType.edmNamespace EdmType.pointName <;> simp

theorem keeps_withPoint (r : Registry) : r.Keeps r.withPoint := by
  rcases r.withPoint_cases with ⟨_, _, _, hEq⟩ | ⟨_, _, hEq⟩
  · rw [hEq]
    exact Keeps.refl r
  · rw [hEq, ← append_singleton]
    exact keeps_append r _

theorem Distinct.withPoint {r : Registry} (h : r.Distinct) : r.withPoint.Distinct := by
  rcases r.withPoint_cases with ⟨_, _, _, hEq⟩ | ⟨hFresh, _, hEq⟩
  · rwa [hEq]
  · rw [hEq]
    exact h.push hFresh

theorem pointId_lt_size_withPoint (r : Registry) : r.pointId.index < r.withPoint.size := by
  rcases r.withPoint_cases with ⟨id, hFound, hId, hEq⟩ | ⟨_, hId, hEq⟩
  · obtain ⟨_, hType, _⟩ := get?_of_lookup hFound
    rw [hId, hEq]
    exact lt_size_of_get? hType
  · rw [hId, hEq, size_push]
    exact Nat.lt_succ_self _

/-- Registries with the same outline have the same outline with their point records. -/
theorem outline_withPoint_eq {r r' : Registry} (h : r'.outline = r.outline) :
    r'.withPoint.outline = r.withPoint.outline := by
  rcases r.withPoint_cases with ⟨id, hFound, _, hEq⟩ | ⟨hFresh, _, hEq⟩
  · rw [hEq, ← h]
    rw [← lookup_eq_of_outline_eq h] at hFound
    simp only [withPoint, hFound]
  · rw [hEq, outline_push, ← h]
    rw [← lookup_eq_of_outline_eq h] at hFresh
    simp only [withPoint, hFresh, outline_push]

/-- A registered type that a reference denotes is there, or it is the point record. -/
theorem lt_size_or_eq_pointId {r : Registry} {aliases : AliasTable} {reference : String}
    {id : TypeId} (h : r.refer aliases reference = .ok (.named id)) :
    id.index < r.size ∨ id = r.pointId := by
  rcases refer_eq_named.1 h with ⟨_, rfl⟩ | ⟨_, _, _, _, hFound⟩
  · exact .inr rfl
  · obtain ⟨_, hType, _⟩ := get?_of_lookup hFound
    exact .inl (lt_size_of_get? hType)

/-- Later states agree on a reference, if they agree on the place of the point record. -/
theorem Keeps.refer {r r' : Registry} (h : r.Keeps r') (hDistinct : r'.Distinct)
    {aliases : AliasTable} {reference : String} {type : TypeRef}
    (hPoint : aliases.denotesPoint reference = true → r'.pointId = r.pointId)
    (hType : r.refer aliases reference = .ok type) : r'.refer aliases reference = .ok type := by
  cases type with
  | primitive kind => exact refer_eq_primitive hType
  | named id =>
      rcases refer_eq_named.1 hType with ⟨hDenotes, rfl⟩ | ⟨space, leaf, hSplit, hEdm, hFound⟩
      · exact refer_eq_named.2 (.inl ⟨hDenotes, (hPoint hDenotes).symm⟩)
      · exact refer_eq_named.2 (.inr ⟨space, leaf, hSplit, hEdm, h.lookup hDistinct hFound⟩)

end Registry

end Csdl
