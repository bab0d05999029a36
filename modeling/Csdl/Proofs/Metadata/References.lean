import Csdl.Proofs.Metadata.Naming
import Csdl.Proofs.Registry.Tables
import Csdl.Proofs.Text.Blank

/-! The rules by which a reference is resolved. It is trimmed, cut at its last dot, and the part in
front is replaced once if it is an alias; the name that comes out is a built-in one or leads to the
registered type that has it. Nothing but the point record is added on the way, and nothing at all
where a reference is refused. -/
namespace Csdl

/-- The two parts of a qualified name around its last dot. -/
structure IsCut (name space leaf : String) : Prop where
  name_eq : name = space ++ "." ++ leaf
  leaf_undotted : '.' ∉ leaf.toList
  space_named : space ≠ ""
  leaf_named : leaf ≠ ""

/-- A name is split exactly where it is cut at its last dot. -/
theorem splitQualified?_eq_some_iff {name space leaf : String} :
    splitQualified? name = some (space, leaf) ↔ IsCut name space leaf := by
  rw [splitQualified?_eq_some]
  constructor
  · rintro ⟨hName, hDot, hSpace, hLeaf⟩
    exact ⟨String.toList_inj.1 (by simpa using hName), hDot, hSpace, hLeaf⟩
  · rintro ⟨rfl, hDot, hSpace, hLeaf⟩
    exact ⟨by simp, hDot, hSpace, hLeaf⟩

namespace AliasTable

variable {records : List (String × String)} {name space target : String}

/-- The table of some aliases that are recorded one after the other. -/
def ofRecords (records : List (String × String)) : AliasTable :=
  records.foldl (fun table record => table.register record.1 record.2) {}

/-- The namespace that was recorded last under a name. -/
def LastRecorded (records : List (String × String)) (name space : String) : Prop :=
  ∃ before written behind, records = before ++ (written, space) :: behind ∧
    Text.Trims written name ∧ name ≠ "" ∧ ∀ later ∈ behind, ¬Text.Trims later.1 name

/-- What the part of a reference in front of its last dot stands for. An alias stands for its
namespace even if that is an alias itself. -/
inductive StandsFor (records : List (String × String)) (space : String) : String → Prop
  | recorded {target : String} (last : LastRecorded records space target) :
      StandsFor records space target
  | itself (free : ∀ target, ¬LastRecorded records space target) : StandsFor records space space

/-- One more alias takes the place of an earlier one of that name and of no other. -/
theorem lastRecorded_append_singleton {record : String × String} :
    LastRecorded (records ++ [record]) name space ↔
      if Text.trim record.1 ≠ "" ∧ Text.trim record.1 = name then record.2 = space
      else LastRecorded records name space := by
  constructor
  · rintro ⟨before, written, behind, hEq, hWritten, hName, hBehind⟩
    rcases List.eq_nil_or_concat behind with rfl | ⟨front, last, rfl⟩
    · obtain ⟨rfl, hLast⟩ := List.append_inj' hEq rfl
      cases hLast
      rw [← Text.trim_eq_iff] at hWritten
      rw [if_pos ⟨hWritten ▸ hName, hWritten⟩]
    · rw [List.concat_eq_append, ← List.cons_append, ← List.append_assoc] at hEq
      obtain ⟨rfl, hLast⟩ := List.append_inj' hEq rfl
      cases hLast
      have hOther : ¬Text.trim record.1 = name := by
        rw [Text.trim_eq_iff]
        exact hBehind record (by simp)
      rw [if_neg fun hSame => hOther hSame.2]
      exact ⟨before, written, front, rfl, hWritten, hName,
        fun later hLater => hBehind later (by simp [hLater])⟩
  · intro h
    split at h
    · next hSame =>
        obtain ⟨hNamed, hTrim⟩ := hSame
        exact ⟨records, record.1, [], by rw [← h], Text.trim_eq_iff.1 hTrim, hTrim ▸ hNamed,
          by simp⟩
    · next hOther =>
        obtain ⟨before, written, behind, rfl, hWritten, hName, hBehind⟩ := h
        refine ⟨before, written, behind ++ [record], by simp, hWritten, hName, ?_⟩
        intro later hLater hTrims
        rcases List.mem_append.1 hLater with hHere | hLast
        · exact hBehind later hHere hTrims
        · obtain rfl := List.mem_singleton.1 hLast
          have hTrim := Text.trim_eq_iff.2 hTrims
          exact hOther ⟨hTrim ▸ hName, hTrim⟩

/-- The table of aliases leads from a name to the namespace that was recorded last under it. -/
theorem lookup_ofRecords : (ofRecords records).entries.lookup name = some space ↔
    LastRecorded records name space := by
  induction records using List.reverseRecOn with
  | nil => simp [ofRecords, LastRecorded]
  | append_singleton records record ih =>
      have hLast : ofRecords (records ++ [record]) =
          (ofRecords records).register record.1 record.2 := by
        simp only [ofRecords, List.foldl_append, List.foldl_cons, List.foldl_nil]
      rw [hLast, lookup_register, lastRecorded_append_singleton, ← ih]
      split <;> simp

/-- A name is resolved to what was recorded last under it, and to itself where nothing was. -/
theorem resolve_ofRecords : (ofRecords records).resolve space = target ↔
    StandsFor records space target := by
  have hFree : (ofRecords records).entries.lookup space = none ↔
      ∀ target, ¬LastRecorded records space target := by
    simp only [← lookup_ofRecords, Option.eq_none_iff_forall_ne_some, ne_eq]
  constructor
  · rintro rfl
    unfold resolve
    cases hFound : (ofRecords records).entries.lookup space with
    | none => exact .itself (hFree.1 hFound)
    | some target => exact .recorded (lookup_ofRecords.1 hFound)
  · intro h
    cases h with
    | recorded last => rw [resolve, lookup_ofRecords.2 last, Option.getD_some]
    | itself free => rw [resolve, hFree.2 free, Option.getD_none]

end AliasTable

namespace EdmType

/-- Each name of a scalar kind is listed once, and none is the name of the point record. -/
theorem ofName?_eq_primitive {name : String} {kind : Primitive} :
    ofName? name = some (.primitive kind) ↔ (name, kind) ∈ primitiveNames := by
  constructor
  · intro h
    unfold ofName? at h
    split at h
    · cases h
    · obtain ⟨found, hFound, hKind⟩ := Option.map_eq_some_iff.1 h
      cases hKind
      obtain ⟨before, behind, hEq, _⟩ := List.lookup_eq_some_iff.1 hFound
      rw [hEq]
      simp
  · intro h
    have hListed : ∀ entry ∈ primitiveNames, ofName? entry.1 = some (.primitive entry.2) := by
      decide
    exact hListed _ h

theorem ofName?_eq_point {name : String} :
    ofName? name = some .geographyPoint ↔ name = "Edm.GeographyPoint" := by
  unfold ofName?
  split <;> simp_all

/-- A name is that of no built-in type exactly if it is neither listed nor that of the point record. -/
theorem ofName?_eq_none {name : String} : ofName? name = none ↔
    name ≠ "Edm.GeographyPoint" ∧ ∀ kind, (name, kind) ∉ primitiveNames := by
  rw [Option.eq_none_iff_forall_ne_some]
  constructor
  · intro h
    exact ⟨fun hPoint => h _ (ofName?_eq_point.2 hPoint),
      fun kind hListed => h _ (ofName?_eq_primitive.2 hListed)⟩
  · rintro ⟨hPoint, hListed⟩ (kind | _) hFound
    · exact hListed kind (ofName?_eq_primitive.1 hFound)
    · exact hPoint (ofName?_eq_point.1 hFound)

end EdmType

namespace Registry

/-- What a name denotes that a reference stands for, and the registry behind it. A name that begins
like a built-in one is not looked up, but the point record is. -/
inductive Denotes (r : Registry) (reference space leaf : String) :
    Except Error TypeRef → Registry → Prop
  | scalar {kind : Primitive} (listed : (space ++ "." ++ leaf, kind) ∈ EdmType.primitiveNames) :
      Denotes r reference space leaf (.ok (.primitive kind)) r
  | point {id : TypeId} {type : NamedType} (named : space ++ "." ++ leaf = "Edm.GeographyPoint")
      (registered : r.get? id = some type) (key_eq : type.key = (space, leaf)) :
      Denotes r reference space leaf (.ok (.named id)) r
  | newPoint (named : space ++ "." ++ leaf = "Edm.GeographyPoint")
      (free : ∀ id type, r.get? id = some type → type.key ≠ (space, leaf)) :
      Denotes r reference space leaf (.ok (.named r.nextId)) (r.push (.structured pointRecord))
  | unknownScalar (builtIn : "Edm.".toList <+: (space ++ "." ++ leaf).toList)
      (unnamed : space ++ "." ++ leaf ≠ "Edm.GeographyPoint")
      (unlisted : ∀ kind, (space ++ "." ++ leaf, kind) ∉ EdmType.primitiveNames) :
      Denotes r reference space leaf (.error (.unknownPrimitive (space ++ "." ++ leaf))) r
  | registered {id : TypeId} {type : NamedType}
      (outside : ¬"Edm.".toList <+: (space ++ "." ++ leaf).toList)
      (registered : r.get? id = some type) (key_eq : type.key = (space, leaf)) :
      Denotes r reference space leaf (.ok (.named id)) r
  | unregistered (outside : ¬"Edm.".toList <+: (space ++ "." ++ leaf).toList)
      (free : ∀ id type, r.get? id = some type → type.key ≠ (space, leaf)) :
      Denotes r reference space leaf (.error (.unknownReference reference)) r

/-- The rules by which a reference is resolved: its answer, and the registry behind it. -/
inductive Resolves (r : Registry) (records : List (String × String)) (reference : String) :
    Except Error TypeRef → Registry → Prop
  | unqualified {name : String} (trims : Text.Trims reference name)
      (uncut : ∀ space leaf, ¬IsCut name space leaf) :
      Resolves r records reference (.error (.unknownReference name)) r
  | qualified {name space leaf target : String} {answer : Except Error TypeRef} {later : Registry}
      (trims : Text.Trims reference name) (cut : IsCut name space leaf)
      (stands : AliasTable.StandsFor records space target)
      (denotes : r.Denotes name target leaf answer later) : Resolves r records reference answer later

/-- The answer to a reference, and the registry behind it. -/
def resolved (r : Registry) (aliases : AliasTable) (reference : String) :
    Except Error TypeRef × Registry :=
  match r.resolve aliases reference with
  | .ok (type, later) => (.ok type, later)
  | .error error => (.error error, r)

/-- What a name denotes that a reference stands for, and the registry behind it. -/
def denoted (r : Registry) (reference space leaf : String) : Except Error TypeRef × Registry :=
  match EdmType.isEdmName (space ++ "." ++ leaf), EdmType.ofName? (space ++ "." ++ leaf) with
  | true, some (.primitive kind) => (.ok (.primitive kind), r)
  | true, some .geographyPoint => (.ok (.named r.pointId), r.withPoint)
  | true, none => (.error (.unknownPrimitive (space ++ "." ++ leaf)), r)
  | false, _ =>
    match r.lookup space leaf with
    | some id => (.ok (.named id), r)
    | none => (.error (.unknownReference reference), r)

end Registry

/-- Resolves a reference in tables. Each table is left alone, unless the point record is used. -/
def Tables.resolve (t : Tables) (aliases : AliasTable) (reference : String) :
    Except Error TypeRef × Tables :=
  let name := Text.trim reference
  match splitQualified? name with
  | none => (.error (.unknownReference name), t)
  | some (space, leaf) =>
    let space := aliases.resolve space
    let qualified := space ++ "." ++ leaf
    if EdmType.isEdmName qualified then
      match EdmType.parse qualified with
      | .error error => (.error error, t)
      | .ok (.primitive kind) => (.ok (.primitive kind), t)
      | .ok .geographyPoint =>
        match t.usePoint with
        | (answer, later) => (answer.map .named, later)
    else
      match t.lookup space leaf with
      | some id => (.ok (.named id), t)
      | none => (.error (.unknownReference name), t)

namespace Registry

variable {r : Registry} {aliases : AliasTable} {reference : String}

theorem resolved_of_uncut (h : splitQualified? (Text.trim reference) = none) :
    r.resolved aliases reference = (.error (.unknownReference (Text.trim reference)), r) := by
  rw [resolved, resolve, refer_of_split_eq_none h]
  rfl

/-- A qualified reference denotes what its name does once the alias in it is replaced. -/
theorem resolved_of_split {space leaf : String}
    (hSplit : splitQualified? (Text.trim reference) = some (space, leaf)) :
    r.resolved aliases reference = r.denoted (Text.trim reference) (aliases.resolve space) leaf := by
  unfold denoted
  cases hEdm : EdmType.isEdmName (aliases.resolve space ++ "." ++ leaf) with
  | true =>
      rw [resolved, resolve, refer_of_isEdmName hSplit hEdm, EdmType.parse]
      rcases EdmType.ofName? (aliases.resolve space ++ "." ++ leaf) with _ | (kind | _)
      · rfl
      · rfl
      · exact congrArg (Prod.mk _) (extendFor_pointId r)
  | false =>
      rw [resolved, resolve, refer_of_not_isEdmName hSplit hEdm]
      cases hFound : r.lookup (aliases.resolve space) leaf with
      | none => rfl
      | some id =>
          obtain ⟨type, hType, _⟩ := get?_of_lookup hFound
          exact congrArg (Prod.mk _) (extendFor_of_lt (lt_size_of_get? hType))

theorem denoted_point (r : Registry) (name : String) :
    r.denoted name EdmType.edmNamespace EdmType.pointName = (.ok (.named r.pointId), r.withPoint) :=
  rfl

/-- Outside of the built-in namespace a name denotes what is registered under it. -/
theorem denoted_of_outside {name space leaf : String}
    (h : ¬"Edm.".toList <+: (space ++ "." ++ leaf).toList) :
    r.denoted name space leaf = match r.lookup space leaf with
      | some id => (.ok (.named id), r)
      | none => (.error (.unknownReference name), r) := by
  have hEdm : EdmType.isEdmName (space ++ "." ++ leaf) = false := by
    rw [Bool.eq_false_iff, ne_eq, EdmType.isEdmName_iff]
    exact h
  rw [denoted, hEdm]

/-- Each name has the rule that it is denoted by. -/
theorem denotes_denoted (r : Registry) (name space leaf : String) :
    r.Denotes name space leaf (r.denoted name space leaf).1 (r.denoted name space leaf).2 := by
  by_cases hEdm : "Edm.".toList <+: (space ++ "." ++ leaf).toList
  · unfold denoted
    rw [EdmType.isEdmName_iff.2 hEdm]
    rcases hName : EdmType.ofName? (space ++ "." ++ leaf) with _ | (kind | _)
    · obtain ⟨hPoint, hListed⟩ := EdmType.ofName?_eq_none.1 hName
      exact .unknownScalar hEdm hPoint hListed
    · exact .scalar (EdmType.ofName?_eq_primitive.1 hName)
    · have hPoint := EdmType.ofName?_eq_point.1 hName
      obtain ⟨rfl, rfl⟩ := EdmType.qualified_eq_point.1 hPoint
      rcases r.withPoint_cases with ⟨id, hFound, hId, hSame⟩ | ⟨hFree, hId, hPush⟩
      · obtain ⟨type, hType, hKey⟩ := get?_of_lookup hFound
        rw [hId, hSame]
        exact .point hPoint hType hKey
      · rw [hId, hPush]
        exact .newPoint hPoint (lookup_eq_none_iff.1 hFree)
  · rw [denoted_of_outside hEdm]
    cases hFound : r.lookup space leaf with
    | some id =>
        obtain ⟨type, hType, hKey⟩ := get?_of_lookup hFound
        exact .registered hEdm hType hKey
    | none => exact .unregistered hEdm (lookup_eq_none_iff.1 hFound)

/-- No two rules are about one name, as no two types have one. -/
theorem Denotes.denoted_eq {name space leaf : String} {answer : Except Error TypeRef}
    {later : Registry} (h : r.Denotes name space leaf answer later) (hDistinct : r.Distinct) :
    r.denoted name space leaf = (answer, later) := by
  cases h with
  | scalar listed =>
      have hName := EdmType.ofName?_eq_primitive.2 listed
      have hEdm := EdmType.isEdmName_of_ofName? (Option.isSome_of_eq_some hName)
      rw [denoted, hEdm, hName]
  | point named registered key_eq =>
      obtain ⟨rfl, rfl⟩ := EdmType.qualified_eq_point.1 named
      have hFound := hDistinct.lookup_eq_some_iff.2 ⟨_, registered, key_eq⟩
      rw [denoted_point, pointId_of_lookup hFound, withPoint, hFound]
  | newPoint named free =>
      obtain ⟨rfl, rfl⟩ := EdmType.qualified_eq_point.1 named
      have hFree := lookup_eq_none_iff.2 free
      rw [denoted_point, pointId, withPoint, hFree]
      rfl
  | unknownScalar builtIn unnamed unlisted =>
      rw [denoted, EdmType.isEdmName_iff.2 builtIn, EdmType.ofName?_eq_none.2 ⟨unnamed, unlisted⟩]
  | registered outside registered key_eq =>
      rw [denoted_of_outside outside, hDistinct.lookup_eq_some_iff.2 ⟨_, registered, key_eq⟩]
  | unregistered outside free =>
      rw [denoted_of_outside outside, lookup_eq_none_iff.2 free]

/-- A reference is resolved by the rules. -/
theorem resolves_iff (hDistinct : r.Distinct) {records : List (String × String)}
    {answer : Except Error TypeRef} {later : Registry} :
    r.Resolves records reference answer later ↔
      r.resolved (.ofRecords records) reference = (answer, later) := by
  constructor
  · intro h
    cases h with
    | unqualified trims uncut =>
        obtain rfl := Text.trim_eq_iff.2 trims
        apply resolved_of_uncut
        rw [Option.eq_none_iff_forall_ne_some]
        rintro ⟨space, leaf⟩ hSplit
        exact uncut space leaf (splitQualified?_eq_some_iff.1 hSplit)
    | qualified trims cut stands denotes =>
        obtain rfl := Text.trim_eq_iff.2 trims
        rw [resolved_of_split (splitQualified?_eq_some_iff.2 cut),
          AliasTable.resolve_ofRecords.2 stands]
        exact denotes.denoted_eq hDistinct
  · intro h
    have hTrims := Text.trim_eq_iff.1 (Eq.refl (Text.trim reference))
    cases hSplit : splitQualified? (Text.trim reference) with
    | none =>
        rw [resolved_of_uncut hSplit, Prod.mk.injEq] at h
        obtain ⟨rfl, rfl⟩ := h
        refine .unqualified hTrims fun space leaf hCut => ?_
        rw [splitQualified?_eq_some_iff.2 hCut] at hSplit
        cases hSplit
    | some parts =>
        obtain ⟨space, leaf⟩ := parts
        rw [resolved_of_split hSplit] at h
        have hDenotes := r.denotes_denoted (Text.trim reference)
          ((AliasTable.ofRecords records).resolve space) leaf
        rw [h] at hDenotes
        exact .qualified hTrims (splitQualified?_eq_some_iff.1 hSplit)
          (AliasTable.resolve_ofRecords.1 rfl) hDenotes

theorem resolve_eq_ok_iff_resolved {type : TypeRef} {later : Registry} :
    r.resolve aliases reference = .ok (type, later) ↔
      r.resolved aliases reference = (.ok type, later) := by
  unfold resolved
  cases r.resolve aliases reference <;> simp [Prod.ext_iff]

/-- Only what is told of a refusal depends on the reference that stands for a name. -/
theorem denoted_eq_ok_iff {name other space leaf : String} {type : TypeRef} {later : Registry} :
    r.denoted name space leaf = (.ok type, later) ↔
      r.denoted other space leaf = (.ok type, later) := by
  by_cases hEdm : "Edm.".toList <+: (space ++ "." ++ leaf).toList
  · unfold denoted
    rw [EdmType.isEdmName_iff.2 hEdm]
    rcases EdmType.ofName? (space ++ "." ++ leaf) with _ | (kind | _) <;> rfl
  · rw [denoted_of_outside hEdm, denoted_of_outside hEdm]
    cases r.lookup space leaf <;> simp

/-- References that stand for the same name denote the same. -/
theorem resolve_eq_ok_iff_of_target? {other : String} {type : TypeRef} {later : Registry}
    (h : aliases.target? reference = aliases.target? other) :
    r.resolve aliases reference = .ok (type, later) ↔
      r.resolve aliases other = .ok (type, later) := by
  rw [resolve_eq_ok_iff_resolved, resolve_eq_ok_iff_resolved]
  unfold AliasTable.target? at h
  cases hHere : splitQualified? (Text.trim reference) with
  | none =>
      rw [hHere, Option.map_none, eq_comm, Option.map_eq_none_iff] at h
      simp [resolved_of_uncut hHere, resolved_of_uncut h]
  | some parts =>
      rw [hHere, Option.map_some, eq_comm, Option.map_eq_some_iff] at h
      obtain ⟨others, hThere, hSame⟩ := h
      obtain ⟨hSpace, hLeaf⟩ := Prod.mk.inj hSame
      rw [resolved_of_split hHere, resolved_of_split hThere, hSpace, hLeaf]
      exact denoted_eq_ok_iff

end Registry

namespace Tables

variable {t : Tables} {r : Registry}

/-- Tables answer a reference like the registry that they represent. -/
theorem Represents.resolve (h : t.Represents r) (aliases : AliasTable) (reference : String) :
    (t.resolve aliases reference).1 = (r.resolved aliases reference).1 ∧
      (t.resolve aliases reference).2.Represents (r.resolved aliases reference).2 := by
  cases hSplit : splitQualified? (Text.trim reference) with
  | none =>
      simp only [Registry.resolved_of_uncut hSplit, Tables.resolve, hSplit]
      exact ⟨trivial, h⟩
  | some parts =>
      obtain ⟨space, leaf⟩ := parts
      simp only [Registry.resolved_of_split hSplit, Tables.resolve, hSplit, Registry.denoted]
      cases hEdm : EdmType.isEdmName (aliases.resolve space ++ "." ++ leaf) with
      | true =>
          rw [EdmType.parse]
          rcases EdmType.ofName? (aliases.resolve space ++ "." ++ leaf) with _ | (kind | _)
          · exact ⟨rfl, h⟩
          · exact ⟨rfl, h⟩
          · exact ⟨congrArg (Except.map TypeRef.named) h.usePoint.1, h.usePoint.2⟩
      | false =>
          rw [h.lookup_eq]
          cases r.lookup (aliases.resolve space) leaf with
          | none => exact ⟨rfl, h⟩
          | some id => exact ⟨rfl, h⟩

theorem register_of_free {type : NamedType} (h : t.lookup type.namespaceName type.name = none) :
    (t.register type).1 = .ok ⟨t.types.size⟩ := by
  have hFree : ¬t.names.contains type.key := by
    rw [Std.HashMap.contains_eq_isSome_getElem?, Option.not_isSome_iff_eq_none]
    exact h
  rw [Tables.register, if_neg hFree]

/-- No table is changed, unless the reference is the first one to the point record. -/
theorem resolve_cases (t : Tables) (aliases : AliasTable) (reference : String) :
    (t.resolve aliases reference).2 = t ∨
      t.lookup EdmType.edmNamespace EdmType.pointName = none ∧
        t.resolve aliases reference = (.ok (.named ⟨t.types.size⟩),
          (t.register (.structured Registry.pointRecord)).2) := by
  unfold resolve
  dsimp only
  split
  · exact .inl rfl
  · split
    · split
      · exact .inl rfl
      · exact .inl rfl
      · unfold usePoint
        cases hPoint : t.lookup EdmType.edmNamespace EdmType.pointName with
        | some id => exact .inl rfl
        | none =>
            have hAnswer : (t.register (.structured Registry.pointRecord)).1 =
                .ok ⟨t.types.size⟩ := register_of_free hPoint
            refine .inr ⟨rfl, ?_⟩
            dsimp only
            rw [hAnswer]
            rfl
    · split
      · exact .inl rfl
      · exact .inl rfl

end Tables

namespace AliasTable

variable {records : List (String × String)} {name space leaf : String}

/-- Only the blanks behind a text without dots are cut off together with it. -/
theorem target?_append_dot (aliases : AliasTable) (hSpace : space ≠ "")
    (hStart : Text.trimStart space.toList = space.toList) (hDot : '.' ∉ leaf.toList) :
    aliases.target? (space ++ "." ++ leaf) =
      if Text.trimEnd leaf.toList = [] then none
      else some (aliases.resolve space, String.ofList (Text.trimEnd leaf.toList)) := by
  have hText : (Text.trim (space ++ "." ++ leaf)).toList =
      space.toList ++ '.' :: Text.trimEnd leaf.toList := by
    simp [Text.trimChars_append_dot, hStart]
  have hEnd := Text.notMem_trimEnd hDot
  have hFull : space.toList.isEmpty = false := by
    rw [List.isEmpty_eq_false_iff]
    exact fun hEmpty => hSpace (String.toList_inj.1 hEmpty)
  rw [target?, splitQualified?, hText, Text.cutAtLast?_eq_some.2 ⟨rfl, hEnd⟩]
  by_cases hLeaf : Text.trimEnd leaf.toList = []
  · simp [hLeaf]
  · simp [hLeaf, hFull]

theorem LastRecorded.trimStart_eq (h : LastRecorded records name space) :
    Text.trimStart name.toList = name.toList := by
  obtain ⟨_, _, _, _, hWritten, _⟩ := h
  exact hWritten.1.trimStart_eq

/-- An alias and the namespace that it stands for lead to the same names. -/
theorem target?_of_lastRecorded (hRecorded : LastRecorded records name space)
    (hSpace : space ≠ "") (hStart : Text.trimStart space.toList = space.toList)
    (hFree : ∀ target, ¬LastRecorded records space target) (hDot : '.' ∉ leaf.toList) :
    (ofRecords records).target? (name ++ "." ++ leaf) =
      (ofRecords records).target? (space ++ "." ++ leaf) := by
  obtain ⟨_, _, _, _, _, hName, _⟩ := id hRecorded
  rw [target?_append_dot _ hName hRecorded.trimStart_eq hDot,
    target?_append_dot _ hSpace hStart hDot, resolve_ofRecords.2 (.recorded hRecorded),
    resolve_ofRecords.2 (.itself hFree)]

end AliasTable

namespace Registry

/-- A registry and its tables that answer a reference by the rules. -/
structure Answers (r : Registry) (t : Tables) (records : List (String × String))
    (reference : String) : Prop where
  resolves_iff : ∀ answer later, r.Resolves records reference answer later ↔
    r.resolved (.ofRecords records) reference = (answer, later)
  answer_eq : (t.resolve (.ofRecords records) reference).1 =
    (r.resolved (.ofRecords records) reference).1
  represents : (t.resolve (.ofRecords records) reference).2.Represents
    (r.resolved (.ofRecords records) reference).2
  unchanged : (t.resolve (.ofRecords records) reference).2 = t ∨
    t.lookup EdmType.edmNamespace EdmType.pointName = none ∧
      t.resolve (.ofRecords records) reference =
        (.ok (.named ⟨t.types.size⟩), (t.register (.structured pointRecord)).2)

/-- Whatever has been done to a registry and whatever aliases have been recorded, each reference is
answered by the rules, and an alias can be written for the namespace that it stands for. -/
theorem answers_of_run (records : List (String × String)) (changes : List Change) :
    (∀ reference, (run {} changes).Answers (Tables.run {} changes) records reference) ∧
      ∀ name space leaf, AliasTable.LastRecorded records name space → space ≠ "" →
        Text.trimStart space.toList = space.toList →
        (∀ target, ¬AliasTable.LastRecorded records space target) → '.' ∉ leaf.toList →
        ∀ type later,
          (run {} changes).resolve (.ofRecords records) (name ++ "." ++ leaf) = .ok (type, later) ↔
          (run {} changes).resolve (.ofRecords records) (space ++ "." ++ leaf) =
            .ok (type, later) := by
  have hTables := Tables.Represents.empty.run changes
  constructor
  · intro reference
    obtain ⟨hAnswer, hLater⟩ := hTables.resolve (.ofRecords records) reference
    exact ⟨fun _ _ => resolves_iff (distinct_empty.run changes), hAnswer, hLater,
      Tables.resolve_cases _ _ _⟩
  · intro name space leaf hRecorded hSpace hStart hFree hDot type later
    exact resolve_eq_ok_iff_of_target?
      (AliasTable.target?_of_lastRecorded hRecorded hSpace hStart hFree hDot)

/-- Aliases of which one is recorded twice and one is an alias of an alias. -/
def sampleRecords : List (String × String) :=
  [("Self", "Old"), ("Geo", "Edm"), (" Self ", "Shop"), ("Own", "Self")]

/-- A registry with one type in it. -/
def sampleChanges : List Change :=
  [.register (.structured { namespaceName := "Shop", name := "Order", id := "entities.Order" })]

/-- The last record of an alias counts, and an alias of an alias leads nowhere. -/
theorem answers_of_sampleChanges :
    (run {} sampleChanges).resolve (.ofRecords sampleRecords) "Self.Order " =
        .ok (.named ⟨0⟩, run {} sampleChanges) ∧
      (run {} sampleChanges).Resolves sampleRecords " Own.Order"
        (.error (.unknownReference "Own.Order")) (run {} sampleChanges) ∧
      (run {} sampleChanges).Resolves sampleRecords "Geo.GeographyPoint" (.ok (.named ⟨1⟩))
        ((run {} sampleChanges).push (.structured pointRecord)) := by
  obtain ⟨hAnswers, hAlias⟩ := answers_of_run sampleRecords sampleChanges
  refine ⟨?_, ?_, ?_⟩
  · have hRecorded : AliasTable.LastRecorded sampleRecords "Self" "Shop" :=
      AliasTable.lookup_ofRecords.1 (by decide)
    have hFree : ∀ target, ¬AliasTable.LastRecorded sampleRecords "Shop" target := by
      intro target
      rw [← AliasTable.lookup_ofRecords]
      have hNone : (AliasTable.ofRecords sampleRecords).entries.lookup "Shop" = none := by decide
      simp [hNone]
    exact (hAlias "Self" "Shop" "Order " hRecorded (by decide) (by decide) hFree (by decide)
      _ _).2 (by decide +kernel)
  · exact ((hAnswers " Own.Order").resolves_iff _ _).2 (by decide +kernel)
  · exact ((hAnswers "Geo.GeographyPoint").resolves_iff _ _).2 (by decide +kernel)

end Registry

end Csdl
