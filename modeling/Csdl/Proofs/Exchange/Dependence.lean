import Csdl.Proofs.Metadata.Acceptance

/-! What a member of a container needs of the members in front of it. It looks for one type, so it
depends on another member only if that type is an extension which the other one registers; and what
it finds where it stands it also finds further in front, if it depends on nothing in between. -/
namespace Csdl

/-- A reference to the point record stands for its name. -/
theorem AliasTable.target?_of_denotesPoint {aliases : AliasTable} {reference : String}
    (h : aliases.denotesPoint reference = true) :
    aliases.target? reference = some (EdmType.edmNamespace, EdmType.pointName) := by
  unfold denotesPoint at h
  unfold target?
  cases hSplit : splitQualified? (Text.trim reference) with
  | none => simp [hSplit] at h
  | some parts =>
      obtain ⟨space, leaf⟩ := parts
      simp only [hSplit, decide_eq_true_eq] at h
      obtain ⟨hSpace, hLeaf⟩ := EdmType.qualified_eq_point.1 h
      simp only [Option.map_some, hSpace, hLeaf]

namespace Registry

/-- A name is found exactly if a type has it. -/
theorem isSome_lookup_iff {r : Registry} {key : String × String} :
    (r.lookup key.1 key.2).isSome ↔ key ∈ r.outline.map NamedType.key := by
  rw [isSome_lookup, List.any_eq_true, List.mem_map]
  exact exists_congr fun _ => and_congr_right fun _ => NamedType.hasName_iff

/-- What a reference denotes has the name that the reference stands for. -/
theorem exists_target_of_refer {r : Registry} {aliases : AliasTable} {reference : String}
    {id : TypeId} (h : r.refer aliases reference = .ok (.named id)) :
    ∃ key, aliases.target? reference = some key ∧
      ((EdmType.isEdmName (qualified key) = false ∧ r.lookup key.1 key.2 = some id) ∨
        (key = (EdmType.edmNamespace, EdmType.pointName) ∧ id = r.pointId)) := by
  rcases refer_eq_named.1 h with ⟨hDenotes, hId⟩ | ⟨space, leaf, hSplit, hEdm, hFound⟩
  · exact ⟨_, AliasTable.target?_of_denotesPoint hDenotes, .inr ⟨rfl, hId⟩⟩
  · refine ⟨(aliases.resolve space, leaf), ?_, .inl ⟨hEdm, hFound⟩⟩
    rw [AliasTable.target?, hSplit]
    rfl

end Registry

namespace MemberNode

/-- The name of the type that a member refers to. -/
def target? (aliases : AliasTable) (node : MemberNode) : Option (String × String) :=
  (node.node.attribute? node.kind.typeAttribute).bind aliases.target?

/-- A member that is bound to the point record. -/
def DenotesPoint (aliases : AliasTable) (node : MemberNode) : Prop :=
  node.target? aliases = some (EdmType.edmNamespace, EdmType.pointName)

/-- The names that extensions of a member may have, as far as its element tells: it does not tell
whether the type of the member has a primary key. -/
def possibleKeys (node : MemberNode) : List (String × String) :=
  (node.node.attribute? "Name").toList.flatMap fun name =>
    (Member.suffixes node.capabilities.flags true).map fun suffix =>
      (node.namespaceName, name ++ suffix)

/-- A member that refers to an extension of another one, and not to one of the known types. -/
def DependsOn (aliases : AliasTable) (known : List (String × String)) (node other : MemberNode) :
    Prop :=
  ∃ key ∈ node.target? aliases,
    EdmType.isEdmName (qualified key) = false ∧ key ∉ known ∧ key ∈ other.possibleKeys

instance (aliases : AliasTable) (known : List (String × String)) (node other : MemberNode) :
    Decidable (node.DependsOn aliases known other) :=
  inferInstanceAs (Decidable (∃ key ∈ node.target? aliases, _ ∧ _))

/-- Members that may be moved past each other: none of the two depends on the other one. -/
def MayPass (aliases : AliasTable) (known : List (String × String)) (node other : MemberNode) :
    Prop :=
  ¬ node.DependsOn aliases known other ∧ ¬ other.DependsOn aliases known node

instance (aliases : AliasTable) (known : List (String × String)) (node other : MemberNode) :
    Decidable (node.MayPass aliases known other) :=
  inferInstanceAs (Decidable (_ ∧ _))

theorem MayPass.symm {aliases : AliasTable} {known : List (String × String)}
    {node other : MemberNode} (h : node.MayPass aliases known other) :
    other.MayPass aliases known node :=
  ⟨h.2, h.1⟩

/-- The names that a member registers are among those that its own name can have behind it, whatever
it is bound to. -/
theorem extensionKeys_subset_possibleKeys (registry : Registry) (aliases : AliasTable)
    (node : MemberNode) : node.extensionKeys registry aliases ⊆ node.possibleKeys := by
  have hSuffixes : ∀ keyed, Member.suffixes node.capabilities.flags keyed ⊆
      Member.suffixes node.capabilities.flags true := by
    intro keyed
    unfold Member.suffixes
    cases keyed <;> cases node.capabilities.flags.updatable <;> simp
  intro key hKey
  obtain ⟨name, hName, suffix, hSuffix, rfl⟩ := mem_extensionKeys.1 hKey
  rw [possibleKeys, hName, Option.toList_some, List.flatMap_singleton]
  exact List.mem_map_of_mem (hSuffixes _ hSuffix)

end MemberNode

namespace Derivation

variable {settings : Settings} {aliases : AliasTable} {navigations : List Navigation}
  {state middle next : Derivation} {node other : MemberNode} {outcome outcome' : MemberOutcome}

theorem Derives.target?_eq (h : Derives settings aliases navigations state node outcome next) :
    node.target? aliases = aliases.target? outcome.reference := by
  rw [MemberNode.target?, Markup.required_eq_ok.1 h.reference_read, Option.bind_some]

/-- A member that finds its type where it stands is bound to that type, if the name has been there
in some earlier state. -/
theorem Derives.bound_of_found {start : Registry}
    (h : Derives settings aliases navigations state node outcome next)
    (hFollows : start.Follows state.registry)
    (hFound : ∀ key ∈ node.target? aliases, (start.lookup key.1 key.2).isSome) :
    node.Bound start aliases outcome.member.name outcome.member.entity := by
  obtain ⟨key, hTarget, hDenotes⟩ := Registry.exists_target_of_refer h.refer_eq
  obtain ⟨id, hStart⟩ :=
    Option.isSome_iff_exists.1 (hFound key (h.target?_eq.trans hTarget))
  have hHere := hFollows.keeps.lookup hFollows.distinct hStart
  have hEntity : outcome.member.entity = id := by
    rcases hDenotes with ⟨_, hLookup⟩ | ⟨rfl, hPoint⟩
    · exact Option.some.inj (hLookup.symm.trans hHere)
    · exact hPoint.trans (Registry.pointId_of_lookup hHere)
  have hOutside := hDenotes.imp And.left And.left
  rw [hEntity]
  refine ⟨Markup.required_eq_ok.1 h.name_read, ⟨outcome.reference,
    Markup.required_eq_ok.1 h.reference_read, ⟨key, hTarget, hStart⟩, fun hLater hDistinct =>
      Registry.refer_of_target hTarget hOutside (hLater.lookup hDistinct hStart)⟩, ?_⟩
  -- the type has been a structure from the start
  obtain ⟨type, hType, _⟩ := Registry.get?_of_lookup hStart
  have hLt : id.index < start.size := Registry.lt_size_of_get? hType
  obtain ⟨s, hStructure, _⟩ := Registry.get?_of_edit h.bound_eq
  rw [hEntity, Registry.extendFor_of_lt (Nat.lt_of_lt_of_le hLt hFollows.keeps.size_le)]
    at hStructure
  by_contra hNone
  rw [Option.not_isSome_iff_eq_none] at hNone
  rw [hFollows.retains.structure?_eq_none hLt hNone] at hStructure
  cases hStructure

/-- A member finds the name that it refers to, unless it adds the point record itself. -/
theorem Derives.found (h : Derives settings aliases navigations state node outcome next)
    (hPoint : node.DenotesPoint aliases →
      (state.registry.lookup EdmType.edmNamespace EdmType.pointName).isSome) :
    ∀ key ∈ node.target? aliases, (state.registry.lookup key.1 key.2).isSome := by
  intro key hKey
  obtain ⟨found, hTarget, hDenotes⟩ := Registry.exists_target_of_refer h.refer_eq
  obtain rfl : found = key := Option.some.inj (hTarget.symm.trans (h.target?_eq.symm.trans hKey))
  rcases hDenotes with ⟨_, hLookup⟩ | ⟨rfl, _⟩
  · rw [hLookup]
    rfl
  · exact hPoint hKey

/-- A member that does not depend on the one in front of it finds its type without it. -/
theorem Derives.found_before {known : List (String × String)} {name : String} {entity : TypeId}
    (first : Derives settings aliases navigations state node outcome middle)
    (second : Derives settings aliases navigations middle other outcome' next)
    (hDistinct : state.registry.Distinct) (hSound : state.registry.Sound navigations)
    (hBound : node.Bound state.registry aliases name entity)
    (hKnown : ∀ key ∈ known, (state.registry.lookup key.1 key.2).isSome)
    (hPoint : other.DenotesPoint aliases →
      (state.registry.lookup EdmType.edmNamespace EdmType.pointName).isSome)
    (hFree : ¬ other.DependsOn aliases known node) :
    ∀ key ∈ other.target? aliases, (state.registry.lookup key.1 key.2).isSome := by
  intro key hKey
  obtain ⟨found, hTarget, hDenotes⟩ := Registry.exists_target_of_refer second.refer_eq
  obtain rfl : found = key :=
    Option.some.inj (hTarget.symm.trans (second.target?_eq.symm.trans hKey))
  rcases hDenotes with ⟨hEdm, hLookup⟩ | ⟨rfl, _⟩
  · by_contra hMissing
    have hThere : found ∈ middle.registry.outline.map NamedType.key :=
      Registry.isSome_lookup_iff.1 (by rw [hLookup]; rfl)
    rw [first.map_key_outline hBound hSound hDistinct.follows] at hThere
    rcases List.mem_append.1 hThere with hOld | hNew
    · exact hMissing (Registry.isSome_lookup_iff.2 hOld)
    · exact hFree ⟨found, hKey, hEdm, fun hIn => hMissing (hKnown found hIn),
        MemberNode.extensionKeys_subset_possibleKeys _ _ _ hNew⟩
  · exact hPoint hKey

end Derivation

end Csdl
