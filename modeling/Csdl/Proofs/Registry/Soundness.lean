import Csdl.Navigation
import Csdl.Operation
import Csdl.Proofs.Registry.Inheritance

/-! When all references of a registry lead somewhere: types of fields are registered, bases and the
ends of navigations are structures, and each foreign key belongs to a navigation of its owner. What
is sound stays so in later states, where types keep their names and ids. -/
namespace Csdl

/-- A type that is registered, if it needs to be. -/
def TypeRef.ValidIn (r : Registry) (type : TypeRef) : Prop :=
  ∀ id, type = .named id → id.index < r.size

/-- A structure whose fields have valid types. -/
def Structure.ValidIn (r : Registry) (s : Structure) : Prop :=
  ∀ field ∈ s.fields, field.type.ValidIn r

/-- A foreign key that belongs to a navigation of its owner, and to the target of that. -/
def ForeignKey.SoundIn (r : Registry) (navigations : List Navigation) (owner : TypeId)
    (key : ForeignKey) : Prop :=
  ∃ n ∈ navigations, n.owner = owner ∧ n.name = key.navigation ∧
    ∃ target t, n.target? = some target ∧ r.structure? target = some t ∧ t.id = key.targetId

/-- A structure at a place whose types, foreign keys and base lead somewhere. -/
structure Structure.SoundIn (r : Registry) (navigations : List Navigation) (id : TypeId)
    (s : Structure) : Prop where
  types_valid : s.ValidIn r
  keys_sound : ∀ field ∈ s.fields, ∀ key, field.foreignKey = some key →
    key.SoundIn r navigations id
  base_structured : ∀ base, s.base = some base → (r.structure? base).isSome

/-- A navigation between structures. Its field is no foreign key itself. -/
structure Navigation.SoundIn (r : Registry) (n : Navigation) : Prop where
  type_valid : n.field.type.ValidIn r
  mapping_valid : ∀ mapping, n.updateMapping = some mapping → mapping.ValidIn r
  owner_structured : ∃ s, r.structure? n.owner = some s ∧ n.qualifiedName = s.qualifiedName
  target_structured : ∃ target, n.target? = some target ∧ (r.structure? target).isSome
  unmarked : n.field.foreignKey = none

/-- A function that takes and gives valid types. -/
def ServiceFunction.ValidIn (r : Registry) (f : ServiceFunction) : Prop :=
  f.input.ValidIn r ∧ f.output.ValidIn r

/-- A registry in which all structures and navigations are sound. -/
structure Registry.Sound (navigations : List Navigation) (r : Registry) : Prop where
  structures : ∀ id s, r.structure? id = some s → s.SoundIn r navigations id
  navigations : ∀ n ∈ navigations, n.SoundIn r

section Later

variable {r r' : Registry} {navigations : List Navigation}

theorem TypeRef.ValidIn.later {type : TypeRef} (h : type.ValidIn r) (hKeeps : r.Keeps r') :
    type.ValidIn r' :=
  fun id hId => Nat.lt_of_lt_of_le (h id hId) hKeeps.size_le

theorem Structure.ValidIn.later {s : Structure} (h : s.ValidIn r) (hKeeps : r.Keeps r') :
    s.ValidIn r' :=
  fun field hField => (h field hField).later hKeeps

/-- A structure stays a structure as the registry grows. -/
theorem Registry.Keeps.isSome_structure? (hKeeps : r.Keeps r') {id : TypeId}
    (h : (r.structure? id).isSome) : (r'.structure? id).isSome := by
  obtain ⟨s, hStructure⟩ := Option.isSome_iff_exists.1 h
  obtain ⟨later, hLater, _⟩ := hKeeps.structure? hStructure
  exact Option.isSome_iff_exists.2 ⟨later, hLater⟩

theorem ForeignKey.SoundIn.later {id : TypeId} {key : ForeignKey}
    (h : key.SoundIn r navigations id) (hKeeps : r.Keeps r') : key.SoundIn r' navigations id := by
  obtain ⟨n, hMem, hOwner, hName, target, t, hTarget, hStructure, hId⟩ := h
  obtain ⟨later, hLater, _, _, hSame⟩ := hKeeps.structure? hStructure
  exact ⟨n, hMem, hOwner, hName, target, later, hTarget, hLater, hSame.trans hId⟩

/-- A sound structure stays sound as the registry grows. -/
theorem Structure.SoundIn.later {id : TypeId} {s : Structure}
    (h : s.SoundIn r navigations id) (hKeeps : r.Keeps r') : s.SoundIn r' navigations id where
  types_valid := h.types_valid.later hKeeps
  keys_sound field hField key hKey := (h.keys_sound field hField key hKey).later hKeeps
  base_structured base hBase := hKeeps.isSome_structure? (h.base_structured base hBase)

/-- A sound navigation stays sound as the registry grows. -/
theorem Navigation.SoundIn.later {n : Navigation} (h : n.SoundIn r) (hKeeps : r.Keeps r') :
    n.SoundIn r' where
  type_valid := h.type_valid.later hKeeps
  mapping_valid mapping hMapping := (h.mapping_valid mapping hMapping).later hKeeps
  owner_structured := by
    obtain ⟨s, hOwner, hName⟩ := h.owner_structured
    obtain ⟨later, hLater, hSpace, hLeaf, _⟩ := hKeeps.structure? hOwner
    refine ⟨later, hLater, hName.trans ?_⟩
    rw [Structure.qualifiedName, Structure.qualifiedName, hSpace, hLeaf]
  target_structured := by
    obtain ⟨target, hTarget, hSome⟩ := h.target_structured
    exact ⟨target, hTarget, hKeeps.isSome_structure? hSome⟩
  unmarked := h.unmarked

theorem ServiceFunction.ValidIn.later {f : ServiceFunction} (h : f.ValidIn r)
    (hKeeps : r.Keeps r') : f.ValidIn r' :=
  ⟨h.1.later hKeeps, h.2.later hKeeps⟩

end Later

namespace Registry

/-- The id of a structure leads to some type: to the first that has it. -/
theorem isSome_lookupId {r : Registry} {id : TypeId} {s : Structure}
    (h : r.structure? id = some s) : (r.lookupId s.id).isSome := by
  have hMem : NamedType.structured s ∈ r.types := Array.mem_of_getElem? (structure?_eq_some.1 h)
  rw [lookupId, Option.isSome_map, Array.findIdx?_isSome, Array.any_eq_true']
  exact ⟨_, hMem, by simp [NamedType.id?]⟩

/-- A field of a chain is a field of one of its structures. -/
theorem exists_of_mem_chainFields {hidden : List String} {chain : List Structure} {field : Field}
    (h : field ∈ chainFields hidden chain) : ∃ s ∈ chain, field ∈ s.fields := by
  induction chain generalizing hidden with
  | nil => cases h
  | cons s farther ih =>
      rw [chainFields, List.mem_append] at h
      rcases h with hFar | hNear
      · obtain ⟨t, ht, hField⟩ := ih hFar
        exact ⟨t, List.mem_cons_of_mem _ ht, hField⟩
      · exact ⟨s, List.mem_cons_self, (List.mem_filter.1 hNear).1⟩

/-- A chain tells each structure with the place at which it is. -/
theorem structure?_of_mem_chainFrom {r : Registry} {seen : List TypeId} {limit : Nat}
    {id : TypeId} {member : TypeId × Structure} (h : member ∈ r.chainFrom seen limit id) :
    r.structure? member.1 = some member.2 := by
  induction limit generalizing seen id with
  | zero => cases h
  | succ limit ih =>
      rw [chainFrom] at h
      split at h
      · cases h
      · split at h
        · cases h
        · next s hStructure =>
            rcases List.mem_cons.1 h with rfl | hFarther
            · exact hStructure
            · split at hFarther
              · cases hFarther
              · exact ih hFarther

/-- A primary key is a field of some structure on the chain. -/
theorem exists_of_primaryKey? {r : Registry} {id : TypeId} {key : Field}
    (h : r.primaryKey? id = some key) :
    ∃ holder s, r.structure? holder = some s ∧ key ∈ s.fields := by
  obtain ⟨s, hChain, hField⟩ := exists_of_mem_chainFields (List.mem_of_find?_eq_some h)
  obtain ⟨member, hMember, rfl⟩ := List.mem_map.1 hChain
  exact ⟨member.1, member.2, structure?_of_mem_chainFrom hMember, hField⟩

/-- The type of a primary key is one of a sound registry. -/
theorem Sound.primaryKey_valid {r : Registry} {navigations : List Navigation}
    (h : r.Sound navigations) {id : TypeId} {key : Field} (hKey : r.primaryKey? id = some key) :
    key.type.ValidIn r := by
  obtain ⟨holder, s, hStructure, hField⟩ := exists_of_primaryKey? hKey
  exact (h.structures holder s hStructure).types_valid key hField

/-- A base is at a place of a sound registry. -/
theorem Sound.base_lt_size {r : Registry} {navigations : List Navigation}
    (h : r.Sound navigations) (id : TypeId) (s : Structure) (base : TypeId)
    (hStructure : r.structure? id = some s) (hBase : s.base = some base) :
    base.index < r.size := by
  obtain ⟨t, ht⟩ := Option.isSome_iff_exists.1 ((h.structures id s hStructure).base_structured _ hBase)
  exact lt_size_of_get? (structure?_eq_some.1 ht)

end Registry

end Csdl
