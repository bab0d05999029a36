import Csdl.Proofs.Registry.Extension
import Csdl.Proofs.Registry.Walk

/-! The fields of a structure. They are those of all structures on its chain, from the far end on,
without those that a nearer structure leaves out. Each field comes from one place of one structure,
and a structure adds its own fields to what it takes over from its base, as long as its bases do not
lead back to it. -/
namespace Csdl.Registry

/-- The field at a place in the list of a structure's own fields. -/
def fieldAt? (r : Registry) (source : TypeId × Nat) : Option Field :=
  (r.structure? source.1).bind (·.fields[source.2]?)

/-- Whether no structure nearer than a given distance leaves a field out. -/
def IsKept (chain : List (TypeId × Structure)) (distance : Nat) (field : Field) : Prop :=
  ∀ nearer ∈ chain.take distance, field.name ∉ nearer.2.restricted

instance (chain : List (TypeId × Structure)) (distance : Nat) :
    DecidablePred (IsKept chain distance) :=
  fun _ => inferInstanceAs (Decidable (∀ nearer ∈ chain.take distance, _))

/-- Where the fields on a chain come from. -/
def keptSources (chain : List (TypeId × Structure)) : List (TypeId × Nat) :=
  chain.zipIdx.reverse.flatMap fun entry =>
    (entry.1.2.fields.zipIdx.filter fun own => IsKept chain entry.2 own.1).map fun own =>
      (entry.1.1, own.2)

/-- A chain with the fields of the type that it starts from. -/
structure InheritsAlong (r : Registry) (id : TypeId) (chain : List (TypeId × Structure)) :
    Prop where
  gathers_iff : ∀ other, r.Gathers [] (some id) other ↔ other = chain
  structured : ∀ member ∈ chain, r.structure? member.1 = some member.2
  eq_nil : r.structure? id = none → chain = []
  isBaseChain_iff : r.structure? id ≠ none →
    ∀ places, r.IsBaseChain id places ↔ places = chain.map (·.1)
  fields_eq : r.allFields id = chain.zipIdx.reverse.flatMap fun entry =>
    entry.1.2.fields.filter fun field =>
      ∀ nearer ∈ chain.take entry.2, field.name ∉ nearer.2.restricted
  own_last : ∀ s, r.structure? id = some s → s.fields <:+ r.allFields id
  /-- Each field comes from another place, so none is there twice. -/
  once : ∃ sources : List (TypeId × Nat), sources.Nodup ∧
    (∀ source ∈ sources, source.1 ∈ chain.map (·.1)) ∧
    sources.map r.fieldAt? = (r.allFields id).map some
  of_base : ∀ s base, r.structure? id = some s → s.base = some base →
    id ∉ (r.baseChain base).map (·.1) →
    r.allFields id =
      (r.allFields base).filter (fun field => field.name ∉ s.restricted) ++ s.fields

/-- What has been left out so far, and what a nearer structure leaves out, is not among the fields
of a chain, and all else is. -/
theorem chainFields_eq_flatMap (hidden : List String) (chain : List (TypeId × Structure)) :
    chainFields hidden (chain.map (·.2)) = chain.zipIdx.reverse.flatMap fun entry =>
      entry.1.2.fields.filter fun field => field.name ∉ hidden ∧ IsKept chain entry.2 field := by
  induction chain generalizing hidden with
  | nil => rfl
  | cons member farther ih =>
      have hOwn : ∀ field : Field, (!hidden.contains field.name) =
          decide (field.name ∉ hidden ∧ IsKept (member :: farther) 0 field) := by
        simp [IsKept]
      have hFarther : ∀ (distance : Nat) (field : Field),
          (field.name ∉ hidden ++ member.2.restricted ∧ IsKept farther distance field) ↔
            field.name ∉ hidden ∧ IsKept (member :: farther) (distance + 1) field := by
        intro distance field
        simp only [IsKept, List.take_succ_cons, List.forall_mem_cons, List.mem_append, not_or,
          and_assoc]
      rw [List.map_cons, chainFields, ih, List.zipIdx_cons, List.zipIdx_succ, List.reverse_cons,
        List.flatMap_append, List.flatMap_singleton, ← List.map_reverse, List.flatMap_map]
      simp only [hOwn, hFarther]

variable {r : Registry} {chain : List (TypeId × Structure)}

/-- The sources of the fields of a chain lead to these fields. -/
theorem map_fieldAt?_keptSources
    (hChain : ∀ member ∈ chain, r.structure? member.1 = some member.2) :
    (keptSources chain).map r.fieldAt? = (chainFields [] (chain.map (·.2))).map some := by
  rw [chainFields_eq_flatMap, keptSources, List.map_flatMap, List.map_flatMap]
  refine List.flatMap_congr fun entry hEntry => ?_
  have hStructure := hChain entry.1 (List.fst_mem_of_mem_zipIdx (List.mem_reverse.1 hEntry))
  have hField : ∀ own ∈ entry.1.2.fields.zipIdx.filter fun own => IsKept chain entry.2 own.1,
      r.fieldAt? (entry.1.1, own.2) = some own.1 := by
    intro own hOwn
    rw [fieldAt?, hStructure]
    exact List.mem_zipIdx_iff_getElem?.1 (List.mem_filter.1 hOwn).1
  rw [List.map_map]
  refine (List.map_congr_left hField).trans ?_
  have hFields : entry.1.2.fields.filter (fun field => field.name ∉ ([] : List String) ∧
      IsKept chain entry.2 field) = (entry.1.2.fields.zipIdx.filter fun own =>
        IsKept chain entry.2 own.1).map Prod.fst := by
    conv_lhs => rw [← List.zipIdx_map_fst 0 entry.1.2.fields, List.filter_map]
    simp [Function.comp_def]
  rw [hFields, List.map_map]
  rfl

/-- Fields of different structures have different sources, and so have fields of one. -/
theorem nodup_keptSources (hChain : (chain.map (·.1)).Nodup) : (keptSources chain).Nodup := by
  refine List.nodup_flatMap.2 ⟨fun entry _ => ?_, ?_⟩
  · have hPlaces : (entry.1.2.fields.zipIdx.map Prod.snd).Nodup := by
      rw [List.zipIdx_map_snd]
      exact List.nodup_range' _
    have hKept := hPlaces.sublist ((List.filter_sublist (p := fun own =>
      decide (IsKept chain entry.2 own.1))).map Prod.snd)
    have hPairs := hKept.map (f := fun place => (entry.1.1, place)) fun _ _ h => (Prod.mk.inj h).2
    rwa [List.map_map] at hPairs
  · have hApart : chain.zipIdx.Pairwise fun entry entry' => entry.1.1 ≠ entry'.1.1 := by
      have hIds : (chain.zipIdx.map (·.1.1)).Nodup := by
        have hFst := List.zipIdx_map_fst 0 chain
        rw [← hFst, List.map_map] at hChain
        exact hChain
      exact List.pairwise_map.1 hIds
    rw [List.pairwise_reverse]
    refine hApart.imp fun {entry entry'} hNe source hMem hMem' => ?_
    obtain ⟨_, _, rfl⟩ := List.mem_map.1 hMem
    obtain ⟨_, _, hSame⟩ := List.mem_map.1 hMem'
    exact hNe (Prod.mk.inj hSame).1

theorem fst_mem_of_mem_keptSources {source : TypeId × Nat} (h : source ∈ keptSources chain) :
    source.1 ∈ chain.map (·.1) := by
  obtain ⟨entry, hEntry, hSource⟩ := List.mem_flatMap.1 h
  obtain ⟨_, _, rfl⟩ := List.mem_map.1 hSource
  exact List.mem_map_of_mem (List.fst_mem_of_mem_zipIdx (List.mem_reverse.1 hEntry))

variable {id : TypeId}

/-- The chain of a structure begins with it. -/
theorem exists_baseChain_eq_cons {s : Structure} (hStructure : r.structure? id = some s) :
    ∃ farther, r.baseChain id = (id, s) :: farther := by
  have hWalk := (r.gathers_iff id _).2 rfl
  generalize r.baseChain id = chain at hWalk ⊢
  cases hWalk with
  | repeated hSeen => cases hSeen
  | unstructured _ hNone => cases hStructure.symm.trans hNone
  | next _ hSame _ =>
      obtain rfl := Option.some.inj (hStructure.symm.trans hSame)
      exact ⟨_, rfl⟩

theorem baseChain_eq_nil (hNone : r.structure? id = none) : r.baseChain id = [] := by
  have hWalk := (r.gathers_iff id _).2 rfl
  generalize r.baseChain id = chain at hWalk ⊢
  cases hWalk with
  | repeated _ => rfl
  | unstructured _ _ => rfl
  | next _ hStructure _ => cases hNone.symm.trans hStructure

theorem suffix_allFields {s : Structure} (hStructure : r.structure? id = some s) :
    s.fields <:+ r.allFields id := by
  obtain ⟨farther, hChain⟩ := exists_baseChain_eq_cons hStructure
  rw [allFields, hChain, List.map_cons, chainFields]
  simp

/-- Whatever the bases are, the walk along them ends, and a type has the fields of all structures on
its chain that no nearer one leaves out, each of them once and its own ones last. -/
theorem inheritsAlong_baseChain (r : Registry) (id : TypeId) :
    r.InheritsAlong id (r.baseChain id) where
  gathers_iff := r.gathers_iff id
  structured _ hMember := structure?_of_mem_chainFrom hMember
  eq_nil := baseChain_eq_nil
  isBaseChain_iff hSome places := by
    obtain ⟨s, hStructure⟩ := Option.ne_none_iff_exists'.1 hSome
    exact Registry.isBaseChain_iff hStructure
  fields_eq := by
    rw [allFields, chainFields_eq_flatMap]
    refine List.flatMap_congr fun entry _ => List.filter_congr fun field _ => ?_
    exact decide_eq_decide.2 (and_iff_right List.not_mem_nil)
  own_last _ := suffix_allFields
  once := ⟨keptSources (r.baseChain id), nodup_keptSources (nodup_chainFrom ..),
    fun _ => fst_mem_of_mem_keptSources,
    map_fieldAt?_keptSources fun _ hMember => structure?_of_mem_chainFrom hMember⟩
  of_base _ _ := allFields_eq_append

/-- An order has what a sale has but its keys, and its own fields. What a deal leaves out does not
show, since sales are nearer. A sale, which is on its own base's chain, does not have its key and its
seller twice. -/
theorem inheritsAlong_of_order :
    (sampleBases.allFields ⟨0⟩).map (·.name) = ["date", "seller", "seller", "number"] ∧
    (sampleBases.allFields ⟨1⟩).map (·.name) = ["key", "date", "key", "seller"] ∧
    (sampleBases.allFields ⟨2⟩).map (·.name) = ["key", "key", "date"] ∧
    sampleBases.allFields ⟨0⟩ = (sampleBases.allFields ⟨1⟩).filter (·.name ∉ ["key"]) ++
      [.scalar "seller" .string, .scalar "number" .string] ∧
    sampleBases.Gathers [] (some ⟨1⟩) (sampleBases.baseChain ⟨1⟩) ∧
    (sampleBases.baseChain ⟨1⟩).map (·.1) = [⟨1⟩, ⟨2⟩] :=
  ⟨by decide, by decide, by decide,
    (inheritsAlong_baseChain sampleBases ⟨0⟩).of_base _ ⟨1⟩ rfl rfl (by decide),
    ((inheritsAlong_baseChain sampleBases ⟨1⟩).gathers_iff _).2 rfl, by decide⟩

end Csdl.Registry
