import Csdl.Proofs.Renaming.Members
import Csdl.Proofs.Metadata.Integrity

/-! Registries that differ in collection names alone. No member asks for a collection name that it
has not given itself, so such registries are as good as each other for deriving members. -/
namespace Csdl

theorem NamedType.outline_lasting (type : NamedType) : type.lasting.outline = type.outline := by
  cases type <;> rfl

namespace Registry

/-- A collection name is all that giving it to a structure changes. -/
theorem lasting_of_edit {r r' : Registry} {id : TypeId} {name : String}
    (h : r.edit id (Derivation.nameCollection name) = .ok r') (place : TypeId) :
    (r'.get? place).map NamedType.lasting = (r.get? place).map NamedType.lasting := by
  obtain ⟨s, hStructure, hGet⟩ := get?_of_edit h
  rw [hGet]
  split
  · next hHere =>
      rw [hHere, structure?_eq_some.1 hStructure]
      rfl
  · rfl

/-- Two registries that differ at most in the collection names at some places. -/
structure Recollected (Differs : TypeId → Prop) (r r' : Registry) : Prop where
  lasting_eq : ∀ id, (r'.get? id).map NamedType.lasting = (r.get? id).map NamedType.lasting
  get?_eq : ∀ id, ¬ Differs id → r'.get? id = r.get? id

variable {Differs : TypeId → Prop} {r r' : Registry}

theorem size_eq_of_outline_eq (h : r'.outline = r.outline) : r'.size = r.size := by
  rw [← length_outline, h, length_outline]

/-- References denote types by the outline alone. -/
theorem refer_eq_of_outline_eq (h : r'.outline = r.outline) (aliases : AliasTable)
    (reference : String) : r'.refer aliases reference = r.refer aliases reference := by
  have hPoint : r'.pointId = r.pointId := by
    rw [pointId, pointId, lookup_eq_of_outline_eq h, nextId, nextId, size_eq_of_outline_eq h]
  unfold refer
  simp only [hPoint, lookup_eq_of_outline_eq h]

namespace Recollected

/-- Collection names do not belong to what registration fixes. -/
theorem outline_eq (h : Recollected Differs r r') : r'.outline = r.outline := by
  have hOutline : ∀ type : Option NamedType,
      type.map NamedType.outline = (type.map NamedType.lasting).map NamedType.outline := by
    intro type
    rw [Option.map_map]
    exact congrFun (congrArg Option.map (funext fun t => t.outline_lasting.symm)) type
  refine List.ext_getElem? fun i => ?_
  rw [r'.outline_getElem? ⟨i⟩, r.outline_getElem? ⟨i⟩, hOutline, h.lasting_eq, ← hOutline]

theorem retains (h : Recollected Differs r r') : r.Retains r' := by
  intro id type hType
  have hSame := h.lasting_eq id
  rw [hType] at hSame
  exact Option.map_eq_some_iff.1 hSame

theorem symm (h : Recollected Differs r r') : Recollected Differs r' r :=
  ⟨fun id => (h.lasting_eq id).symm, fun id hId => (h.get?_eq id hId).symm⟩

theorem imp {Differs' : TypeId → Prop} (h : Recollected Differs r r')
    (hDiffers : ∀ id, Differs id → Differs' id) : Recollected Differs' r r' :=
  ⟨h.lasting_eq, fun id hId => h.get?_eq id fun hHere => hId (hDiffers id hHere)⟩

theorem sound (h : Recollected Differs r r') {navigations : List Navigation}
    (hSound : r.Sound navigations) : r'.Sound navigations := by
  refine hSound.grow (.of_outline_eq h.outline_eq) h.retains fun id s hSize hStructure => ?_
  have hLt := lt_size_of_get? (structure?_eq_some.1 hStructure)
  rw [size_eq_of_outline_eq h.outline_eq] at hLt
  omega

/-- Further types on both sides leave registries the same but for collection names. -/
theorem append (h : Recollected Differs r r') (types : List NamedType) :
    Recollected Differs (r.append types) (r'.append types) := by
  have hSize := size_eq_of_outline_eq h.outline_eq
  have hCases : ∀ id, (r'.append types).get? id = (r.append types).get? id ∨
      (r'.append types).get? id = r'.get? id ∧ (r.append types).get? id = r.get? id := by
    intro id
    by_cases hLt : id.index < r.size
    · exact .inr ⟨get?_append_of_lt (hSize ▸ hLt), get?_append_of_lt hLt⟩
    · have hLe := Nat.le_of_not_lt hLt
      exact .inl (by rw [get?_append_of_le hLe, get?_append_of_le (hSize ▸ hLe), hSize])
  constructor
  · intro id
    rcases hCases id with hSame | ⟨hThere, hHere⟩
    · rw [hSame]
    · rw [hThere, hHere, h.lasting_eq]
  · intro id hId
    rcases hCases id with hSame | ⟨hThere, hHere⟩
    · exact hSame
    · rw [hThere, hHere, h.get?_eq id hId]

/-- A use of the point record leaves registries the same but for collection names. -/
theorem extendFor (h : Recollected Differs r r') (type : TypeRef) :
    Recollected Differs (r.extendFor type) (r'.extendFor type) := by
  have hNext : r'.nextId = r.nextId := congrArg TypeId.mk (size_eq_of_outline_eq h.outline_eq)
  unfold Registry.extendFor
  rw [hNext]
  split
  · unfold withPoint
    rw [lookup_eq_of_outline_eq h.outline_eq]
    cases r.lookup EdmType.edmNamespace EdmType.pointName with
    | some _ => exact h
    | none =>
        rw [← append_singleton, ← append_singleton]
        exact h.append _
  · exact h

/-- A collection name that is given to both is the same in both. -/
theorem edit (h : Recollected Differs r r') {id : TypeId} {name : String} {bound : Registry}
    (hEdit : r.edit id (Derivation.nameCollection name) = .ok bound) :
    ∃ bound', r'.edit id (Derivation.nameCollection name) = .ok bound' ∧
      Recollected Differs bound bound' ∧ bound'.get? id = bound.get? id := by
  obtain ⟨s, hStructure, hGet⟩ := get?_of_edit hEdit
  obtain ⟨collection, hThere⟩ := h.retains.structure? hStructure
  obtain ⟨bound', hEdit'⟩ := exists_edit_of_structure? hThere (Derivation.nameCollection name)
  obtain ⟨s', hStructure', hGet'⟩ := get?_of_edit hEdit'
  obtain rfl := Option.some.inj (hThere.symm.trans hStructure')
  refine ⟨bound', hEdit', ⟨fun place => ?_, fun place hSame => ?_⟩, ?_⟩
  · rw [lasting_of_edit hEdit', lasting_of_edit hEdit, h.lasting_eq]
  · rw [hGet, hGet', h.get?_eq place hSame]
    rfl
  · rw [hGet, hGet', if_pos rfl, if_pos rfl]
    rfl

end Recollected

end Registry

namespace Derivation

variable {Differs : TypeId → Prop} {settings : Settings} {aliases : AliasTable}
  {navigations : List Navigation}

/-- A member that can be derived in one registry is derived alike in the other. -/
theorem Derives.recollect {state state' next : Derivation} {node : MemberNode}
    {outcome : MemberOutcome} (hSame : state.registry.Recollected Differs state'.registry)
    (hDistinct : state.registry.Distinct) (hSound : state.registry.Sound navigations)
    (h : Derives settings aliases navigations state node outcome next) :
    ∃ outcome' next', Derives settings aliases navigations state' node outcome' next' ∧
      next.registry.Recollected Differs next'.registry ∧ outcome'.made = outcome.made := by
  obtain ⟨bound', hEdit', hBound, hHere⟩ := (hSame.extendFor _).edit h.bound_eq
  obtain ⟨s, hEntity, hNext, hFresh, hFunctions⟩ := h.exists_entity hDistinct
  have hGet := Registry.structure?_eq_some.1 hEntity
  have hKey : bound'.primaryKey? outcome.member.entity =
      outcome.bound.primaryKey? outcome.member.entity :=
    hBound.retains.primaryKey? (h.bound_sound hSound).base_lt_size (Registry.lt_size_of_get? hGet)
  have hLater := hBound.append
    ((outcome.extensions navigations settings.expansions s).map .structured)
  have hDistinct' : ∀ {r r' : Registry}, r'.outline = r.outline → r.Distinct → r'.Distinct := by
    intro r r' hOutline hKeys
    rw [Registry.distinct_iff_nodup, hOutline]
    exact Registry.distinct_iff_nodup.1 hKeys
  have hGenerated : (Member.generate bound' navigations settings.expansions outcome.member
      outcome.capabilities).result = .ok (outcome.functions, bound'.append
        ((outcome.extensions navigations settings.expansions s).map .structured)) := by
    refine (Member.generate_eq_ok (hDistinct' hBound.outline_eq (h.distinct_bound hDistinct))).2
      ⟨s, Registry.structure?_eq_some.2 (hHere.trans hGet), ?_,
        hDistinct' hLater.outline_eq (hNext ▸ hFresh), ?_⟩
    · rw [hKey]
      rfl
    · rw [hFunctions, hKey, Registry.size_eq_of_outline_eq hBound.outline_eq]
  refine ⟨⟨outcome.member, outcome.reference, outcome.capabilities, bound', outcome.functions⟩,
    ⟨_, state'.functions ++ outcome.functions, _⟩,
    ⟨h.name_read, h.reference_read, h.namespace_eq, h.kind_eq, ?_, hEdit', h.capabilities_read,
      hGenerated, rfl, rfl⟩, hNext ▸ hLater, rfl⟩
  rw [Registry.refer_eq_of_outline_eq hSame.outline_eq, h.refer_eq]

/-- Members that can be derived from one registry on are derived alike from the other. -/
theorem DerivesAll.recollect {state state' last : Derivation} {nodes : List MemberNode}
    {outcomes : List MemberOutcome}
    (hSame : state.registry.Recollected Differs state'.registry)
    (hDistinct : state.registry.Distinct) (hSound : state.registry.Sound navigations)
    (h : DerivesAll settings aliases navigations state nodes outcomes last) :
    ∃ outcomes' last', DerivesAll settings aliases navigations state' nodes outcomes' last' ∧
      last.registry.Recollected Differs last'.registry ∧
      outcomes'.map MemberOutcome.made = outcomes.map MemberOutcome.made := by
  induction h generalizing state' with
  | nil state => exact ⟨[], state', .nil _, hSame, rfl⟩
  | cons first rest ih =>
      obtain ⟨outcome', middle', hFirst, hMiddle, hMade⟩ := first.recollect hSame hDistinct hSound
      obtain ⟨outcomes', last', hRest, hLast, hAll⟩ :=
        ih hMiddle (first.distinct hDistinct) (first.sound hDistinct hSound).1
      refine ⟨outcome' :: outcomes', last', .cons hFirst hRest, hLast, ?_⟩
      rw [List.map_cons, List.map_cons, hMade, hAll]

end Derivation

end Csdl
