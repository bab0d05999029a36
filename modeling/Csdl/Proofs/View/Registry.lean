import Csdl.Navigation
import Csdl.Operation
import Csdl.Proofs.Metadata.Filling
import Csdl.Proofs.Registry.Inheritance

/-! Registries seen through a view of their structures. A view shows of each structure its names, its
base and what decides primary keys, and foreign keys lead to the ids that it shows; it may change
all else. So whatever finds a type finds it in the same place through a view, and what is done to a
registry can be done to what is seen of it. -/
namespace Csdl

/-- A way to see the marks of foreign keys and the structures. -/
structure View where
  ofKey : ForeignKey → ForeignKey
  ofStructure : Structure → Structure
  ofKey_eq : ∀ (s : Structure) field navigation,
    ofKey ⟨s.id, field, navigation⟩ = ⟨(ofStructure s).id, field, navigation⟩
  name_eq : ∀ s, (ofStructure s).name = s.name
  namespaceName_eq : ∀ s, (ofStructure s).namespaceName = s.namespaceName
  keyPart_eq : ∀ s, (ofStructure s).keyPart = (s.base, s.restricted,
    (s.fields.filter (·.primaryKey)).map fun field =>
      { field with foreignKey := field.foreignKey.map ofKey })
  collectionName_eq : ∀ s name, ofStructure { s with collectionName := name } =
    { ofStructure s with collectionName := name }
  pointRecord_eq : ofStructure Registry.pointRecord = Registry.pointRecord

namespace View

variable (view : View)

/-- A field through a view. -/
def ofField (field : Field) : Field :=
  { field with foreignKey := field.foreignKey.map view.ofKey }

/-- A type through a view. -/
def ofType : NamedType → NamedType :=
  NamedType.mapStructure view.ofStructure

/-- A wrapper through a view. Wrappers are no registered types, so only their fields change. -/
def ofWrapper (s : Structure) : Structure :=
  { s with fields := s.fields.map view.ofField }

/-- A function through a view. -/
def ofFunction (f : ServiceFunction) : ServiceFunction :=
  { f with
    input := view.ofWrapper f.input
    output := view.ofWrapper f.output }

/-- A registry through a view. -/
def ofRegistry (r : Registry) : Registry :=
  ⟨r.types.map view.ofType⟩

/-- A field without a foreign key is seen as it is. -/
theorem ofField_of_unmarked {field : Field} (h : field.foreignKey = none) :
    view.ofField field = field := by
  cases field
  cases h
  rfl

/-- A view does not hide names. -/
theorem hasName_ofType (type : NamedType) (namespaceName name : String) :
    (view.ofType type).hasName namespaceName name = type.hasName namespaceName name := by
  cases type with
  | enumeration value => rfl
  | structured value =>
      simp only [ofType, NamedType.mapStructure, NamedType.hasName, NamedType.name,
        NamedType.namespaceName, view.name_eq, view.namespaceName_eq]

@[simp]
theorem ofRegistry_empty : view.ofRegistry {} = {} := by
  simp [ofRegistry]

variable (r : Registry)

@[simp]
theorem size_ofRegistry : (view.ofRegistry r).size = r.size := by
  simp [Registry.size, ofRegistry]

@[simp]
theorem nextId_ofRegistry : (view.ofRegistry r).nextId = r.nextId :=
  congrArg TypeId.mk (view.size_ofRegistry r)

theorem get?_ofRegistry (id : TypeId) :
    (view.ofRegistry r).get? id = (r.get? id).map view.ofType := by
  simp [Registry.get?, ofRegistry]

theorem structure?_ofRegistry (id : TypeId) :
    (view.ofRegistry r).structure? id = (r.structure? id).map view.ofStructure :=
  Registry.structure?_of_get?_map (view.get?_ofRegistry r id)

@[simp]
theorem lookup_ofRegistry (namespaceName name : String) :
    (view.ofRegistry r).lookup namespaceName name = r.lookup namespaceName name := by
  simp only [Registry.lookup, ofRegistry, Array.findIdx?_map, Function.comp_def, hasName_ofType]

@[simp]
theorem pointId_ofRegistry : (view.ofRegistry r).pointId = r.pointId := by
  simp only [Registry.pointId, lookup_ofRegistry, nextId_ofRegistry]

/-- References denote the same through a view. -/
@[simp]
theorem refer_ofRegistry (aliases : AliasTable) (reference : String) :
    (view.ofRegistry r).refer aliases reference = r.refer aliases reference := by
  simp only [Registry.refer, lookup_ofRegistry, pointId_ofRegistry]

theorem push_ofRegistry (type : NamedType) :
    (view.ofRegistry r).push (view.ofType type) = view.ofRegistry (r.push type) := by
  simp [Registry.push, ofRegistry]

/-- The point record is added to what is seen exactly if it is added to the registry. -/
theorem withPoint_ofRegistry : (view.ofRegistry r).withPoint = view.ofRegistry r.withPoint := by
  simp only [Registry.withPoint, lookup_ofRegistry]
  cases r.lookup EdmType.edmNamespace EdmType.pointName with
  | some id => rfl
  | none =>
      have hPoint : view.ofType (.structured Registry.pointRecord) =
          .structured Registry.pointRecord :=
        congrArg NamedType.structured view.pointRecord_eq
      rw [← view.push_ofRegistry, hPoint]

/-- A use of the point record shows in what is seen as in the registry. -/
theorem extendFor_ofRegistry (type : TypeRef) :
    (view.ofRegistry r).extendFor type = view.ofRegistry (r.extendFor type) := by
  simp only [Registry.extendFor, nextId_ofRegistry, withPoint_ofRegistry]
  exact (apply_ite view.ofRegistry _ _ _).symm

/-- A reference is resolved in what is seen to the same place. -/
theorem resolve_ofRegistry (aliases : AliasTable) (reference : String) :
    (view.ofRegistry r).resolve aliases reference =
      (fun found => (found.1, view.ofRegistry found.2)) <$> r.resolve aliases reference := by
  simp only [Registry.resolve, refer_ofRegistry, extendFor_ofRegistry]
  cases r.refer aliases reference <;> rfl

/-- A structure can be changed before it is seen or behind that. -/
theorem edit_ofRegistry (id : TypeId) {change change' : Structure → Structure}
    (h : ∀ s, change' (view.ofStructure s) = view.ofStructure (change s)) :
    (view.ofRegistry r).edit id change' = view.ofRegistry <$> r.edit id change := by
  simp only [Registry.edit, structure?_ofRegistry]
  cases r.structure? id with
  | none => rfl
  | some s =>
      have hType : view.ofType (.structured (change s)) =
          .structured (change' (view.ofStructure s)) :=
        congrArg NamedType.structured (h s).symm
      refine congrArg Except.ok ?_
      simp only [ofRegistry, Array.map_setIfInBounds, hType]

/-- A type is registered in what is seen at the same place, or refused for the same name. -/
theorem register_ofRegistry (type : NamedType) :
    ((view.ofRegistry r).register (view.ofType type)).result =
      (fun made => (made.1, view.ofRegistry made.2)) <$> (r.register type).result := by
  have hName : (view.ofType type).name = type.name := by
    cases type with
    | enumeration value => rfl
    | structured value => exact view.name_eq value
  have hNamespace : (view.ofType type).namespaceName = type.namespaceName := by
    cases type with
    | enumeration value => rfl
    | structured value => exact view.namespaceName_eq value
  simp only [Registry.result_register, lookup_ofRegistry, hName, hNamespace, nextId_ofRegistry,
    push_ofRegistry]
  split <;> rfl

/-- A structure is registered in what is seen at the same place as in the registry. -/
theorem register_structured (s : Structure) :
    ((view.ofRegistry r).register (.structured (view.ofStructure s))).result =
      (fun made => (made.1, view.ofRegistry made.2)) <$> (r.register (.structured s)).result :=
  view.register_ofRegistry r (.structured s)

/-- The bases of a type are the same through a view. -/
theorem chainFrom_ofRegistry (seen : List TypeId) (limit : Nat) (id : TypeId) :
    (view.ofRegistry r).chainFrom seen limit id =
      (r.chainFrom seen limit id).map fun member => (member.1, view.ofStructure member.2) := by
  induction limit generalizing seen id with
  | zero => rfl
  | succ limit ih =>
      rw [Registry.chainFrom, Registry.chainFrom, structure?_ofRegistry]
      split
      · rfl
      · cases r.structure? id with
        | none => rfl
        | some s =>
            have hBase : (view.ofStructure s).base = s.base :=
              congrArg Prod.fst (view.keyPart_eq s)
            simp only [Option.map_some, hBase, List.map_cons]
            cases s.base with
            | none => rfl
            | some base => exact congrArg _ (ih (id :: seen) base)

/-- The primary keys on a chain are seen where they are. -/
theorem filter_chainFields (hidden : List String) (chain : List Structure) :
    (Registry.chainFields hidden (chain.map view.ofStructure)).filter (·.primaryKey) =
      ((Registry.chainFields hidden chain).filter (·.primaryKey)).map view.ofField := by
  induction chain generalizing hidden with
  | nil => rfl
  | cons s farther ih =>
      have hPart := view.keyPart_eq s
      simp only [Structure.keyPart, Prod.mk.injEq] at hPart
      obtain ⟨_, hRestricted, hFields⟩ := hPart
      have hSwap : ∀ fields : List Field,
          (fields.filter fun field => !hidden.contains field.name).filter (·.primaryKey) =
            (fields.filter (·.primaryKey)).filter fun field => !hidden.contains field.name :=
        fun fields => by simp only [List.filter_filter, Bool.and_comm]
      simp only [List.map_cons, Registry.chainFields, List.filter_append, List.map_append,
        hRestricted, ih, hSwap, hFields, List.filter_map]
      rfl

/-- A type has the same primary key through a view. -/
theorem primaryKey?_ofRegistry (id : TypeId) :
    (view.ofRegistry r).primaryKey? id = (r.primaryKey? id).map view.ofField := by
  have hChain : ((view.ofRegistry r).baseChain id).map (·.2) =
      ((r.baseChain id).map (·.2)).map view.ofStructure := by
    rw [Registry.baseChain, size_ofRegistry, chainFrom_ofRegistry, List.map_map, List.map_map]
    rfl
  rw [Registry.primaryKey?, Registry.primaryKey?, Registry.allFields, Registry.allFields,
    ← List.head?_filter, ← List.head?_filter, hChain, filter_chainFields, List.head?_map]

end View

end Csdl
