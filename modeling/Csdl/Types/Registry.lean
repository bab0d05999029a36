import Csdl.Types.Structure
import Csdl.Logged

/-!
The registry of named types. Types refer to each other by their place in it, so forward references
and cycles need no special care. Two types of one registry never share namespace and name; two
structures may share a qualified id, and the first of them owns it.
-/

namespace Csdl

/-- The named types of one document in the order of their registration. -/
structure Registry where
  types : Array NamedType := #[]
  deriving DecidableEq, Repr

namespace Registry

/-- The number of registered types. -/
def size (r : Registry) : Nat :=
  r.types.size

/-- Whether nothing is registered. -/
def isEmpty (r : Registry) : Bool :=
  r.types.isEmpty

/-- The type at a place. -/
def get? (r : Registry) (id : TypeId) : Option NamedType :=
  r.types[id.index]?

/-- The structure at a place, if there is one. -/
def structure? (r : Registry) (id : TypeId) : Option Structure :=
  (r.get? id).bind NamedType.structure?

/-- The place of the type with a namespace and a name. -/
def lookup (r : Registry) (namespaceName name : String) : Option TypeId :=
  (r.types.findIdx? (·.hasName namespaceName name)).map TypeId.mk

/-- The place of the structure that owns a qualified id: the first one that has it. -/
def lookupId (r : Registry) (id : String) : Option TypeId :=
  (r.types.findIdx? (·.id? == some id)).map TypeId.mk

/-- The structure with a namespace and a name. -/
def structureByName? (r : Registry) (namespaceName name : String) : Option Structure :=
  (r.lookup namespaceName name).bind r.structure?

/-- The structure that owns a qualified id. -/
def structureById? (r : Registry) (id : String) : Option Structure :=
  (r.lookupId id).bind r.structure?

/-- The enumeration with a namespace and a name. -/
def enumeration? (r : Registry) (namespaceName name : String) : Option Enumeration :=
  ((r.lookup namespaceName name).bind r.get?).bind NamedType.enumeration?

/-- The place that the next type will get. -/
def nextId (r : Registry) : TypeId :=
  ⟨r.size⟩

/-- The registry with one more type at its end. -/
def push (r : Registry) (type : NamedType) : Registry :=
  ⟨r.types.push type⟩

/-- The event that a type to be registered does not own its qualified id. -/
def idEvents (r : Registry) (type : NamedType) : List Event :=
  match type.id? with
  | none => []
  | some id =>
    if (r.lookupId id).isSome then [.idOwned id type.namespaceName type.name] else []

/-- Registers a type. Fails if namespace and name are taken. -/
def register (r : Registry) (type : NamedType) : Logged (TypeId × Registry) :=
  if (r.lookup type.namespaceName type.name).isSome then
    .fail (.format (.declaredTwice type.namespaceName type.name))
  else ⟨r.idEvents type, .ok (r.nextId, r.push type)⟩

/-- Changes the structure at a place. Fails if there is none. -/
def edit (r : Registry) (id : TypeId) (change : Structure → Structure) : Except Error Registry :=
  match r.structure? id with
  | none => .error (.format (.notAStructure id.index))
  | some s => .ok ⟨r.types.setIfInBounds id.index (.structured (change s))⟩

/-- The record of a point on the globe. -/
def pointRecord : Structure where
  namespaceName := EdmType.edmNamespace
  name := EdmType.pointName
  id := EdmType.edmNamespace ++ "." ++ EdmType.pointName
  fields := [.scalar "type" .string, (Field.scalar "coordinates" .double).asUnbounded]

/-- The place of the point record: where a type of its name is registered, else the next place. -/
def pointId (r : Registry) : TypeId :=
  (r.lookup EdmType.edmNamespace EdmType.pointName).getD r.nextId

/-- The registry with a type of the point record's name in it. -/
def withPoint (r : Registry) : Registry :=
  match r.lookup EdmType.edmNamespace EdmType.pointName with
  | some _ => r
  | none => r.push (.structured pointRecord)

@[simp]
theorem size_push (r : Registry) (type : NamedType) : (r.push type).size = r.size + 1 := by
  simp [push, size]

theorem result_register (r : Registry) (type : NamedType) :
    (r.register type).result =
      if (r.lookup type.namespaceName type.name).isSome then
        .error (.format (.declaredTwice type.namespaceName type.name))
      else .ok (r.nextId, r.push type) := by
  unfold register
  split <;> rfl

end Registry

end Csdl
