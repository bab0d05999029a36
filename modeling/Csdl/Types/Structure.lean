import Csdl.Types.Field

/-!
Structures, enumerations, and the named types that a registry holds.
-/

namespace Csdl

/-- A complex type, an entity type, an extension of one, or an anonymous wrapper. A wrapper has
neither namespace nor id and is never registered. `restricted` names inherited fields that the
structure leaves out, `duplicates` the fields that the wire format also carries elsewhere. -/
structure Structure where
  namespaceName : String
  name : String
  id : String
  base : Option TypeId := none
  collectionName : Option String := none
  fields : List Field := []
  restricted : List String := []
  duplicates : List String := []
  deriving DecidableEq, Repr

namespace Structure

/-- A wrapper of fields that has only a name. -/
def anonymous (name : String) (fields : List Field) : Structure :=
  { namespaceName := "", name, id := "", fields }

/-- Entity types and the extensions that read them have a collection name, and so has whatever a
member of a container is bound to. -/
def isEntity (s : Structure) : Bool :=
  s.collectionName.isSome

/-- The namespace and the name of a structure. -/
def qualifiedName (s : Structure) : String :=
  s.namespaceName ++ "." ++ s.name

/-- The first field of a name. -/
def field? (s : Structure) (name : String) : Option Field :=
  s.fields.find? (·.name = name)

/-- The structure with one more field. -/
def add (s : Structure) (field : Field) : Structure :=
  { s with fields := s.fields ++ [field] }

/-- The structure with its first field of a name changed. -/
def modifyField (s : Structure) (name : String) (change : Field → Field) : Structure :=
  { s with fields := Field.modifyFirst name change s.fields }

end Structure

/-- An enumeration with its members in the order of their declaration. -/
structure Enumeration where
  namespaceName : String
  name : String
  members : List String
  deriving DecidableEq, Repr

/-- A type that a registry holds. -/
inductive NamedType where
  | enumeration (value : Enumeration)
  | structured (value : Structure)
  deriving DecidableEq, Repr

namespace NamedType

/-- The namespace of a type. -/
def namespaceName : NamedType → String
  | enumeration value => value.namespaceName
  | structured value => value.namespaceName

/-- The name of a type within its namespace. -/
def name : NamedType → String
  | enumeration value => value.name
  | structured value => value.name

/-- The qualified id of a type. Only structures have one. -/
def id? : NamedType → Option String
  | enumeration _ => none
  | structured value => some value.id

/-- The structure that a type is, if it is one. -/
def structure? : NamedType → Option Structure
  | enumeration _ => none
  | structured value => some value

/-- The enumeration that a type is, if it is one. -/
def enumeration? : NamedType → Option Enumeration
  | enumeration value => some value
  | structured _ => none

/-- Whether a type has a name in a namespace. -/
def hasName (type : NamedType) (namespaceName name : String) : Bool :=
  type.name == name && type.namespaceName == namespaceName

end NamedType

end Csdl
