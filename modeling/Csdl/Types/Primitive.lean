import Csdl.Error
import Csdl.Text.Cut

/-!
The scalar kinds a field can hold, and the built-in names of the `Edm` namespace that stand for
them. One built-in name stands for a record instead: a point on the globe.
-/

namespace Csdl

/-- The scalar kinds. -/
inductive Primitive where
  | string
  | binary
  | stream
  | boolean
  | int8
  | int16
  | int32
  | int64
  | float
  | double
  | dateTime
  | uuid
  | duration
  deriving DecidableEq, Repr

namespace Primitive

/-- The name of a scalar kind. -/
def name : Primitive → String
  | string => "string"
  | binary => "bytes"
  | stream => "stream"
  | boolean => "boolean"
  | int8 => "int8"
  | int16 => "int16"
  | int32 => "int32"
  | int64 => "int64"
  | float => "float"
  | double => "double"
  | dateTime => "datetime"
  | uuid => "uuid"
  | duration => "duration"

end Primitive

/-- What a built-in name stands for. -/
inductive EdmType where
  | primitive (kind : Primitive)
  | geographyPoint
  deriving DecidableEq, Repr

namespace EdmType

/-- The built-in names of scalar kinds. A byte is unsigned and needs the wider signed kind. -/
def primitiveNames : List (String × Primitive) := [
  ("Edm.String", .string),
  ("Edm.Binary", .binary),
  ("Edm.Stream", .stream),
  ("Edm.Boolean", .boolean),
  ("Edm.Byte", .int16),
  ("Edm.SByte", .int8),
  ("Edm.Date", .dateTime),
  ("Edm.DateTime", .dateTime),
  ("Edm.Time", .dateTime),
  ("Edm.TimeOfDay", .dateTime),
  ("Edm.DateTimeOffset", .dateTime),
  ("Edm.Decimal", .double),
  ("Edm.Double", .double),
  ("Edm.Float", .float),
  ("Edm.Single", .float),
  ("Edm.Guid", .uuid),
  ("Edm.Int16", .int16),
  ("Edm.Int32", .int32),
  ("Edm.Int64", .int64),
  ("Edm.Duration", .duration)]

/-- The namespace of the built-in names. -/
def edmNamespace : String := "Edm"

/-- The name of the point record in the built-in namespace. -/
def pointName : String := "GeographyPoint"

/-- Whether a qualified name is in the built-in namespace or one that begins like it. -/
def isEdmName (name : String) : Bool :=
  (Text.cutStart? ['E', 'd', 'm', '.'] name.toList).isSome

/-- What a qualified built-in name stands for. -/
def ofName? (name : String) : Option EdmType :=
  if name = "Edm.GeographyPoint" then some geographyPoint
  else (primitiveNames.lookup name).map primitive

/-- What a qualified built-in name stands for, or the error that it stands for nothing. -/
def parse (name : String) : Except Error EdmType :=
  match ofName? name with
  | some type => .ok type
  | none => .error (.unknownPrimitive name)

end EdmType

end Csdl
