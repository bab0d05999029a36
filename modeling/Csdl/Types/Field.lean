import Csdl.Types.Primitive
import Csdl.Types.Cardinality

/-!
The fields of a structure.
-/

namespace Csdl

/-- The place of a type in the registry that holds it. -/
structure TypeId where
  index : Nat
  deriving DecidableEq, Repr

/-- What a field holds: a scalar or a registered type. -/
inductive TypeRef where
  | primitive (kind : Primitive)
  | named (id : TypeId)
  deriving DecidableEq, Repr

/-- The registered type that a field holds, if it holds one. -/
def TypeRef.named? : TypeRef → Option TypeId
  | primitive _ => none
  | named id => some id

/-- How the values of a scalar field are written. -/
inductive FieldFormat where
  | dashedUuid
  deriving DecidableEq, Repr

/-- The name of a format. -/
def FieldFormat.name : FieldFormat → String
  | dashedUuid => "dashed-uuid"

/-- A mark on a field that holds a key of another type. The type is named by its qualified id, and
the mark was set through the navigation property `navigation`. -/
structure ForeignKey where
  targetId : String
  targetField : String
  navigation : String
  deriving DecidableEq, Repr

/-- The key as one text. -/
def ForeignKey.reference (key : ForeignKey) : String :=
  key.targetId ++ ":" ++ key.targetField

/-- A field of a structure. `wireName` is the name in transit where it differs from `name`,
`collectionName` is the entity set a navigation's values live in, and `duplicate` marks a field
that the wire format also carries elsewhere. -/
structure Field where
  name : String
  type : TypeRef
  cardinality : Cardinality := .single
  nillable : Bool := true
  required : Bool := false
  primaryKey : Bool := false
  foreignKey : Option ForeignKey := none
  wireName : Option String := none
  format : Option FieldFormat := none
  collectionName : Option String := none
  duplicate : Bool := false
  deriving DecidableEq, Repr

namespace Field

/-- A field of one optional scalar. -/
def scalar (name : String) (kind : Primitive) : Field :=
  { name, type := .primitive kind }

/-- A field of one optional value of a registered type. -/
def ofType (name : String) (id : TypeId) : Field :=
  { name, type := .named id }

/-- The field, required. -/
def asRequired (field : Field) : Field :=
  { field with required := true }

/-- The field, not required. -/
def asOptional (field : Field) : Field :=
  { field with required := false }

/-- The field with any number of values. -/
def asUnbounded (field : Field) : Field :=
  { field with cardinality := .unbounded }

/-- The field with a given cardinality. -/
def withCardinality (field : Field) (cardinality : Cardinality) : Field :=
  { field with cardinality }

/-- The field with a name of its own in transit. -/
def withWireName (field : Field) (wireName : String) : Field :=
  { field with wireName := some wireName }

/-- Whether a field holds any number of values. -/
def isCollection (field : Field) : Bool :=
  field.cardinality = .unbounded

/-- Whether a list has a field of a name. -/
def isNamed (fields : List Field) (name : String) : Bool :=
  fields.any (·.name = name)

/-- Changes the first field of a name in a list. -/
def modifyFirst (name : String) (change : Field → Field) : List Field → List Field
  | [] => []
  | field :: fields =>
    if field.name = name then change field :: fields else field :: modifyFirst name change fields

theorem modifyFirst_of_not_named {name : String} {change : Field → Field} {fields : List Field}
    (h : isNamed fields name = false) : modifyFirst name change fields = fields := by
  induction fields with
  | nil => rfl
  | cons field fields ih =>
    simp only [isNamed, List.any_cons, Bool.or_eq_false_iff, decide_eq_false_iff_not] at h
    simp [modifyFirst, h.1, ih h.2]

end Field

end Csdl
