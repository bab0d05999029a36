import Csdl.Types.Structure

/-!
Navigation properties: typed relations from one structure to another.
-/

namespace Csdl

/-- A relation that a structure declares. Its field has the target as its type. `updateMapping`
takes local properties to properties of the target. -/
structure Navigation where
  qualifiedName : String
  owner : TypeId
  field : Field
  updateMapping : Option Structure
  containsTarget : Bool
  deriving DecidableEq, Repr

namespace Navigation

/-- The name of a relation. -/
def name (navigation : Navigation) : String :=
  navigation.field.name

/-- The structure that a relation leads to. -/
def target? (navigation : Navigation) : Option TypeId :=
  navigation.field.type.named?

end Navigation

end Csdl
