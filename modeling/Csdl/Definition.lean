import Csdl.Navigation
import Csdl.Operation
import Csdl.Types.Inheritance
import Csdl.Url.Location

/-!
What a metadata document defines: types, navigation properties and functions, and where the service
is.
-/

namespace Csdl

/-- Everything that one metadata document defines. -/
structure Definition where
  version : String
  location : Location
  registry : Registry
  functions : List ServiceFunction
  navigations : List Navigation
  deriving DecidableEq, Repr

/-- How much a document defines. -/
structure Summary where
  enumerations : Nat
  structures : Nat
  entityTypes : Nat
  navigations : Nat
  functions : Nat
  deriving DecidableEq, Repr

namespace Definition

/-- The functions of one member of a container. -/
def functionsFor (definition : Definition) (context : String) : List ServiceFunction :=
  definition.functions.filter (·.context = context)

/-- The function for one operation on a member of a container. -/
def function? (definition : Definition) (context : String) (operation : Operation) :
    Option ServiceFunction :=
  definition.functions.find? fun function =>
    function.context = context && function.operation = operation

/-- The navigation properties of the structure with a qualified name. -/
def navigationsFor (definition : Definition) (qualifiedName : String) : List Navigation :=
  definition.navigations.filter (·.qualifiedName = qualifiedName)

/-- Counts what a document defines. -/
def summary (definition : Definition) : Summary :=
  let types := definition.registry.types.toList
  let structures := types.filterMap NamedType.structure?
  { enumerations := (types.filterMap NamedType.enumeration?).length
    structures := structures.length
    entityTypes := (structures.filter Structure.isEntity).length
    navigations := definition.navigations.length
    functions := definition.functions.length }

end Definition

end Csdl
