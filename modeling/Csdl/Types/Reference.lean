import Csdl.Types.Registry

/-!
References to types by qualified name. A schema may declare an alias for its namespace; the part
of a reference before its last dot is replaced once by the namespace that it is an alias of.
-/

namespace Csdl

/-- The aliases of a document with the namespaces they stand for. -/
structure AliasTable where
  entries : List (String × String) := []
  deriving DecidableEq, Repr

namespace AliasTable

/-- Records an alias in place of an earlier one of that name. A blank alias is ignored. -/
def register (table : AliasTable) (name namespaceName : String) : AliasTable :=
  let name := Text.trim name
  if name.isEmpty then table
  else ⟨(name, namespaceName) :: table.entries.filter (·.1 ≠ name)⟩

/-- The namespace that an alias stands for; any other text stands for itself. -/
def resolve (table : AliasTable) (name : String) : String :=
  (table.entries.lookup name).getD name

/-- The number of aliases. -/
def size (table : AliasTable) : Nat :=
  table.entries.length

/-- Whether there are no aliases. -/
def isEmpty (table : AliasTable) : Bool :=
  table.entries.isEmpty

end AliasTable

/-- The namespace and the name in a qualified name: what stands before and behind its last dot,
if neither is empty. -/
def splitQualified? (name : String) : Option (String × String) :=
  match Text.cutAtLast? '.' name.toList with
  | none => none
  | some (before, behind) =>
    if before.isEmpty || behind.isEmpty then none
    else some (String.ofList before, String.ofList behind)

/-- What a type reference denotes. The point record has its place whether or not it is registered
already. -/
def Registry.refer (r : Registry) (aliases : AliasTable) (reference : String) :
    Except Error TypeRef :=
  let name := Text.trim reference
  match splitQualified? name with
  | none => .error (.unknownReference name)
  | some (space, leaf) =>
    let space := aliases.resolve space
    let qualified := space ++ "." ++ leaf
    if EdmType.isEdmName qualified then
      match EdmType.parse qualified with
      | .error error => .error error
      | .ok (.primitive kind) => .ok (.primitive kind)
      | .ok .geographyPoint => .ok (.named r.pointId)
    else
      match r.lookup space leaf with
      | some id => .ok (.named id)
      | none => .error (.unknownReference name)

/-- The registry in which a reference is valid. Only a new point record has the next place. -/
def Registry.extendFor (r : Registry) (reference : TypeRef) : Registry :=
  if reference = .named r.nextId then r.withPoint else r

/-- Resolves a reference and registers the point record if it is the first one to denote it. -/
def Registry.resolve (r : Registry) (aliases : AliasTable) (reference : String) :
    Except Error (TypeRef × Registry) :=
  (r.refer aliases reference).map fun type => (type, r.extendFor type)

end Csdl
