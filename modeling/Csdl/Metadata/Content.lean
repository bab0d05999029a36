import Csdl.Metadata.Declaration
import Csdl.Navigation

/-!
The content of declared structures: base, fields, navigations and keys. A structure is read among
the names of all types and without the content of the others, so the order of declarations does
not matter to it.
-/

namespace Csdl

/-- What references are resolved among: the aliases of the document, and its types by name. -/
structure Scope where
  aliases : AliasTable
  registry : Registry

namespace Scope

/-- What a reference denotes. -/
def refer (scope : Scope) (reference : String) : Except Error TypeRef :=
  scope.registry.refer scope.aliases reference

/-- The structure that a type is, if it is one. The point record is one wherever it is used. -/
def structure? (scope : Scope) : TypeRef → Option (TypeId × Structure)
  | .primitive _ => none
  | .named id => (scope.registry.withPoint.structure? id).map fun s => (id, s)

end Scope

/-- A navigation with the local properties that it makes foreign keys. -/
structure Relation where
  navigation : Navigation
  marks : List (String × ForeignKey)
  deriving DecidableEq, Repr

/-- What the element of a declaration says. -/
structure Content where
  declaration : Declaration
  base : Option TypeId
  fields : List Field
  relations : List Relation

namespace Content

/-- The format of a field by its type. -/
def formatOf (type : TypeRef) : Option FieldFormat :=
  if type = .primitive .uuid then some .dashedUuid else none

/-- Reads a property. It may be left out unless it says that it may not be null. -/
def readField (scope : Scope) (node : Xml.Node) : Logged Field := do
  let name ← .ofExcept (Markup.required node "Name")
  let reference ← .ofExcept (Markup.required node "Type")
  let (inner, cardinality) ← .ofExcept (Cardinality.unwrap reference)
  .tell (.readingField name inner)
  let type ← .ofExcept (scope.refer inner)
  let nillable := (node.attribute? "Nullable").all (· = "true")
  return { name, type, cardinality, nillable, required := !nillable, format := formatOf type }

/-- Reads the base of a structure, if it has one. -/
def readBase (scope : Scope) (declaration : Declaration) : Except Error (Option TypeId) :=
  match declaration.node.attribute? "BaseType" with
  | none => .ok none
  | some reference => do
    match scope.structure? (← scope.refer reference) with
    | some (id, _) => return some id
    | none => throw (.format (.baseNotStructured reference declaration.name))

/-- Reads the local property of a constraint and the property of the target that it refers to. -/
def readConstraint (node : Xml.Node) : Except Error (String × String) := do
  let property ← Markup.required node "Property"
  let referenced ← Markup.required node "ReferencedProperty"
  return (property, referenced)

/-- The structure that takes local properties to those of the target, if there are constraints. -/
def mappingOf (navigation : String) (constraints : List (String × String)) : Option Structure :=
  if constraints.isEmpty then none
  else some <| .anonymous navigation <| constraints.map fun (property, referenced) =>
    (Field.scalar referenced .string).withWireName property

/-- Reads a navigation of a structure. -/
def readRelation (scope : Scope) (declaration : Declaration) (node : Xml.Node) :
    Logged Relation := do
  let field ← readField scope node
  match scope.structure? field.type with
  | none => .fail (.format (.targetNotStructured field.name declaration.name))
  | some (_, target) => do
    let constraints ← .ofExcept ((Markup.children node "ReferentialConstraint").mapM readConstraint)
    return {
      navigation := {
        qualifiedName := declaration.namespaceName ++ "." ++ declaration.name
        owner := declaration.id
        field
        updateMapping := mappingOf field.name constraints
        containsTarget := node.attribute? "ContainsTarget" = some "true" }
      marks := constraints.map fun (property, referenced) =>
        (property, ⟨target.id, referenced, field.name⟩) }

/-- Marks the foreign keys of a relation. A later mark takes the place of an earlier one. -/
def markForeignKeys (fields : List Field) (relation : Relation) : List Field :=
  relation.marks.foldl
    (fun fields (property, key) =>
      Field.modifyFirst property (fun field => { field with foreignKey := some key }) fields)
    fields

/-- Marks the primary key if there is exactly one key and it names a property. Keys of several
parts are left unmarked. -/
def markPrimaryKey (owner : String) (keys : List String) (fields : List Field) :
    Logged (List Field) :=
  match keys with
  | [] => return fields
  | [key] =>
    if Field.isNamed fields key then
      return Field.modifyFirst key (fun field => { field with primaryKey := true }) fields
    else do
      .tell (.unknownKey key owner)
      return fields
  | _ => do
    .tell (.compositeKey owner)
    return fields

/-- Reads the element of a declaration. -/
def read (scope : Scope) (declaration : Declaration) : Logged Content := do
  let node := declaration.node
  .tell (.readingStructure declaration.name)
  let base ← .ofExcept (readBase scope declaration)
  let properties ← (Markup.children node "Property").mapM (readField scope)
  let relations ← (Markup.children node "NavigationProperty").mapM (readRelation scope declaration)
  let parts := (Markup.children node "Key").flatMap (Markup.children · "PropertyRef")
  let keys ← .ofExcept (Markup.requiredOfAll parts "Name")
  let fields ← markPrimaryKey declaration.name keys (relations.foldl markForeignKeys properties)
  return { declaration, base, fields, relations }

/-- Whether a structure uses a type as base, in a property, or as the target of a navigation. -/
def uses (content : Content) (id : TypeId) : Bool :=
  content.base = some id || content.fields.any (·.type = .named id) ||
    content.relations.any (·.navigation.field.type = .named id)

/-- Puts the content of a structure in the place of its stub. -/
def fill (registry : Registry) (content : Content) : Except Error Registry :=
  registry.edit content.declaration.id fun s =>
    { s with base := content.base, fields := content.fields }

/-- The registry with the content of all structures, and with the point record if one of them
uses it. -/
def fillAll (stubs : Registry) (contents : List Content) : Except Error Registry := do
  let filled ← contents.foldlM fill stubs
  return if contents.any (·.uses stubs.pointId) then filled.withPoint else filled

end Content

end Csdl
