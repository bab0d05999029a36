import Csdl.Metadata.Markup
import Csdl.Settings
import Csdl.Types.Reference

/-!
The declarations of a document. Types may refer to each other in any order and across schemas, so
the enumerations and the names of all structures are registered before any reference is resolved.
-/

namespace Csdl

/-- A schema of a document with the namespace that it describes. -/
structure Schema where
  namespaceName : String
  node : Xml.Node

namespace Schema

/-- The schema that an element is. -/
def ofNode (node : Xml.Node) : Except Error Schema := do
  let namespaceName ← Markup.required node "Namespace"
  return { namespaceName, node }

/-- Records the alias that a schema declares for its namespace, if it declares one. -/
def addAlias (aliases : AliasTable) (schema : Schema) : AliasTable :=
  match schema.node.attribute? "Alias" with
  | some name => aliases.register name schema.namespaceName
  | none => aliases

/-- The aliases of a list of schemas. -/
def aliases (schemas : List Schema) : AliasTable :=
  schemas.foldl addAlias {}

/-- Registers an enumeration. -/
def registerEnumeration (schema : Schema) (registry : Registry) (node : Xml.Node) :
    Logged Registry := do
  let name ← .ofExcept (Markup.required node "Name")
  let members ← .ofExcept (Markup.requiredOfAll (Markup.children node "Member") "Name")
  .tell (.readingEnumeration name members)
  let (_, registry) ← registry.register
    (.enumeration { namespaceName := schema.namespaceName, name, members })
  return registry

/-- Registers the enumerations of a schema. -/
def registerEnumerations (registry : Registry) (schema : Schema) : Logged Registry :=
  (Markup.children schema.node "EnumType").foldlM schema.registerEnumeration registry

end Schema

/-- The two kinds of structures that a schema declares. -/
inductive StructureKind where
  | complexType
  | entityType
  deriving DecidableEq, Repr

namespace StructureKind

/-- The label of the elements that declare structures of a kind. -/
def label : StructureKind → String
  | complexType => "ComplexType"
  | entityType => "EntityType"

/-- The part of a qualified id that tells the kind. -/
def idPart : StructureKind → String
  | complexType => "types"
  | entityType => "entities"

end StructureKind

/-- A declared structure: its place, its names, and the element that declares it. -/
structure Declaration where
  id : TypeId
  namespaceName : String
  name : String
  node : Xml.Node

namespace Schema

/-- The elements of a schema that declare structures, complex types first. -/
def structureNodes (schema : Schema) : List (StructureKind × Xml.Node) :=
  [StructureKind.complexType, .entityType].flatMap fun kind =>
    (Markup.children schema.node kind.label).map fun node => (kind, node)

/-- A structure without content. The collection name of an entity type marks that its entities are
kept. -/
def stub (schema : Schema) (settings : Settings) (kind : StructureKind) (name : String) :
    Structure where
  namespaceName := schema.namespaceName
  name
  id := settings.mintId kind.idPart name
  collectionName := match kind with
    | .complexType => none
    | .entityType => some name

/-- Registers a structure without content. -/
def announce (settings : Settings) (schema : Schema) (state : Registry × List Declaration)
    (declared : StructureKind × Xml.Node) : Logged (Registry × List Declaration) := do
  let (kind, node) := declared
  let name ← .ofExcept (Markup.required node "Name")
  .tell (.announcingStructure name)
  let (id, registry) ← state.1.register (.structured (schema.stub settings kind name))
  return (registry, state.2 ++ [⟨id, schema.namespaceName, name, node⟩])

/-- Registers the structures of a schema without content. -/
def announceAll (settings : Settings) (state : Registry × List Declaration) (schema : Schema) :
    Logged (Registry × List Declaration) :=
  schema.structureNodes.foldlM (schema.announce settings) state

end Schema

end Csdl
