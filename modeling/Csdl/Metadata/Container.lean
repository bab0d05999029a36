import Csdl.Member.Functions
import Csdl.Metadata.Declaration

/-!
The containers of a document. Each entity set and each singleton is bound to a structure and gets
its extensions and functions from it.
-/

namespace Csdl

namespace MemberKind

/-- The kind of the members that elements of a label declare. -/
def ofLabel? (label : String) : Option MemberKind :=
  if label = "EntitySet" then some entitySet
  else if label = "Singleton" then some singleton
  else none

/-- The attribute that names the type of a member. -/
def typeAttribute : MemberKind → String
  | entitySet => "EntityType"
  | singleton => "Type"

end MemberKind

/-- The element of a container's member, and the namespace of the container. -/
structure MemberNode where
  namespaceName : String
  kind : MemberKind
  node : Xml.Node

/-- The kind of member that an element declares, if it declares one. -/
def memberKind? (node : Xml.Node) : Option MemberKind :=
  if node.name.namespaceName = some Markup.edm then MemberKind.ofLabel? node.label else none

/-- The members of all containers of a schema. -/
def Schema.members (schema : Schema) : List MemberNode :=
  (Markup.children schema.node "EntityContainer").flatMap fun container =>
    container.childElements.filterMap fun node =>
      (memberKind? node).map fun kind => ⟨schema.namespaceName, kind, node⟩

/-- What has been derived from the members so far. -/
structure Derivation where
  registry : Registry
  functions : List ServiceFunction := []
  cache : Query.Cache := {}

namespace Derivation

/-- The type that a member is bound to, and the registry in which it is valid. -/
def bind (registry : Registry) (aliases : AliasTable) (name reference : String) :
    Except Error (TypeId × Registry) := do
  let (type, registry) ← registry.resolve aliases reference
  match type with
  | .named id =>
    if (registry.structure? id).isSome then return (id, registry)
    else throw (.format (.memberNotStructured name reference))
  | .primitive _ => throw (.format (.memberNotStructured name reference))

/-- Reads the capabilities of a member through the cache. -/
def capabilities (cache : Query.Cache) (member : MemberNode) : Except Error Capabilities × Query.Cache :=
  (Capabilities.read ⟨[], member.node⟩ member.kind).run.run cache

/-- Derives a member's extensions and functions. The name of the member becomes the collection
name of its type. -/
def step (settings : Settings) (aliases : AliasTable) (navigations : List Navigation)
    (state : Derivation) (member : MemberNode) : Logged Derivation := do
  let name ← .ofExcept (Markup.required member.node "Name")
  let reference ← .ofExcept (Markup.required member.node member.kind.typeAttribute)
  let (entity, registry) ← .ofExcept (bind state.registry aliases name reference)
  let registry ← .ofExcept (registry.edit entity fun s => { s with collectionName := some name })
  let (capabilities, cache) := capabilities state.cache member
  let capabilities ← .ofExcept capabilities
  let (functions, registry) ← Member.generate registry navigations settings.expansions
    { name, namespaceName := member.namespaceName, entity, kind := member.kind } capabilities
  return { registry, functions := state.functions ++ functions, cache }

end Derivation

end Csdl
