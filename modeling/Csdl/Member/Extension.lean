import Csdl.Capability
import Csdl.Navigation
import Csdl.Settings
import Csdl.Types.Inheritance

/-!
The structures that are derived for a member of a container. Each extends the entity type that the
member is bound to: one is read, one is inserted and one is updated.
-/

namespace Csdl

/-- A member of a container: its name, the namespace of the container, and the type of its
entities. -/
structure Member where
  name : String
  namespaceName : String
  entity : TypeId
  kind : MemberKind
  deriving DecidableEq, Repr

/-- The navigations that a type itself declares. -/
def ownNavigations (navigations : List Navigation) (entity : TypeId) : List Navigation :=
  navigations.filter (·.owner = entity)

namespace Member

/-- A structure that extends an entity type, named after the member and a suffix. -/
def extension (member : Member) (entity : Structure) (suffix : String) : Structure where
  namespaceName := member.namespaceName
  name := member.name ++ suffix
  id := entity.id ++ suffix
  base := some member.entity

/-- The names of the navigations that are to be expanded in an entity type. -/
def expandedNames (expansions : List Expansion) (entity : Structure) : List String :=
  (expansions.filter (·.appliesTo entity.id entity.qualifiedName)).flatMap (·.navigations)

/-- The fields of the navigations that are expanded where an entity is read. -/
def expandedFields (navigations : List Navigation) (expansions : List Expansion) (member : Member)
    (entity : Structure) : List Field :=
  let names := expandedNames expansions entity
  ((ownNavigations navigations member.entity).filter fun n => names.contains n.name).map fun n =>
    { n.field with duplicate := true }

/-- The structure that is read: the entity type and the expanded navigations. -/
def selectExtension (navigations : List Navigation) (expansions : List Expansion)
    (member : Member) (entity : Structure) : Structure :=
  let fields := expandedFields navigations expansions member entity
  { member.extension entity "Select" with
    collectionName := entity.collectionName
    fields
    duplicates := fields.map (·.name) }

/-- The field that refers to the target of a navigation instead of holding it. -/
def bindField (navigation : Navigation) : Field :=
  (Field.scalar (navigation.name ++ "@odata.bind") .string).withCardinality
    navigation.field.cardinality

/-- The two fields of a navigation where an entity is written. -/
def writtenFields (capabilities : Capabilities) (navigation : Navigation) : List Field :=
  [ { navigation.field with collectionName := capabilities.bindingTarget? navigation.name },
    bindField navigation ]

/-- A structure that is written: the entity type without the restricted properties, and its
navigations that are not restricted either way. -/
def payloadExtension (navigations : List Navigation) (capabilities : Capabilities)
    (member : Member) (entity : Structure) (suffix : String)
    (restrictedProperties restrictedNavigations : List String) : Structure :=
  let written := (ownNavigations navigations member.entity).filter fun n =>
    !restrictedProperties.contains n.name && !restrictedNavigations.contains n.name
  { member.extension entity suffix with
    restricted := restrictedProperties
    fields := written.flatMap (writtenFields capabilities) }

/-- The structure that is inserted. -/
def insertExtension (navigations : List Navigation) (capabilities : Capabilities)
    (member : Member) (entity : Structure) : Structure :=
  payloadExtension navigations capabilities member entity "Insert"
    capabilities.nonInsertableProperties capabilities.nonInsertableNavigations

/-- The structure that is updated. -/
def updateExtension (navigations : List Navigation) (capabilities : Capabilities)
    (member : Member) (entity : Structure) : Structure :=
  payloadExtension navigations capabilities member entity "Update"
    capabilities.nonUpdatableProperties capabilities.nonUpdatableNavigations

end Member

end Csdl
